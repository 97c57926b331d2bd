import SqlWire.Proofs.Framing.Metering

/-! # Calls on a transport that follows a script

Where writing takes no time, there is one clock, and a caller who would wait without end is told that
time is over, a call over a transport is the one of the channel.
-/

namespace SqlWire

/-- A result that took no time leaves the budget as it is. -/
theorem Channel.settle_zero {α : Type} {budget : Duration} (positive : budget ≠ .zero)
    (result : Except ChannelError α) : settle budget .zero (some result) = (result, budget) := by
  have left : (⟨budget.nanos - Duration.zero.nanos⟩ : Duration) = budget := rfl
  obtain none | ⟨cause, failed⟩ | ⟨other, found, proper⟩ := outcome_cases (some result)
  · cases none
  · cases failed
    rw [settle_io, left, if_neg positive]
  · cases found
    rw [settle_other _ _ proper, left]

namespace Transport

variable {σ : Type} (write : Bytes → σ → Except IoError Unit × σ)

theorem drain_scripted (deadline : Option Duration) (c : Channel) (w : Script σ) :
    (scripted write).drain deadline c w =
      let (result, c, out) := Channel.flush write c w.out
      (some result, c, { w with out }) := by
  have empty (c : Channel) (w : Script σ) (none : c.outbox = []) :
      (scripted write).drain deadline c w = (some (.ok ()), c, w) := by
    rw [drain, dif_pos none]
    rfl
  unfold Channel.flush
  by_cases none : c.outbox = []
  · rw [empty c w none, if_pos (List.isEmpty_iff.mpr none)]
  · rw [if_neg (mt List.isEmpty_iff.mp none), drain, dif_neg none]
    obtain ⟨count, length⟩ : ∃ count, c.outbox.length = count + 1 :=
      Nat.exists_eq_succ_of_ne_zero (mt List.eq_nil_of_length_eq_zero none)
    rcases taken : write c.outbox w.out with ⟨_ | _, out⟩
    · simp only [scripted, taken, Except.map]
    · have all : c.outbox.drop (count + 1) = [] := by rw [← length, List.drop_length]
      have last := empty { c with outbox := [] } { w with out } rfl
      simp only [scripted, taken, Except.map, length, all] at last ⊢
      exact last

theorem feed_scripted (deadline : Option Duration) (bodies : List Bytes) (c : Channel)
    (w : Script σ) :
    (scripted write).feed deadline bodies c w =
      let (result, c, out) := Channel.feed write bodies c w.out
      (some result, c, { w with out }) := by
  induction bodies generalizing c w with
  | nil => exact drain_scripted ..
  | cons body rest ih =>
    unfold feed Channel.feed
    by_cases full : Channel.outboxLimit ≤ c.outbox.length
    · simp only [if_pos full, drain_scripted]
      rcases Channel.flush write c w.out with ⟨_ | _, c', out⟩
      · rfl
      · cases c'.sequencer.encode body with
        | error cause => rfl
        | ok packet => exact ih ..
    · simp only [if_neg full]
      cases c.sequencer.encode body with
      | error cause => rfl
      | ok packet => exact ih ..

/-- A call that only writes is the one of the channel if what it does on the transport is. -/
theorem call_scripted {k : Call} {action : Channel → σ → Except ChannelError Unit × Channel × σ}
    (attempt : ∀ deadline c w, (scripted write).attempt k deadline c w =
      let (result, c, out) := action c w.out
      (some (result.map fun () => []), c, { w with out }))
    (c : Channel) (w : Script σ) :
    (scripted write).call k c w =
      let (result, c, out) := Channel.timed action (k.enter c) w.out
      (some (result.map fun () => []), c, { w with out }) := by
  cases limited : c.budget with
  | none =>
    rw [call_unlimited _ limited, tried, attempt, Channel.timed, budget_enter, limited]
  | some budget =>
    by_cases positive : budget = .zero
    · subst positive
      rw [call_spent _ limited, Channel.timed, budget_enter, limited]
      rfl
    · rw [call_limited _ limited positive]
      have kept := budget_tried (scripted write) k c w
      have some : ¬ budget.isZero = true := mt Duration.isZero_iff.mp positive
      simp only [tried, attempt, Channel.timed, budget_enter, limited] at kept ⊢
      rw [if_neg some]
      generalize action (k.enter c) w.out = outcome at kept ⊢
      obtain ⟨result, c', out⟩ := outcome
      have elapsed : (⟨w.now.nanos - w.now.nanos⟩ : Duration) = .zero := by
        rw [Nat.sub_self]
        rfl
      have same : c'.withBudget (Option.some budget) = c' := by
        rw [← kept]
        rfl
      simp only [scripted, elapsed, Channel.settle_zero positive, same]

theorem call_send_scripted (payload : Bytes) (c : Channel) (w : Script σ) :
    (scripted write).call (.send payload) c w =
      let (result, c, out) := c.send write payload w.out
      (some (result.map fun () => []), c, { w with out }) := by
  refine call_scripted write (fun deadline c w => ?_) c w
  simp only [attempt, feed_scripted]
  rfl

theorem call_command_scripted (payload : Bytes) (c : Channel) (w : Script σ) :
    (scripted write).call (.command payload) c w =
      let (result, c, out) := c.command write payload w.out
      (some (result.map fun () => []), c, { w with out }) := by
  refine call_scripted write (fun deadline c w => ?_) c w
  simp only [attempt, feed_scripted]
  rfl

theorem call_close_scripted (c : Channel) (w : Script σ) :
    (scripted write).call .close c w =
      let (result, c, out) := c.close write w.out
      (some (result.map fun () => []), c, { w with out }) := by
  refine call_scripted write (fun deadline c w => ?_) c w
  simp only [attempt, finish, drain_scripted]
  rcases Channel.flush write c w.out with ⟨_ | _, c', out⟩ <;> rfl

theorem call_read_scripted (c : Channel) (w : Script σ) :
    let (result, c', w') := (scripted write).call .read c w
    (result.getD (.error .timeout), c', w'.incoming, w'.now) = c.read w.now w.incoming ∧
      w'.out = w.out := by
  cases limited : c.budget with
  | none =>
    rw [call_unlimited _ limited]
    simp only [tried, deadline, limited, Channel.read]
    exact ⟨rfl, rfl⟩
  | some budget =>
    by_cases positive : budget = .zero
    · subst positive
      rw [call_spent _ limited, Channel.read, limited]
      exact ⟨rfl, rfl⟩
    · have some := mt Duration.isZero_iff.mp positive
      rw [call_limited _ limited positive]
      simp only [tried, deadline, limited, Channel.read]
      rw [if_neg some]
      exact ⟨rfl, rfl⟩

end Transport

end SqlWire
