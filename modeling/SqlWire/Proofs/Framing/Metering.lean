import Mathlib.Logic.Relation
import SqlWire.Framing.Transport
import SqlWire.Proofs.Framing.Resuming

/-! # Calls within a time budget

A call on a channel whose budget is used up fails before it touches the transport. Every other call
does on the transport what it can until its deadline (`Transport.tried`), and the budget decides only
what is reported of it and what is left for the next one (`Transport.isMetered`). So a budget that is
not set again never grows, through any calls (`Transport.run_budget`).

A reading that was cut off can be gone on with as often as it takes (`Transport.isResumed`): the first
one that comes to its end finds what a reading without a deadline would have found at the start.
-/

namespace SqlWire

/-- Whether a budget is not more than another one; no limit goes with no limit only. -/
def IsWithin (left budget : Option Duration) : Prop := Option.Rel (·.nanos ≤ ·.nanos) left budget

theorem IsWithin.refl (budget : Option Duration) : IsWithin budget budget := by
  cases budget with
  | none => exact .none
  | some budget => exact .some (Nat.le_refl _)

theorem IsWithin.trans {last left budget : Option Duration} (later : IsWithin last left)
    (first : IsWithin left budget) : IsWithin last budget := by
  cases first with
  | none => exact later
  | some less =>
    cases later with
    | some lesser => exact .some (Nat.le_trans lesser less)

namespace Channel

@[simp] theorem budget_withBudget (c : Channel) (budget : Option Duration) :
    (c.withBudget budget).budget = budget := rfl

@[simp] theorem withBudget_withBudget (c : Channel) (budget later : Option Duration) :
    (c.withBudget budget).withBudget later = c.withBudget later := rfl

/-- A call is cut off, or the transport fails, or there is another result. -/
theorem outcome_cases {α : Type} (result : Option (Except ChannelError α)) :
    result = none ∨ (∃ cause, result = some (.error (.io cause))) ∨
      ∃ other, result = some other ∧ ∀ cause, other ≠ .error (.io cause) := by
  match result with
  | none => exact .inl rfl
  | some (.error (.io cause)) => exact .inr (.inl ⟨cause, rfl⟩)
  | some (.ok value) => exact .inr (.inr ⟨_, rfl, nofun⟩)
  | some (.error (.protocol _)) | some (.error .closed) | some (.error (.packetTooLarge ..))
  | some (.error .timeout) => exact .inr (.inr ⟨_, rfl, nofun⟩)

section settle

variable {α : Type} (budget spent : Duration)

theorem settle_none : settle (α := α) budget spent none = (.error .timeout, .zero) := rfl

theorem settle_io (cause : IoError) :
    settle (α := α) budget spent (some (.error (.io cause))) =
      (.error (if (⟨budget.nanos - spent.nanos⟩ : Duration) = .zero then .timeout else .io cause),
        ⟨budget.nanos - spent.nanos⟩) := by
  simp only [settle, Duration.isZero_iff]

theorem settle_other {result : Except ChannelError α} (other : ∀ cause, result ≠ .error (.io cause)) :
    settle budget spent (some result) = (result, ⟨budget.nanos - spent.nanos⟩) := by
  unfold settle
  split
  · next none => cases none
  · next cause failed => exact (other cause (Option.some.inj failed)).elim
  · next found => rw [Option.some.inj found]

/-- A call leaves no more time than there was. -/
theorem settle_le (result : Option (Except ChannelError α)) :
    (settle budget spent result).2.nanos ≤ budget.nanos := by
  unfold settle
  split
  · exact Nat.zero_le _
  · exact Nat.sub_le ..
  · exact Nat.sub_le ..

end settle

end Channel

namespace Transport

variable {ω : Type} (T : Transport ω)

section budget

variable (deadline : Option Duration) (c : Channel) (w : ω)

theorem budget_drain : (T.drain deadline c w).2.1.budget = c.budget := by
  fun_induction drain T deadline c w with
  | case5 _ _ _ _ _ _ ih => exact ih
  | _ => rfl

theorem budget_feed (bodies : List Bytes) :
    (T.feed deadline bodies c w).2.1.budget = c.budget := by
  induction bodies generalizing c w with
  | nil => exact T.budget_drain deadline c w
  | cons body rest ih =>
    unfold feed
    split
    next room c' w' made =>
    have kept : c'.budget = c.budget := by
      split at made
      · have drained := T.budget_drain deadline c w
        rwa [made] at drained
      · cases made
        rfl
    split
    · exact kept
    · exact kept
    · split
      · exact kept
      · exact (ih ..).trans kept

theorem budget_finish : (T.finish deadline c w).2.1.budget = c.budget := by
  have drained := T.budget_drain deadline c w
  unfold finish
  split
  · next made => rwa [made] at drained
  · exact drained

/-- What a call does on the transport does not change the budget. -/
theorem budget_attempt (k : Call) : (T.attempt k deadline c w).2.1.budget = c.budget := by
  cases k with
  | read => exact Channel.budget_gather ..
  | send payload | command payload => exact T.budget_feed ..
  | close => exact T.budget_finish ..

end budget

/-- What a call does on the transport while it has time. -/
def tried (k : Call) (c : Channel) (w : ω) : Outcome ω Bytes :=
  T.attempt k (T.deadline c w) (k.enter c) w

theorem budget_enter (k : Call) (c : Channel) : (k.enter c).budget = c.budget := by
  cases k <;> rfl

theorem budget_tried (k : Call) (c : Channel) (w : ω) :
    (T.tried k c w).2.1.budget = c.budget :=
  (T.budget_attempt ..).trans (budget_enter k c)

theorem deadline_enter (k : Call) (c : Channel) (w : ω) :
    T.deadline (k.enter c) w = T.deadline c w := by
  cases k <;> rfl

theorem call_unlimited {k : Call} {c : Channel} (unlimited : c.budget = none) (w : ω) :
    T.call k c w = T.tried k c w := by
  simp only [call, tried, budget_enter, deadline, unlimited, Option.map_none]

theorem call_spent {k : Call} {c : Channel} (spent : c.budget = some .zero) (w : ω) :
    T.call k c w = (some (.error .timeout), k.enter c, w) := by
  simp [call, budget_enter, spent, Duration.isZero, Duration.zero]

theorem call_limited {k : Call} {c : Channel} {budget : Duration} (limited : c.budget = some budget)
    (positive : budget ≠ .zero) (w : ω) :
    T.call k c w =
      let (result, c', w') := T.tried k c w
      let (result, left) :=
        Channel.settle budget ⟨(T.meter w').nanos - (T.meter w).nanos⟩ result
      (some result, c'.withBudget (some left), w') := by
  have some : budget.isZero = false :=
    Bool.eq_false_iff.mpr fun zero => positive (Duration.isZero_iff.mp zero)
  simp only [call, tried, budget_enter, limited, some, deadline_enter, Bool.false_eq_true,
    if_false]

/-- What a call with some budget is. -/
structure IsMetered (k : Call) (c : Channel) (w : ω) : Prop where
  /-- Without a budget the call does what it can, and there is no budget after it. -/
  unlimited : c.budget = none → T.call k c w = T.tried k c w ∧ (T.call k c w).2.1.budget = none
  /-- With a budget that is used up it does nothing on the transport. -/
  spent : c.budget = some .zero → T.call k c w = (some (.error .timeout), k.enter c, w)
  /-- With any other it does what it can, -/
  tried : c.budget ≠ some .zero → (T.call k c w).2.2 = (T.tried k c w).2.2 ∧
    (T.call k c w).2.1.withBudget none = (T.tried k c w).2.1.withBudget none
  /-- and comes to an end. -/
  ends : c.budget.isSome → (T.call k c w).1.isSome
  /-- A call that is cut off leaves no time. -/
  cutOff : c.budget.isSome → (T.tried k c w).1 = none →
    (T.call k c w).1 = some (.error .timeout) ∧ (T.call k c w).2.1.budget = some .zero
  /-- A call that is not cut off is charged with what it took. -/
  charged : ∀ budget ∈ c.budget, budget ≠ .zero → (T.tried k c w).1 ≠ none →
    (T.call k c w).2.1.budget = some
      ⟨budget.nanos - ((T.meter (T.call k c w).2.2).nanos - (T.meter w).nanos)⟩
  /-- A failure of the transport is reported if there is time left, or time is not limited. -/
  failed : c.budget ≠ some .zero → ∀ cause, (T.tried k c w).1 = some (.error (.io cause)) →
    (T.call k c w).1 =
      some (.error (if (T.call k c w).2.1.budget = some .zero then .timeout else .io cause))
  /-- No other failure of the transport is reported. -/
  blamed : ∀ cause, (T.call k c w).1 = some (.error (.io cause)) →
    c.budget ≠ some .zero ∧ (T.tried k c w).1 = some (.error (.io cause)) ∧
      (T.call k c w).2.1.budget ≠ some .zero
  /-- Every other result is reported as it is. -/
  reported : c.budget ≠ some .zero → ∀ result, (T.tried k c w).1 = some result →
    (∀ cause, result ≠ .error (.io cause)) → (T.call k c w).1 = some result

theorem isMetered (k : Call) (c : Channel) (w : ω) : T.IsMetered k c w := by
  obtain unlimited | spent | ⟨budget, limited, positive⟩ : c.budget = none ∨ c.budget = some .zero ∨
      ∃ budget, c.budget = some budget ∧ budget ≠ .zero := by
    cases c.budget with
    | none => exact .inl rfl
    | some budget =>
      by_cases zero : budget = .zero
      · exact .inr (.inl (congrArg some zero))
      · exact .inr (.inr ⟨budget, rfl, zero⟩)
  · have same := T.call_unlimited (k := k) unlimited w
    have kept : (T.tried k c w).2.1.budget = none := by
      rw [T.budget_tried, unlimited]
    constructor <;> simp_all
  · have nothing := T.call_spent (k := k) spent w
    constructor <;> simp_all [budget_enter]
  · have called := T.call_limited (k := k) limited positive w
    rcases made : T.tried k c w with ⟨result, c', w'⟩
    rw [made] at called
    obtain rfl | ⟨cause, rfl⟩ | ⟨result, rfl, other⟩ := Channel.outcome_cases result
    · simp only [Channel.settle_none] at called
      constructor <;> simp_all
    · simp only [Channel.settle_io] at called
      constructor
      case blamed =>
        intro cause' same
        rw [called] at same ⊢
        simp only [Option.some.injEq, Except.error.injEq] at same
        split at same
        · cases same
        · next some =>
          cases same
          exact ⟨by simpa [limited] using positive, by rw [made], by simpa using some⟩
      all_goals simp_all
    · simp only [Channel.settle_other _ _ other] at called
      constructor <;> simp_all

/-- No call adds to the budget, or limits time that was not limited. -/
theorem call_budget (k : Call) (c : Channel) (w : ω) :
    IsWithin (T.call k c w).2.1.budget c.budget := by
  have metered := T.isMetered k c w
  cases limited : c.budget with
  | none =>
    rw [(metered.unlimited limited).2]
    exact .refl _
  | some budget =>
    by_cases positive : budget = .zero
    · subst positive
      rw [metered.spent limited, budget_enter, limited]
      exact .refl _
    · rw [T.call_limited limited positive]
      exact .some (Channel.settle_le ..)

/-- Whether an event leaves it to the calls how much time is left. -/
def Event.LeavesBudget : Event ω → Prop
  | setBudget _ => False
  | _ => True

theorem step_budget (x : Channel × ω) {e : Event ω} (leaves : e.LeavesBudget) :
    IsWithin (T.step x e).1.budget x.1.budget := by
  cases e with
  | setBudget budget => exact leaves.elim
  | call k => exact T.call_budget ..
  | elapse w => exact .refl _

/-- A budget that is not set again does not grow, and there is none if there was none. -/
theorem run_budget (x : Channel × ω) {events : List (Event ω)}
    (leaves : ∀ e ∈ events, e.LeavesBudget) : IsWithin (T.run x events).1.budget x.1.budget := by
  induction events generalizing x with
  | nil => exact .refl _
  | cons e rest ih =>
    obtain ⟨first, others⟩ := List.forall_mem_cons.mp leaves
    exact (ih (T.step x e) others).trans (T.step_budget x first)

section resuming

/-- What is seen of an outcome but for the time that it takes and the time that it leaves. -/
def seen (outcome : Outcome ω Bytes) : Option (Except ChannelError Bytes) × Channel × Incoming :=
  (outcome.1, outcome.2.1.withBudget none, T.incoming outcome.2.2)

theorem seen_gather (deadline : Option Duration) (c : Channel) (w : ω) :
    T.seen (T.gather deadline c w) =
      (Channel.gather deadline (T.incoming w).ended (T.now w) (c.withBudget none)
        (T.incoming w).arrivals).seen := by
  rw [Channel.gather_withBudget]
  simp only [seen, gather, T.incoming_advance, Channel.Reading.seen]

/-- What is seen of a reading without a deadline. -/
def sees (x : Channel × ω) : Option (Except ChannelError Bytes) × Channel × Incoming :=
  T.seen (T.gather none x.1 x.2)

/-- What a reading without a deadline finds lies in the channel and in what comes in. -/
theorem sees_congr {x y : Channel × ω} (channel : y.1.withBudget none = x.1.withBudget none)
    (incoming : T.incoming y.2 = T.incoming x.2) : T.sees y = T.sees x := by
  rw [sees, sees, seen_gather, seen_gather, channel, incoming]
  exact Channel.seen_gather_none ..

/-- A reading that is not cut off is the one without a deadline, and what one that is cut off leaves
is still to be found. -/
theorem sees_of_tried (x : Channel × ω) {tried : Outcome ω Bytes}
    (made : T.tried .read x.1 x.2 = tried) :
    T.sees x = if tried.1.isSome then T.seen tried else T.sees tried.2 := by
  have found := T.seen_gather (T.deadline x.1 x.2) x.1 x.2
  change T.gather (T.deadline x.1 x.2) x.1 x.2 = tried at made
  have whole := Channel.seen_gather (T.deadline x.1 x.2) (T.incoming x.2).ended (T.now x.2)
    (x.1.withBudget none) (T.incoming x.2).arrivals (T.now x.2)
  have ended := Channel.ended_gather (T.deadline x.1 x.2) (T.incoming x.2).ended (T.now x.2)
    (x.1.withBudget none) (T.incoming x.2).arrivals
  rw [made] at found
  dsimp only at whole
  generalize Channel.gather (T.deadline x.1 x.2) _ _ _ _ = r at found whole ended
  obtain ⟨result, channel, incoming⟩ : r.result = tried.1 ∧ r.channel = tried.2.1.withBudget none ∧
      r.incoming = T.incoming tried.2.2 := by
    simpa only [seen, Channel.Reading.seen, Prod.mk.injEq, eq_comm] using found
  rw [sees, seen_gather, whole, result, ← found]
  congr 1
  rw [sees, seen_gather, channel, ← ended, incoming]
  exact Channel.seen_gather_none ..

/-- Whether a reading that did not come to its end is about to be gone on with: there was no time, or
it was cut off, and then time has passed and a new budget was set. -/
def Interrupts (x y : Channel × ω) : Prop :=
  ∃ later budget, (x.1.budget = some .zero ∨ (T.tried .read x.1 x.2).1 = none) ∧
    T.incoming later = T.incoming (T.call .read x.1 x.2).2.2 ∧
    y = T.run x [.call .read, .elapse later, .setBudget budget]

theorem sees_of_interrupts {x y : Channel × ω} (interrupts : T.Interrupts x y) :
    T.sees y = T.sees x := by
  obtain ⟨later, budget, stopped, incoming, rfl⟩ := interrupts
  have metered := T.isMetered .read x.1 x.2
  by_cases spent : x.1.budget = some .zero
  · have nothing := metered.spent spent
    rw [nothing] at incoming
    refine T.sees_congr ?_ incoming
    simp only [run, List.foldl_cons, List.foldl_nil, step, nothing, Channel.withBudget_withBudget]
    rfl
  · obtain ⟨world, channel⟩ := metered.tried spent
    have cutOff := stopped.resolve_left spent
    have whole := T.sees_of_tried x rfl
    rw [cutOff] at whole
    rw [whole]
    exact T.sees_congr channel (incoming.trans (congrArg T.incoming world))

/-- What a reading finds that was cut off any number of times and is gone on with. -/
structure IsResumed (x y : Channel × ω) : Prop where
  /-- If it is not cut off again, it finds what a reading without a deadline finds at the start. -/
  found : (T.tried .read y.1 y.2).1 ≠ none → T.seen (T.tried .read y.1 y.2) = T.sees x
  /-- Thus a payload that comes in as bytes in any pieces is read as it is, and what is behind it is
  left; without a budget the reading is not cut off. -/
  whole : ∀ {payload : Bytes} {others : List Bytes},
    (∀ a ∈ (T.incoming x.2).arrivals, a.IsSegment) →
    (x.1.withBudget none).Holds (Arrival.all (T.incoming x.2).arrivals)
      (splitPayload payload ++ others) →
    (y.1.budget.isSome → y.1.budget ≠ some .zero ∧ (T.tried .read y.1 y.2).1 ≠ none) →
    (T.call .read y.1 y.2).1 = some (.ok payload) ∧
      ((T.call .read y.1 y.2).2.1.withBudget none).Holds
        (Arrival.all (T.incoming (T.call .read y.1 y.2).2.2).arrivals) others

theorem sees_of_interruptions {x y : Channel × ω}
    (interruptions : Relation.ReflTransGen T.Interrupts x y) : T.sees y = T.sees x := by
  induction interruptions with
  | refl => rfl
  | tail _ last ih => exact (T.sees_of_interrupts last).trans ih

theorem isResumed {x y : Channel × ω} (interruptions : Relation.ReflTransGen T.Interrupts x y) :
    T.IsResumed x y := by
  have same := T.sees_of_interruptions interruptions
  have found : (T.tried .read y.1 y.2).1 ≠ none → T.seen (T.tried .read y.1 y.2) = T.sees x := by
    intro result
    have whole := T.sees_of_tried y rfl
    rw [if_pos (Option.isSome_iff_ne_none.mpr result)] at whole
    exact whole.symm.trans same
  refine ⟨found, ?_⟩
  intro payload others segments holds inTime
  obtain ⟨c', rest, now', gathered, behind, -⟩ :=
    holds.expects.gather segments (T.incoming x.2).ended (T.now x.2)
  have due : T.sees x = (some (.ok payload), c', ⟨rest, (T.incoming x.2).ended⟩) := by
    rw [sees, seen_gather, gathered]
    rfl
  have limited : y.1.budget ≠ some .zero := by
    intro spent
    exact (inTime (by rw [spent]; rfl)).1 spent
  have tried : T.seen (T.tried .read y.1 y.2) = T.sees x := by
    cases unlimited : y.1.budget with
    | some budget => exact found (inTime (by rw [unlimited]; rfl)).2
    | none =>
      have deadline : T.deadline y.1 y.2 = none := by rw [Transport.deadline, unlimited]; rfl
      rw [← same, sees, ← deadline]
      rfl
  have metered := T.isMetered .read y.1 y.2
  obtain ⟨world, channel⟩ := metered.tried limited
  obtain ⟨result, left, incoming⟩ : (T.tried .read y.1 y.2).1 = some (.ok payload) ∧
      (T.tried .read y.1 y.2).2.1.withBudget none = c' ∧
      T.incoming (T.tried .read y.1 y.2).2.2 = ⟨rest, (T.incoming x.2).ended⟩ := by
    simpa only [seen, Prod.mk.injEq] using tried.trans due
  refine ⟨metered.reported limited _ result nofun, ?_⟩
  rw [channel, world, left, incoming]
  exact behind

end resuming

/-- Whatever has become of a channel and its transport: a call is metered; as long as the budget is
not set again, no calls add to it; and a reading that was cut off, in the middle of a payload or
not, can be gone on with. -/
theorem metered (x : Channel × ω) :
    (∀ k, T.IsMetered k x.1 x.2) ∧
      (∀ events : List (Event ω), (∀ e ∈ events, e.LeavesBudget) →
        IsWithin (T.run x events).1.budget x.1.budget) ∧
      ∀ y, Relation.ReflTransGen T.Interrupts x y → T.IsResumed x y :=
  ⟨fun k => T.isMetered k x.1 x.2, fun _ leaves => T.run_budget x leaves,
    fun _ interruptions => T.isResumed interruptions⟩

/-- A payload in two packets, of which the second arrives after the reading has been cut off. -/
theorem metered_two_packets :
    let full : Bytes := List.replicate maxBody 7
    let T := scripted Channel.push
    let first : Arrival := ⟨.zero, .zero, .data (Packet.encode ⟨0, full⟩)⟩
    let second : Arrival := ⟨⟨10⟩, .zero, .data (Packet.encode ⟨1, [9]⟩)⟩
    let x : Channel × Script Bytes :=
      ((Channel.start .start).withBudget (some ⟨5⟩), ⟨.zero, ⟨[first, second], false⟩, []⟩)
    let cut := T.call .read x.1 x.2
    let y := T.run x [.call .read, .elapse cut.2.2, .setBudget none]
    cut.1 = some (.error .timeout) ∧
      cut.2.1.withBudget none = ⟨⟨1, true⟩, ⟨full, 1⟩, [], [], ⟨false, false, false⟩, none⟩ ∧
      IsWithin (T.run x [.call .read, .call .close]).1.budget (some ⟨5⟩) ∧
      T.call .close cut.2.1 cut.2.2 = (some (.error .timeout), cut.2) ∧
      (T.call .read y.1 y.2).1 = some (.ok (full ++ [9])) := by
  intro full T first second x cut y
  have longest : full.length = maxBody := List.length_replicate
  clear_value full
  have gathered : Channel.gather (some ⟨5⟩) false .zero x.1 [first, second] = _ :=
    Channel.gather_first_packet longest (Nat.succ_pos 4) (Nat.le_of_ble_eq_true rfl)
  have tried : T.tried .read x.1 x.2 = (none,
      ⟨⟨1, true⟩, ⟨full, 1⟩, [], [], ⟨false, false, false⟩, some ⟨5⟩⟩,
      ⟨⟨5⟩, ⟨[second], false⟩, []⟩) := by
    exact congrArg (fun r : Channel.Reading =>
      (r.result, r.channel, T.advance r.incoming r.now x.2)) gathered
  obtain ⟨metered, budget, resumed⟩ := T.metered x
  obtain ⟨timeout, spent⟩ := (metered .read).cutOff rfl (by rw [tried])
  have limited : x.1.budget ≠ some .zero := by simp [x, Duration.zero]
  obtain ⟨world, channel⟩ := (metered .read).tried limited
  rw [tried] at world channel
  have again : T.Interrupts x y := ⟨cut.2.2, none, .inr (by rw [tried]), rfl, rfl⟩
  have holds : (x.1.withBudget none).Holds (Arrival.all [first, second])
      (splitPayload (full ++ [9]) ++ []) := by
    have run : IsRun [full, [9]] := .cons longest (.single (by simp [maxBody]))
    have split : splitPayload (full ++ [9]) = [full, [9]] := by simpa using splitPayload_flatten run
    rw [split]
    refine ⟨⟨rfl, rfl, fun _ => rfl, rfl, rfl, rfl⟩, rfl, ?_⟩
    have inbox : (x.1.withBudget none).inbox = [] := rfl
    have next : (x.1.withBudget none).sequencer.next = 0 := rfl
    have front : first.bytes = Packet.encode ⟨0, full⟩ := rfl
    have back : second.bytes = Packet.encode ⟨0 + 1, [9]⟩ := rfl
    rw [inbox, next, List.nil_append, List.append_nil, Packet.stream, Packet.stream, Packet.stream,
      Arrival.all, List.flatMap_cons, List.flatMap_cons, List.flatMap_nil, front, back]
  have segments : ∀ a ∈ [first, second], a.IsSegment := by
    obtain ⟨a, b, d, bytes, -⟩ := Packet.encode_eq (p := ⟨0, full⟩) (Nat.le_of_eq longest)
    refine List.forall_mem_cons.mpr ⟨⟨_, _, congrArg Content.data bytes⟩, ?_⟩
    exact List.forall_mem_singleton.mpr ⟨_, _, rfl⟩
  have unlimited : y.1.budget = none := rfl
  have within := budget [.call .read, .call .close] (by simp [Event.LeavesBudget])
  have nothing (z : Channel × Script Bytes) (spent : z.1.budget = some .zero) :
      T.call .close z.1 z.2 = (some (.error .timeout), z) := ((T.metered z).1 .close).spent spent
  have whole := ((resumed y (.single again)).whole segments holds fun limited => by
    rw [unlimited] at limited
    cases limited).1
  exact ⟨timeout, channel, within, nothing cut.2 spent, whole⟩

end Transport

end SqlWire
