import SqlWire.Proofs.Framing.Reading

/-! # Reading in time

A time budget does not change what is read as long as everything arrives in time. A channel with a
budget finds what the same channel without one finds (`Channel.takePayload_withBudget`), and what has
been gathered before the deadline is what the call reads (`Channel.read_of_gather`).
`Channel.read_whole` and `Channel.read_burst` are the two cases: the payload has come in, or it arrives
in one piece.
-/

namespace SqlWire

namespace Channel

section withBudget

variable (budget : Option Duration)

theorem look_withBudget (c : Channel) :
    (c.withBudget budget).look = (c.look.1, c.look.2.withBudget budget) := by
  obtain ⟨sequencer, assembler, inbox, outbox, ⟨readable, ended, errored⟩, _⟩ := c
  cases errored with
  | true => rfl
  | false =>
    cases readable with
    | false => rfl
    | true =>
      simp only [look, withBudget]
      generalize sequencer.decode inbox = found
      obtain ⟨decoding, sequencer⟩ := found
      cases decoding with
      | incomplete => cases ended <;> cases inbox <;> rfl
      | _ => rfl

theorem takePayload_eq (c : Channel) :
    c.takePayload = match c.look with
      | (.packet body, c') =>
        match c'.assembler.push body with
        | (some payload, assembler) => (some (.ok payload), { c' with assembler })
        | (none, assembler) => takePayload { c' with assembler }
      | (.failed cause, c') => (some (.error cause), c')
      | (.finished, c') => (some (.error .closed), c')
      | (.starved, c') => (none, c') := by
  rw [takePayload]
  split
  · next body c' found =>
    simp only [found]
    obtain ⟨_ | payload, assembler⟩ := c'.assembler.push body <;> rfl
  all_goals next found => rw [found]

theorem takePayload_withBudget (c : Channel) :
    (c.withBudget budget).takePayload = (c.takePayload.1, c.takePayload.2.withBudget budget) := by
  have looked := look_withBudget budget c
  fun_induction takePayload c with
  | case1 c body c' found _ assembler payload pushed =>
    rw [takePayload_eq, looked, found]
    simp only [withBudget, pushed]
  | case2 c body c' found _ assembler pushed ih =>
    rw [takePayload_eq, looked, found]
    simp only [withBudget, pushed]
    exact ih (look_withBudget ..)
  | case3 c cause c' found => rw [takePayload_eq, looked, found]
  | case4 c c' found => rw [takePayload_eq, looked, found]
  | case5 c c' found => rw [takePayload_eq, looked, found]

end withBudget

variable {c : Channel} {payload : Bytes} {others : List Bytes} {after : UInt8}

/-- Nothing is found in a channel that nothing has come in for. -/
theorem takePayload_empty (calm : (c.withBudget none).IsCalm) (empty : c.inbox = []) :
    ∃ readable, c.takePayload = (none, { c with gate := { c.gate with readable } }) := by
  have errored : c.gate.errored = false := calm.errored
  have ended : c.gate.ended = false := calm.ended
  rw [takePayload_eq]
  cases readable : c.gate.readable with
  | false =>
    refine ⟨c.gate.readable, ?_⟩
    change _ = (none, c)
    simp only [look, errored, readable, Bool.false_eq_true, if_false]
  | true =>
    refine ⟨false, ?_⟩
    simp [look, errored, readable, ended, empty, Sequencer.decode, Packet.split?]

/-- A payload that has come in is found. -/
theorem takePayload_whole (expects : (c.withBudget none).Expects [] payload others after) :
    ∃ c', c.takePayload = (some (.ok payload), c') ∧ (c'.withBudget none).Holds [] others ∧
      c'.sequencer.next = after ∧ c'.budget = c.budget := by
  obtain ⟨c', taken, holds, number⟩ | ⟨_, _, _, more⟩ := expects.takePayload
  · have same := takePayload_withBudget c.budget (c.withBudget none)
    rw [taken] at same
    refine ⟨c'.withBudget c.budget, same, ?_, number, rfl⟩
    have calm : c'.withBudget none = c' := by
      rw [withBudget, ← holds.calm.budget]
    change (c'.withBudget none).Holds [] others
    rwa [calm]
  · exact (more rfl).elim

/-- What has been gathered before the time is over is what a call reads. -/
theorem read_of_gather {c' : Channel} {now now' : Duration} {arrivals rest : List Arrival}
    {ended : Bool} (inTime : ∀ left ∈ c.budget, now'.nanos < now.nanos + left.nanos)
    (forward : now.nanos ≤ now'.nanos) (kept : c'.budget = c.budget)
    (gathered : ∀ deadline : Option Duration, (∀ limit ∈ deadline, now'.nanos < limit.nanos) →
      gather deadline ended now c arrivals = ⟨some (.ok payload), c', ⟨rest, ended⟩, now'⟩) :
    ∃ budget, c.read now ⟨arrivals, ended⟩ =
        (.ok payload, c'.withBudget budget, ⟨rest, ended⟩, now') ∧
      ∀ left ∈ budget, 0 < left.nanos := by
  cases limited : c.budget with
  | none =>
    refine ⟨none, ?_, nofun⟩
    have same : c'.withBudget none = c' := by rw [withBudget, ← limited, ← kept]
    simp only [read, limited, gathered none nofun, Option.getD_some, same]
  | some budget =>
    have enough := inTime budget limited
    have positive : budget.isZero = false := by
      simp only [Duration.isZero, beq_eq_false_iff_ne]
      omega
    refine ⟨some ⟨budget.nanos - (now'.nanos - now.nanos)⟩, ?_, ?_⟩
    · have found := gathered (some ⟨now.nanos + budget.nanos⟩) (by simpa using enough)
      simp only [read, limited, positive, found, settle, Bool.false_eq_true, if_false]
    · simp only [Option.mem_some_iff, forall_eq']
      omega

/-- A payload that has come in is read at once. -/
theorem read_whole (holds : (c.withBudget none).Holds [] (splitPayload payload ++ others))
    (inTime : ∀ left ∈ c.budget, 0 < left.nanos) (now : Duration) (ended : Bool) :
    ∃ c', c.read now ⟨[], ended⟩ = (.ok payload, c', ⟨[], ended⟩, now) ∧
      (c'.withBudget none).Holds [] others ∧
      c'.sequencer.next = c.sequencer.next + UInt8.ofNat (splitPayload payload).length ∧
      ∀ left ∈ c'.budget, 0 < left.nanos := by
  obtain ⟨c', taken, behind, number, kept⟩ := takePayload_whole holds.expects
  have gathered : ∀ deadline : Option Duration, (∀ limit ∈ deadline, now.nanos < limit.nanos) →
      gather deadline ended now c [] = ⟨some (.ok payload), c', ⟨[], ended⟩, now⟩ := by
    intro deadline _
    rw [gather, taken]
  have before : ∀ left ∈ c.budget, now.nanos < now.nanos + left.nanos := by
    intro left member
    have positive := inTime left member
    omega
  obtain ⟨budget, got, left⟩ := read_of_gather before (Nat.le_refl _) kept gathered
  exact ⟨_, got, behind, number, left⟩

/-- A payload that arrives in one piece, maybe with others behind it, is read when it arrives. -/
theorem read_burst {bytes : Bytes} {now due : Duration}
    (holds : (c.withBudget none).Holds bytes (splitPayload payload ++ others)) (empty : c.inbox = [])
    (inTime : ∀ left ∈ c.budget, max now.nanos due.nanos < now.nanos + left.nanos) (ended : Bool) :
    ∃ c', c.read now ⟨[⟨due, .zero, .data bytes⟩], ended⟩ =
        (.ok payload, c', ⟨[], ended⟩, ⟨max now.nanos due.nanos⟩) ∧
      (c'.withBudget none).Holds [] others ∧
      c'.sequencer.next = c.sequencer.next + UInt8.ofNat (splitPayload payload).length ∧
      ∀ left ∈ c'.budget, 0 < left.nanos := by
  obtain ⟨readable, starved⟩ := takePayload_empty holds.calm empty
  obtain ⟨b, rest, rfl⟩ : ∃ b rest, bytes = b :: rest := by
    have carried := holds.carried
    rw [show (c.withBudget none).inbox = [] from empty, List.nil_append] at carried
    rw [carried]
    exact List.exists_cons_of_ne_nil (Packet.stream_splitPayload_ne_nil _ _ _)
  let paused : Channel := { c with gate := { c.gate with readable } }
  have held : (paused.withBudget none).Holds (b :: rest ++ []) (splitPayload payload ++ others) := by
    rw [List.append_nil]
    refine ⟨{ holds.calm with paused := fun _ => ?_ }, holds.assembler, holds.carried⟩
    change Packet.split? c.inbox = none
    rw [empty, Packet.split?]
    simp
  obtain ⟨filled, arrived, expects⟩ := held.expects.arrive
  cases arrived
  obtain ⟨c', taken, behind, number, kept⟩ := takePayload_whole
    (c := (paused.arrive (.data (b :: rest))).2) expects
  have gathered : ∀ deadline : Option Duration,
      (∀ limit ∈ deadline, max now.nanos due.nanos < limit.nanos) →
      gather deadline ended now c [⟨due, .zero, .data (b :: rest)⟩] =
        ⟨some (.ok payload), c', ⟨[], ended⟩, ⟨max now.nanos due.nanos⟩⟩ := by
    intro deadline late
    have inside : isLate now due deadline = false := by
      cases deadline with
      | none => rfl
      | some limit =>
        have before := late limit rfl
        simp only [isLate, Bool.and_eq_false_iff, decide_eq_false_iff_not]
        omega
    have later : ∀ now', gather deadline ended now' (paused.arrive (.data (b :: rest))).2 [] =
        ⟨some (.ok payload), c', ⟨[], ended⟩, now'⟩ := by
      intro now'
      rw [gather, taken]
    unfold gather
    simp only [starved, inside, Bool.false_eq_true, if_false]
    exact later _
  obtain ⟨budget, got, left⟩ := read_of_gather inTime (Nat.le_max_left ..) kept gathered
  exact ⟨_, got, behind, number, left⟩

end Channel

end SqlWire
