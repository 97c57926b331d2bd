import SqlWire.Proofs.Framing.Assembly
import SqlWire.Proofs.Framing.Budget

/-! # Reading that is cut off

A reading that is cut off leaves what has come in, and the part of a payload that is there already, in
the channel, and what is still to come with the transport. Reading on from there is thus the same as
having gone on reading (`Channel.seen_gather`), but for the time that it takes.
-/

namespace SqlWire

namespace Channel

theorem arrive_withBudget (budget : Option Duration) (c : Channel) (content : Content) :
    (c.withBudget budget).arrive content =
      ((c.arrive content).1, (c.arrive content).2.withBudget budget) := by
  obtain ⟨sequencer, assembler, inbox, outbox, ⟨readable, ended, errored⟩, _⟩ := c
  cases content with
  | data bytes => cases bytes <;> cases ended <;> rfl
  | ended => cases ended <;> rfl
  | failed cause => rfl

/-- A reader with another budget finds the same by the same deadline. -/
theorem gather_withBudget (budget deadline : Option Duration) (ended : Bool) (now : Duration)
    (c : Channel) (arrivals : List Arrival) :
    gather deadline ended now (c.withBudget budget) arrivals =
      { gather deadline ended now c arrivals with
        channel := (gather deadline ended now c arrivals).channel.withBudget budget } := by
  have found := takePayload_withBudget budget c
  fun_induction gather deadline ended now c arrivals with
  | case1 now c arrivals result c' taken => rw [gather, found, taken]
  | case2 now c c' taken ended cause c'' failed =>
    rw [gather, found, taken]
    simp only [arrive_withBudget, failed, ended, if_true]
  | case3 now c c' taken ended c'' arrived result c''' last =>
    rw [gather, found, taken]
    simp only [arrive_withBudget, arrived, takePayload_withBudget, last, ended, if_true]
  | case4 now c c' taken silent =>
    rw [gather, found, taken]
    simp only [silent]
    rfl
  | case5 now c c' taken a rest late =>
    rw [gather, found, taken]
    simp only [late, if_true]
  | case6 now c c' taken a rest inTime after cause c'' failed =>
    rw [gather, found, taken]
    simp only [inTime, arrive_withBudget, failed]
    rfl
  | case7 now c c' taken a rest inTime after c'' arrived ih =>
    rw [gather, found, taken]
    simp only [inTime, arrive_withBudget, arrived]
    exact ih (takePayload_withBudget ..)

theorem budget_gather (deadline : Option Duration) (ended : Bool) (now : Duration) (c : Channel)
    (arrivals : List Arrival) :
    (gather deadline ended now c arrivals).channel.budget = c.budget := by
  have same := gather_withBudget c.budget deadline ended now c arrivals
  rw [show c.withBudget c.budget = c from rfl] at same
  exact congrArg (fun r => r.channel.budget) same

/-- Where nothing has been found, nothing is found before something comes in. -/
theorem look_of_starved {c c' : Channel} (starved : c.look = (.starved, c')) :
    c'.look = (.starved, c') := by
  obtain ⟨sequencer, assembler, inbox, outbox, ⟨readable, ended, errored⟩, budget⟩ := c
  cases errored with
  | true => cases starved
  | false =>
    cases readable with
    | false =>
      cases starved
      rfl
    | true =>
      revert starved
      simp only [look]
      generalize sequencer.decode inbox = found
      obtain ⟨decoding, sequencer⟩ := found
      cases decoding with
      | incomplete =>
        intro starved
        cases ended with
        | false =>
          cases starved
          rfl
        | true => cases inbox <;> cases starved
      | packet p rest | outOfOrder expected found rest =>
        intro starved
        cases starved

theorem takePayload_of_none {c c' : Channel} (nothing : c.takePayload = (none, c')) :
    c'.takePayload = (none, c') := by
  fun_induction takePayload c with
  | case2 _ _ _ _ _ _ _ ih => exact ih nothing
  | case5 c c'' starved =>
    cases nothing
    rw [takePayload_eq, look_of_starved starved]
  | _ => cases nothing

/-- What is seen of a reading but for the time that it takes. -/
def Reading.seen (r : Reading) : Option (Except ChannelError Bytes) × Channel × Incoming :=
  (r.result, r.channel, r.incoming)

/-- Without a deadline it does not matter when a reading starts. -/
theorem seen_gather_none (ended : Bool) (now later : Duration) (c : Channel)
    (arrivals : List Arrival) :
    (gather none ended later c arrivals).seen = (gather none ended now c arrivals).seen := by
  induction arrivals generalizing now later c with
  | nil =>
    unfold gather
    rcases c.takePayload with ⟨_ | result, c'⟩
    · cases ended with
      | false => rfl
      | true =>
        simp only [if_true]
        rcases c'.arrive .ended with ⟨_ | _, last⟩ <;> rfl
    · rfl
  | cons a rest ih =>
    unfold gather
    rcases c.takePayload with ⟨_ | result, c'⟩
    · simp only [isLate, Bool.false_eq_true, if_false]
      rcases c'.arrive a.content with ⟨_ | _, arrived⟩
      · rfl
      · exact ih ..
    · rfl

/-- Nor does it matter whether the channel has been looked into before. -/
theorem gather_of_none {c c' : Channel} (nothing : c.takePayload = (none, c'))
    (deadline : Option Duration) (ended : Bool) (now : Duration) (arrivals : List Arrival) :
    gather deadline ended now c' arrivals = gather deadline ended now c arrivals := by
  unfold gather
  rw [nothing, takePayload_of_none nothing]

/-- Reading does not change whether the peer ends its side. -/
theorem ended_gather (deadline : Option Duration) (ended : Bool) (now : Duration) (c : Channel)
    (arrivals : List Arrival) :
    (gather deadline ended now c arrivals).incoming.ended = ended := by
  fun_induction gather deadline ended now c arrivals with
  | case7 _ _ _ _ _ _ _ _ _ _ ih => exact ih
  | _ => rfl

/-- A reading that is not cut off is the one without a deadline, and one that is cut off can be gone
on with at any moment. -/
theorem seen_gather (deadline : Option Duration) (ended : Bool) (now : Duration) (c : Channel)
    (arrivals : List Arrival) (later : Duration) :
    let r := gather deadline ended now c arrivals
    (gather none ended later c arrivals).seen =
      if r.result.isSome then r.seen
      else (gather none ended later r.channel r.incoming.arrivals).seen := by
  fun_induction gather deadline ended now c arrivals with
  | case1 now c arrivals result c' taken =>
    rw [gather, taken]
    rfl
  | case2 now c c' taken isEnded cause last failed =>
    rw [gather, taken]
    simp only [failed, isEnded, if_true]
    rfl
  | case3 now c c' taken isEnded arrived came result last took =>
    rw [gather, taken]
    simp only [came, took, isEnded, if_true]
    rfl
  | case4 now c c' taken silent =>
    simp only [Option.isSome_none, Bool.false_eq_true, if_false]
    rw [gather_of_none taken]
  | case5 now c c' taken a rest late =>
    simp only [Option.isSome_none, Bool.false_eq_true, if_false]
    rw [gather_of_none taken]
  | case6 now c c' taken a rest inTime after cause last failed =>
    rw [gather, taken]
    simp only [isLate, failed, Bool.false_eq_true, if_false]
    rfl
  | case7 now c c' taken a rest inTime after arrived came ih =>
    have onward : (gather none ended later c (a :: rest)).seen =
        (gather none ended later arrived rest).seen := by
      rw [gather, taken]
      simp only [isLate, came, Bool.false_eq_true, if_false]
      exact seen_gather_none ..
    exact onward.trans ih

/-- A reading that is cut off between the first two packets of a payload keeps the first one. -/
theorem gather_first_packet {full : Bytes} (longest : full.length = maxBody)
    {limit budget : Duration} {second : Arrival} (positive : 0 < limit.nanos)
    (late : limit.nanos ≤ second.due.nanos) :
    gather (some limit) false .zero ((start .start).withBudget (some budget))
        [⟨.zero, .zero, .data (Packet.encode ⟨0, full⟩)⟩, second] =
      ⟨none, ⟨⟨1, true⟩, ⟨full, 1⟩, [], [], ⟨false, false, false⟩, some budget⟩,
        ⟨[second], false⟩, limit⟩ := by
  have fits : full.length ≤ maxBody := Nat.le_of_eq longest
  let whole : Channel :=
    ⟨.start, .empty, Packet.encode ⟨0, full⟩, [], ⟨true, false, false⟩, some budget⟩
  have starved : ((start .start).withBudget (some budget)).takePayload =
      (none, (start .start).withBudget (some budget)) := by
    rw [takePayload_eq]
    rfl
  have looked : whole.look = (.packet full, { whole with inbox := [], sequencer := ⟨1, true⟩ }) := by
    have found := Packet.split?_encode (p := ⟨0, full⟩) fits []
    rw [List.append_nil] at found
    simp [whole, look, Sequencer.decode, found, Sequencer.start]
  have taken : whole.takePayload =
      (none, ⟨⟨1, true⟩, ⟨full, 1⟩, [], [], ⟨false, false, false⟩, some budget⟩) := by
    rw [takePayload_eq, looked]
    simp only [Assembler.push_full _ longest]
    rw [takePayload_eq]
    rfl
  have onward : gather (some limit) false .zero whole [second] =
      ⟨none, ⟨⟨1, true⟩, ⟨full, 1⟩, [], [], ⟨false, false, false⟩, some budget⟩,
        ⟨[second], false⟩, limit⟩ := by
    have tooLate : isLate .zero second.due (some limit) = true := by
      simp only [isLate, Bool.and_eq_true, decide_eq_true_eq]
      exact ⟨Nat.lt_of_lt_of_le positive late, late⟩
    have ends : cutOff .zero (some limit) = limit := by
      simp [cutOff, Duration.zero]
    rw [gather, taken]
    simp only [tooLate, if_true, ends]
  obtain ⟨a, b, d, bytes, -⟩ := Packet.encode_eq (p := ⟨0, full⟩) fits
  simp only [whole, bytes] at onward ⊢
  rw [gather, starved]
  exact onward

end Channel

end SqlWire
