import SqlWire.Framing.Sequencer

/-! # Decoding in any pieces

A reader adds what has come in to an inbox and takes packets out of it until no whole one is left. A
packet out of order is reported and dropped, and the reader goes on behind it.

Where the bytes are cut does not matter, and that they are packets at all is not asked: what the
first bytes have decided is not undone by the bytes behind them (`Packet.split?_append`), so that an
inbox that has been drained before more comes in gives the same as one that has not
(`drain_receive`). `feedAll_eq_feed_flatten` is this for any number of pieces.
-/

namespace SqlWire

/-- A packet that is whole stays the first one when more bytes come in. -/
theorem Packet.split?_append {bytes rest : Bytes} {p : Packet}
    (whole : split? bytes = some (p, rest)) (more : Bytes) :
    split? (bytes ++ more) = some (p, rest ++ more) := by
  unfold split? at whole
  split at whole
  · next a b c sequence others =>
    simp only [List.splitAt_eq, Option.ite_none_left_eq_some, List.length_take,
      Nat.not_lt] at whole
    obtain ⟨enough, found⟩ := whole
    cases found
    have fits : LittleEndian.value [a, b, c] ≤ others.length := by omega
    simp [split?, List.take_append_of_le_length fits, List.drop_append_of_le_length fits, fits]
  · cases whole

/-- A sequencer and the bytes that have come in for it. -/
structure Intake where
  sequencer : Sequencer
  inbox : Bytes
deriving Repr, DecidableEq

namespace Intake

def empty (s : Sequencer) : Intake := ⟨s, []⟩

def receive (i : Intake) (bytes : Bytes) : Intake := { i with inbox := i.inbox ++ bytes }

/-- Looks for a packet: there is none, or the first one is taken out, if only to report that it is
out of order. -/
def decode (i : Intake) : Option (Except ChannelError Packet) × Intake :=
  match i.sequencer.decode i.inbox with
  | (.incomplete, s) => (none, { i with sequencer := s })
  | (.packet p rest, s) => (some (.ok p), ⟨s, rest⟩)
  | (.outOfOrder expected found rest, s) =>
    (some (.error (.protocol (.outOfOrder expected found))), ⟨s, rest⟩)

/-- What is looked for is there exactly if a whole packet is. -/
theorem decode_cases (i : Intake) :
    Packet.split? i.inbox = none ∧ i.decode = (none, i) ∨
    ∃ p rest, Packet.split? i.inbox = some (p, rest) ∧
      (i.decode = (some (.error (.protocol (.outOfOrder i.sequencer.next p.sequence))),
          ⟨i.sequencer, rest⟩) ∧ (i.sequencer.strict && p.sequence != i.sequencer.next) = true ∨
        i.decode = (some (.ok p), ⟨{ i.sequencer with next := p.sequence + 1 }, rest⟩) ∧
          (i.sequencer.strict && p.sequence != i.sequencer.next) = false) := by
  unfold decode Sequencer.decode
  cases split : Packet.split? i.inbox with
  | none => exact .inl ⟨rfl, rfl⟩
  | some found =>
    obtain ⟨p, rest⟩ := found
    refine .inr ⟨p, rest, rfl, ?_⟩
    cases wrong : i.sequencer.strict && p.sequence != i.sequencer.next with
    | true => exact .inl ⟨by simp [wrong], rfl⟩
    | false => exact .inr ⟨by simp [wrong], rfl⟩

theorem length_of_decode {i i' : Intake} {r : Except ChannelError Packet}
    (decoded : i.decode = (some r, i')) : i'.inbox.length < i.inbox.length := by
  obtain ⟨_, none⟩ | ⟨p, rest, split, ⟨some, _⟩ | ⟨some, _⟩⟩ := i.decode_cases
  · cases none.symm.trans decoded
  · cases some.symm.trans decoded
    exact Packet.length_of_split? split
  · cases some.symm.trans decoded
    exact Packet.length_of_split? split

/-- Nothing is changed where no packet is found. -/
theorem eq_of_decode_none {i : Intake} (starved : i.decode.1 = none) : i.decode = (none, i) := by
  obtain ⟨_, none⟩ | ⟨p, rest, _, ⟨some, _⟩ | ⟨some, _⟩⟩ := i.decode_cases
  · exact none
  · simp [some] at starved
  · simp [some] at starved

/-- A packet that is reported as out of order does not count. -/
theorem sequencer_of_decode_error {i : Intake} {cause : ChannelError}
    (failed : i.decode.1 = some (.error cause)) : i.decode.2.sequencer = i.sequencer := by
  obtain ⟨_, none⟩ | ⟨p, rest, _, ⟨some, _⟩ | ⟨some, _⟩⟩ := i.decode_cases
  · simp [none] at failed
  · simp [some]
  · simp [some] at failed

/-- What is found does not depend on what comes in behind it. -/
theorem decode_receive {i i' : Intake} {r : Except ChannelError Packet}
    (decoded : i.decode = (some r, i')) (more : Bytes) :
    (i.receive more).decode = (some r, i'.receive more) := by
  obtain ⟨_, none⟩ | ⟨p, rest, split, found⟩ := i.decode_cases
  · cases none.symm.trans decoded
  · have split := Packet.split?_append split more
    obtain ⟨some, wrong⟩ | ⟨some, wrong⟩ := found <;> cases some.symm.trans decoded <;>
      simp [decode, Sequencer.decode, receive, split, wrong]

/-- Takes packets out until no whole one is left: what was found, and what is left. -/
def drain (i : Intake) : List (Except ChannelError Packet) × Intake :=
  match found : i.decode with
  | (none, i) => ([], i)
  | (some r, i') =>
    have := length_of_decode found
    (r :: (drain i').1, (drain i').2)
termination_by i.inbox.length

theorem drain_of_none {i : Intake} (starved : i.decode.1 = none) : i.drain = ([], i) := by
  have same := eq_of_decode_none starved
  rw [drain]
  split
  · next i' found =>
    cases same.symm.trans found
    rfl
  · next found => cases same.symm.trans found

theorem drain_of_some {i i' : Intake} {r : Except ChannelError Packet}
    (decoded : i.decode = (some r, i')) : i.drain = (r :: i'.drain.1, i'.drain.2) := by
  rw [drain]
  split
  · next found => cases decoded.symm.trans found
  · next found =>
    cases decoded.symm.trans found
    rfl

/-- Draining ends where no whole packet is left. -/
theorem decode_drain (i : Intake) : i.drain.2.decode = (none, i.drain.2) := by
  induction i using drain.induct with
  | case1 i i' starved =>
    have starved : i.decode.1 = none := by rw [starved]
    rw [drain_of_none starved]
    exact eq_of_decode_none starved
  | case2 i r i' decoded shorter ih =>
    rw [drain_of_some decoded]
    exact ih

/-- Draining before more comes in, and again behind it, is draining once. -/
theorem drain_receive (i : Intake) (more : Bytes) :
    (i.receive more).drain =
      (i.drain.1 ++ (i.drain.2.receive more).drain.1, (i.drain.2.receive more).drain.2) := by
  induction i using drain.induct with
  | case1 i i' starved =>
    have starved : i.decode.1 = none := by rw [starved]
    simp [drain_of_none starved]
  | case2 i r i' decoded shorter ih =>
    rw [drain_of_some decoded, drain_of_some (decode_receive decoded more), ih]
    rfl

/-- Takes in bytes and drains. -/
def feed (i : Intake) (bytes : Bytes) : List (Except ChannelError Packet) × Intake :=
  (i.receive bytes).drain

/-- Takes in pieces one by one and drains after each. -/
def feedAll : List Bytes → Intake → List (Except ChannelError Packet) × Intake
  | [], i => ([], i)
  | piece :: rest, i =>
    let (results, i) := i.feed piece
    (results ++ (feedAll rest i).1, (feedAll rest i).2)

/-- An intake without a whole packet gives the same for pieces as for all their bytes at once. -/
theorem feedAll_of_starved {i : Intake} (starved : i.decode.1 = none) (pieces : List Bytes) :
    feedAll pieces i = i.feed pieces.flatten := by
  induction pieces generalizing i with
  | nil =>
    have same : i.receive [] = i := by simp [receive]
    rw [feedAll, List.flatten_nil, feed, same, drain_of_none starved]
  | cons piece rest ih =>
    have drained : (i.feed piece).2.decode.1 = none := by rw [feed, decode_drain]
    have joined : i.receive (piece ++ rest.flatten) = (i.receive piece).receive rest.flatten := by
      simp [receive]
    calc feedAll (piece :: rest) i
        = ((i.feed piece).1 ++ (feedAll rest (i.feed piece).2).1,
            (feedAll rest (i.feed piece).2).2) := rfl
      _ = ((i.feed piece).1 ++ ((i.feed piece).2.feed rest.flatten).1,
            ((i.feed piece).2.feed rest.flatten).2) := by rw [ih drained]
      _ = i.feed (piece :: rest).flatten := by
        rw [List.flatten_cons, feed, feed, feed, joined, drain_receive (i.receive piece)]

/-- Whatever bytes come in and wherever they are cut, with either way of checking the order and from
any number on: the packets and errors that the pieces give one by one, what is left of the bytes and
the number at the end are those of all the bytes at once, and no whole packet is left. Where a
reader finds no packet it changes nothing, and where it finds an error it does not count the
packet. -/
theorem feedAll_eq_feed_flatten (s : Sequencer) (pieces : List Bytes) :
    feedAll pieces (empty s) = (empty s).feed pieces.flatten ∧
    (feedAll pieces (empty s)).2.decode.1 = none ∧
    ∀ i : Intake, (i.decode.1 = none → i.decode.2 = i) ∧
      ∀ cause, i.decode.1 = some (.error cause) → i.decode.2.sequencer = i.sequencer := by
  have starved : (empty s).decode.1 = none := rfl
  have whole := feedAll_of_starved starved pieces
  refine ⟨whole, ?_, ?_⟩
  · rw [whole, feed, decode_drain]
  · intro i
    refine ⟨?_, ?_⟩
    · intro none
      rw [eq_of_decode_none none]
    · intro cause failed
      exact sequencer_of_decode_error failed

/-- Cut in a header and in a body, around a packet that is out of order and behind which a packet
begins. -/
theorem feedAll_eq_feed_flatten_outOfOrder :
    feedAll [[1, 0], [0, 7, 9, 1, 0, 0, 3], [5, 2, 0, 0, 8, 6]] (empty ⟨7, true⟩) =
      ([.ok ⟨7, [9]⟩, .error (.protocol (.outOfOrder 8 3))], ⟨⟨8, true⟩, [2, 0, 0, 8, 6]⟩) ∧
    (Intake.mk ⟨8, true⟩ [2, 0, 0, 8, 6]).decode.2 = ⟨⟨8, true⟩, [2, 0, 0, 8, 6]⟩ ∧
    (Intake.mk ⟨8, true⟩ [1, 0, 0, 3, 5]).decode.2.sequencer = ⟨8, true⟩ := by
  obtain ⟨pieces, -, unchanged⟩ := feedAll_eq_feed_flatten ⟨7, true⟩
    [[1, 0], [0, 7, 9, 1, 0, 0, 3], [5, 2, 0, 0, 8, 6]]
  refine ⟨?_, (unchanged _).1 (by decide), (unchanged _).2 _ rfl⟩
  rw [pieces, feed, drain_of_some (r := .ok ⟨7, [9]⟩) rfl, drain_of_some rfl, drain_of_none rfl]
  rfl

end Intake

end SqlWire
