import Mathlib.Tactic.SplitIfs
import SqlWire.Framing.Channel
import SqlWire.Proofs.Framing.Packets

/-! # Payloads through a channel

A channel that sends puts the packets of a payload on the wire in one piece. A channel that reads
gets them in any pieces: what has come in and what is still to come are together the packets of the
payload that is being read and of those behind it. `Channel.Expects` is this invariant of reading;
it holds in the middle of a payload too, where the assembler has a part of it.

`Channel.send_push` and `Channel.read_holds` are what a whole call does.
-/

namespace SqlWire

/-- The bytes that arrive. -/
def Arrival.bytes (a : Arrival) : Bytes :=
  match a.content with
  | .data bytes => bytes
  | _ => []

/-- Whether some bytes arrive and nothing else happens. -/
def Arrival.IsSegment (a : Arrival) : Prop := ∃ b rest, a.content = .data (b :: rest)

/-- The bytes of some arrivals. -/
def Arrival.all (arrivals : List Arrival) : Bytes := arrivals.flatMap bytes

namespace Channel

/-- Whether a channel has met nothing but bytes and has written all that it was given. -/
structure IsCalm (c : Channel) : Prop where
  errored : c.gate.errored = false
  ended : c.gate.ended = false
  paused : c.gate.readable = false → Packet.split? c.inbox = none
  strict : c.sequencer.strict = true
  outbox : c.outbox = []
  budget : c.budget = none

/-- A channel between two payloads, with the packets that are in it or on their way to it. -/
structure Holds (c : Channel) (future : Bytes) (bodies : List Bytes) : Prop where
  calm : c.IsCalm
  assembler : c.assembler = .empty
  carried : c.inbox ++ future = Packet.stream c.sequencer.next bodies

/-- A channel that reads a payload, with the bodies behind it and the number after it. -/
structure Expects (c : Channel) (future payload : Bytes) (others : List Bytes) (after : UInt8) :
    Prop where
  calm : c.IsCalm
  carried : ∃ left, c.assembler.buffer ++ left = payload ∧
    c.inbox ++ future = Packet.stream c.sequencer.next (splitPayload left ++ others) ∧
    after = c.sequencer.next + UInt8.ofNat (splitPayload left).length

/-- A channel with some packets to come is about to read the first payload of them. -/
theorem Holds.expects {c : Channel} {future payload : Bytes} {others : List Bytes}
    (holds : c.Holds future (splitPayload payload ++ others)) :
    c.Expects future payload others
      (c.sequencer.next + UInt8.ofNat (splitPayload payload).length) where
  calm := holds.calm
  carried := ⟨payload, by simp [holds.assembler, Assembler.empty], holds.carried, rfl⟩

/-- Nothing is in a channel, or on its way to it, that holds no packets. -/
theorem Holds.nil {c : Channel} {wire : Bytes} (holds : c.Holds wire []) :
    c.inbox = [] ∧ wire = [] :=
  List.append_eq_nil_iff.mp holds.carried

/-- Looking for a packet finds the next body, or nothing as long as more is to come. -/
theorem IsCalm.look {c : Channel} (calm : c.IsCalm) {future body : Bytes} {bodies : List Bytes}
    (carried : c.inbox ++ future = Packet.stream c.sequencer.next (body :: bodies))
    (fits : body.length ≤ maxBody) :
    (∃ readable, c.look = (.starved, { c with gate := { c.gate with readable } }) ∧
      IsCalm { c with gate := { c.gate with readable } } ∧ future ≠ []) ∨
    ∃ inbox, c.look = (.packet body, { c with
        inbox, sequencer := { c.sequencer with next := c.sequencer.next + 1 } }) ∧
      IsCalm { c with inbox, sequencer := { c.sequencer with next := c.sequencer.next + 1 } } ∧
      inbox ++ future = Packet.stream (c.sequencer.next + 1) bodies := by
  obtain ⟨none, more⟩ | ⟨inbox, found, rest⟩ :=
    Packet.split?_of_prefix (p := ⟨c.sequencer.next, body⟩) fits carried
  · left
    cases readable : c.gate.readable with
    | false =>
      refine ⟨c.gate.readable, ?_, calm, more⟩
      change c.look = (.starved, c)
      simp [Channel.look, calm.errored, readable]
    | true =>
      refine ⟨false, ?_, { calm with paused := fun _ => none }, more⟩
      simp [Channel.look, calm.errored, calm.ended, readable, Sequencer.decode, none]
  · right
    have readable : c.gate.readable = true := by
      cases readable : c.gate.readable with
      | true => rfl
      | false => simp [calm.paused readable] at found
    refine ⟨inbox, ?_, { calm with paused := ?_ }, rest⟩
    · simp [Channel.look, calm.errored, readable, Sequencer.decode, found]
    · intro closed
      simp [readable] at closed

/-- Looking for a packet while a payload is being read finds its last body, another one, or nothing
as long as more of it is to come. -/
theorem Expects.look {c : Channel} {future payload : Bytes} {others : List Bytes} {after : UInt8}
    (expects : c.Expects future payload others after) :
    (∃ c', c.look = (.starved, c') ∧ c'.Expects future payload others after ∧ future ≠ []) ∨
    ∃ body c', c.look = (.packet body, c') ∧
      ((c'.assembler.push body = (some payload, .empty) ∧
        Holds { c' with assembler := .empty } future others ∧ c'.sequencer.next = after) ∨
      ∃ a, c'.assembler.push body = (none, a) ∧
        Expects { c' with assembler := a } future payload others after) := by
  obtain ⟨left, whole, carried, number⟩ := expects.carried
  obtain ⟨short, bodies⟩ | ⟨front, rest, rfl, full, bodies⟩ := splitPayload_cases left
  · rw [bodies] at number
    obtain ⟨readable, looked, calm, more⟩ | ⟨inbox, looked, calm, behind⟩ :=
      expects.calm.look (by rwa [bodies] at carried) (Nat.le_of_lt short)
    · exact .inl ⟨_, looked, ⟨calm, left, whole, carried, by rw [bodies]; exact number⟩, more⟩
    · refine .inr ⟨left, _, looked, .inl ⟨?_, ⟨{ calm with }, rfl, behind⟩, number.symm⟩⟩
      have last : (left.length == maxBody) = false := by
        simp only [beq_eq_false_iff_ne]
        omega
      simp [Assembler.push, last, whole]
  · rw [bodies] at number
    obtain ⟨readable, looked, calm, more⟩ | ⟨inbox, looked, calm, behind⟩ :=
      expects.calm.look (by rwa [bodies] at carried) (Nat.le_of_eq full)
    · exact .inl ⟨_, looked, ⟨calm, _, whole, carried, by rw [bodies]; exact number⟩, more⟩
    · refine .inr ⟨front, _, looked, .inr ⟨⟨c.assembler.buffer ++ front, c.assembler.count + 1⟩, ?_, ?_⟩⟩
      · simp [Assembler.push, full]
      · refine ⟨{ calm with }, rest, by rw [List.append_assoc, whole], behind, ?_⟩
        rw [number, List.length_cons, ← Packet.number_succ]

/-- Taking a payload out of what has come in gives the payload that is being read, or nothing as long
as more of it is to come. -/
theorem Expects.takePayload {c : Channel} {future payload : Bytes} {others : List Bytes}
    {after : UInt8} (expects : c.Expects future payload others after) :
    (∃ c', c.takePayload = (some (.ok payload), c') ∧ c'.Holds future others ∧
      c'.sequencer.next = after) ∨
    ∃ c', c.takePayload = (none, c') ∧ c'.Expects future payload others after ∧ future ≠ [] := by
  have looks := expects.look
  fun_induction Channel.takePayload c with
  | case1 c body c' looked shorter assembler taken pushed =>
    rw [looked] at looks
    obtain ⟨_, wrong, _⟩ | ⟨_, _, found, last⟩ := looks
    · cases wrong
    · cases found
      rw [pushed] at last
      obtain ⟨same, holds, number⟩ | ⟨_, wrong, _⟩ := last
      · cases same
        exact .inl ⟨_, rfl, holds, number⟩
      · cases wrong
  | case2 c body c' looked shorter assembler pushed ih =>
    rw [looked] at looks
    obtain ⟨_, wrong, _⟩ | ⟨_, _, found, last⟩ := looks
    · cases wrong
    · cases found
      rw [pushed] at last
      obtain ⟨wrong, _⟩ | ⟨_, same, later⟩ := last
      · cases wrong
      · cases same
        exact ih later later.look
  | case3 c cause c' looked =>
    rw [looked] at looks
    obtain ⟨_, wrong, _⟩ | ⟨_, _, wrong, _⟩ := looks <;> cases wrong
  | case4 c c' looked =>
    rw [looked] at looks
    obtain ⟨_, wrong, _⟩ | ⟨_, _, wrong, _⟩ := looks <;> cases wrong
  | case5 c c' looked =>
    rw [looked] at looks
    obtain ⟨_, found, later, more⟩ | ⟨_, _, wrong, _⟩ := looks
    · cases found
      exact .inr ⟨_, rfl, later, more⟩
    · cases wrong

/-- Bytes that arrive belong to what has come in. -/
theorem Expects.arrive {c : Channel} {b : UInt8} {bytes future payload : Bytes} {others : List Bytes}
    {after : UInt8} (expects : c.Expects (b :: bytes ++ future) payload others after) :
    ∃ c', c.arrive (.data (b :: bytes)) = (.ok (), c') ∧ c'.Expects future payload others after := by
  refine ⟨_, rfl, ⟨?_, ?_⟩⟩
  · exact { expects.calm with ended := rfl, paused := fun closed => by cases closed }
  · obtain ⟨left, whole, carried, number⟩ := expects.carried
    exact ⟨left, whole, by rw [← carried, List.append_assoc], number⟩

/-- Waiting for a payload whose bytes arrive in any pieces gives the payload. -/
theorem Expects.gather {c : Channel} {arrivals : List Arrival} {payload : Bytes}
    {others : List Bytes} {after : UInt8} (segments : ∀ a ∈ arrivals, a.IsSegment)
    (expects : c.Expects (Arrival.all arrivals) payload others after) (ended : Bool) (now : Duration) :
    ∃ c' rest now', gather none ended now c arrivals = ⟨some (.ok payload), c', ⟨rest, ended⟩, now'⟩ ∧
      c'.Holds (Arrival.all rest) others ∧ c'.sequencer.next = after := by
  induction arrivals generalizing c now with
  | nil =>
    obtain ⟨c', taken, holds, number⟩ | ⟨_, _, _, more⟩ := expects.takePayload
    · exact ⟨c', [], now, by rw [Channel.gather, taken], holds, number⟩
    · exact (more rfl).elim
  | cons a rest ih =>
    obtain ⟨c', taken, holds, number⟩ | ⟨c', taken, expects, _⟩ := expects.takePayload
    · exact ⟨c', a :: rest, now, by rw [Channel.gather, taken], holds, number⟩
    · obtain ⟨⟨b, bytes, content⟩, later⟩ := List.forall_mem_cons.mp segments
      have here : Arrival.all (a :: rest) = b :: bytes ++ Arrival.all rest := by
        simp [Arrival.all, Arrival.bytes, content]
      rw [here] at expects
      obtain ⟨c'', arrived, expects⟩ := expects.arrive
      have step := Channel.gather.eq_def none ended now c (a :: rest)
      simp only [taken, isLate, content, arrived, Bool.false_eq_true, ↓reduceIte] at step
      rw [step]
      exact ih later expects _

/-- Reading a payload whose bytes are in the channel, or arrive in any pieces, gives the payload, and
leaves the packets behind it. -/
theorem read_holds {c : Channel} {incoming : Incoming} {payload : Bytes} {others : List Bytes}
    (segments : ∀ a ∈ incoming.arrivals, a.IsSegment)
    (holds : c.Holds (Arrival.all incoming.arrivals) (splitPayload payload ++ others))
    (now : Duration) :
    ∃ c' rest now', c.read now incoming = (.ok payload, c', ⟨rest, incoming.ended⟩, now') ∧
      c'.Holds (Arrival.all rest) others ∧
      c'.sequencer.next = c.sequencer.next + UInt8.ofNat (splitPayload payload).length := by
  obtain ⟨c', rest, now', gathered, behind, number⟩ :=
    holds.expects.gather segments incoming.ended now
  refine ⟨c', rest, now', ?_, behind, number⟩
  simp only [read, holds.calm.budget, gathered, Option.getD_some]

/-- Waiting leaves the last of the arrivals. -/
theorem gather_suffix (deadline : Option Duration) (ended : Bool) (now : Duration) (c : Channel)
    (arrivals : List Arrival) :
    (gather deadline ended now c arrivals).incoming.arrivals <:+ arrivals := by
  fun_induction gather deadline ended now c arrivals with
  | case6 => exact List.suffix_cons ..
  | case7 _ _ _ _ _ _ _ _ _ _ ih => exact ih.trans (List.suffix_cons ..)
  | _ => exact List.suffix_rfl

/-- Reading leaves the last of the arrivals. -/
theorem read_suffix (now : Duration) (c : Channel) (incoming : Incoming) :
    (c.read now incoming).2.2.1.arrivals <:+ incoming.arrivals := by
  unfold read
  split
  · exact gather_suffix ..
  · split
    · exact List.suffix_rfl
    · exact gather_suffix ..

/-- Puts bytes on a wire that takes them all. -/
def push (bytes wire : Bytes) : Except IoError Unit × Bytes := (.ok (), wire ++ bytes)

/-- A channel that has sent some bodies. -/
def sent (c : Channel) (bodies : List Bytes) : Channel :=
  { c with
    outbox := []
    sequencer := { c.sequencer with next := c.sequencer.next + UInt8.ofNat bodies.length } }

/-- A channel with nothing to come has nothing to come after it has sent something. -/
theorem Holds.sent {c : Channel} {wire : Bytes} (holds : c.Holds wire []) (bodies : List Bytes) :
    (c.sent bodies).Holds wire [] where
  calm := { holds.calm with outbox := rfl }
  assembler := holds.assembler
  carried := holds.carried

section writes

variable {ω : Type} {write : Bytes → ω → Except IoError Unit × ω} {P : Bytes → ω → Prop}

/-- What is left to go out goes out as one piece of the bytes that a writer still expects. -/
theorem flush_writes (writes : ∀ chunk rest w, chunk ≠ [] → P (chunk ++ rest) w →
      ∃ w', write chunk w = (.ok (), w') ∧ P rest w')
    (c : Channel) {rest : Bytes} {w : ω} (due : P (c.outbox ++ rest) w) :
    ∃ w', flush write c w = (.ok (), { c with outbox := [] }, w') ∧ P rest w' := by
  unfold flush
  split
  · next empty =>
    have none := List.isEmpty_iff.mp empty
    rw [none, List.nil_append] at due
    exact ⟨w, by rw [← none], due⟩
  · next some =>
    obtain ⟨w', written, due⟩ := writes c.outbox rest w (by simpa using some) due
    exact ⟨w', by rw [written], due⟩

/-- Bodies that are not too long go out behind what was left to go out, in some pieces, to a writer
that takes them all. -/
theorem feed_writes (writes : ∀ chunk rest w, chunk ≠ [] → P (chunk ++ rest) w →
      ∃ w', write chunk w = (.ok (), w') ∧ P rest w')
    {bodies : List Bytes} (fits : ∀ body ∈ bodies, body.length ≤ maxBody) (c : Channel) {w : ω}
    (due : P (c.outbox ++ Packet.stream c.sequencer.next bodies) w) :
    ∃ w', feed write bodies c w = (.ok (), c.sent bodies, w') ∧ P [] w' := by
  induction bodies generalizing c w with
  | nil =>
    obtain ⟨w', flushed, due⟩ := flush_writes writes c due
    exact ⟨w', by simp [feed, flushed, sent], due⟩
  | cons body rest ih =>
    obtain ⟨fit, others⟩ := List.forall_mem_cons.mp fits
    have small : ¬ maxBody < body.length := by omega
    have later (outbox : Bytes) (w' : ω)
        (due : P (outbox ++ Packet.stream c.sequencer.next (body :: rest)) w') :
        ∃ w'', feed write rest { c with
            outbox := outbox ++ Packet.encode ⟨c.sequencer.next, body⟩
            sequencer := { c.sequencer with next := c.sequencer.next + 1 } } w' =
          (.ok (), c.sent (body :: rest), w'') ∧ P [] w'' := by
      rw [Packet.stream, ← List.append_assoc] at due
      have number := Packet.number_succ c.sequencer.next rest.length
      have fed := ih others { c with
        outbox := outbox ++ Packet.encode ⟨c.sequencer.next, body⟩
        sequencer := { c.sequencer with next := c.sequencer.next + 1 } } due
      simpa only [sent, number, List.length_cons] using fed
    unfold feed
    split
    next room c' w' made =>
    split_ifs at made with full
    · obtain ⟨w'', flushed, due⟩ := flush_writes writes c due
      cases flushed.symm.trans made
      simp only [Sequencer.encode, small, ↓reduceIte]
      exact later [] _ due
    · cases made
      simp only [Sequencer.encode, small, ↓reduceIte]
      exact later _ _ due

/-- A payload goes out in its packets, whatever its length, as long as there is time. -/
theorem send_writes (writes : ∀ chunk rest w, chunk ≠ [] → P (chunk ++ rest) w →
      ∃ w', write chunk w = (.ok (), w') ∧ P rest w')
    {c : Channel} (outbox : c.outbox = []) (inTime : ∀ left ∈ c.budget, 0 < left.nanos)
    (payload : Bytes) {w : ω} (due : P (Packet.stream c.sequencer.next (splitPayload payload)) w) :
    ∃ w', c.send write payload w = (.ok (), c.sent (splitPayload payload), w') ∧ P [] w' := by
  have fits : ∀ body ∈ splitPayload payload, body.length ≤ maxBody := by
    intro body member
    exact length_le_of_mem_splitPayload member
  obtain ⟨w', fed, done⟩ := feed_writes writes fits c (by rwa [outbox])
  refine ⟨w', ?_, done⟩
  cases limited : c.budget with
  | none => simp only [send, timed, limited, fed]
  | some budget =>
    have positive : budget.isZero = false := by
      simp only [Duration.isZero, beq_eq_false_iff_ne]
      exact Nat.ne_of_gt (inTime budget limited)
    simp only [send, timed, limited, positive, fed, Bool.false_eq_true, if_false]

end writes

/-- A payload goes out in its packets, whatever its length. -/
theorem send_push {c : Channel} (outbox : c.outbox = []) (budget : c.budget = none)
    (payload wire : Bytes) :
    c.send push payload wire = (.ok (), c.sent (splitPayload payload),
      wire ++ Packet.stream c.sequencer.next (splitPayload payload)) := by
  let Due (rest sent : Bytes) : Prop :=
    sent ++ rest = wire ++ Packet.stream c.sequencer.next (splitPayload payload)
  have writes : ∀ chunk rest sent, chunk ≠ [] → Due (chunk ++ rest) sent →
      ∃ sent', push chunk sent = (.ok (), sent') ∧ Due rest sent' :=
    fun chunk rest sent _ due => ⟨sent ++ chunk, rfl, (List.append_assoc ..).trans due⟩
  have due : Due (Packet.stream c.sequencer.next (splitPayload payload)) wire := rfl
  obtain ⟨sent, done, whole⟩ := send_writes (P := Due) writes outbox (by simp [budget]) payload due
  rw [done, ← whole, List.append_nil]

end Channel

end SqlWire
