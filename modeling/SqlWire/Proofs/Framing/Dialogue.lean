import Mathlib.Logic.Function.Basic
import SqlWire.Proofs.Framing.Assembly
import SqlWire.Proofs.Framing.Reading

/-! # Two peers on one stream

A client and a server take turns on a stream that loses nothing. The client starts a round with a
command, which restarts its sequence numbers, and the server restarts its own when it takes the
command up; within a round either peer sends as many payloads as it likes once it has read what it
was sent. The bytes on their way reach a reader in any pieces.

`Dialogue.Flows` is the invariant: towards one peer there are the packets of what it has not read,
towards the other there is nothing, and the sender's number is the one behind them. `Run.isFaithful`
follows: every payload is sent, and every reading gives the oldest payload that has not been read.
-/

namespace SqlWire

/-- The two ends of a stream. -/
inductive Peer where
  | client
  | server
deriving Repr, DecidableEq

def Peer.other : Peer → Peer
  | client => server
  | server => client

@[simp] theorem Peer.other_other (p : Peer) : p.other.other = p := by cases p <;> rfl

@[simp] theorem Peer.other_ne (p : Peer) : p.other ≠ p := by cases p <;> decide

@[simp] theorem Peer.ne_other (p : Peer) : p ≠ p.other := by cases p <;> decide

theorem Peer.eq_or_eq_other (p q : Peer) : q = p ∨ q = p.other := by cases p <;> cases q <;> decide

/-- Two peers and what is under way between them. -/
structure Dialogue where
  channel : Peer → Channel
  /-- The bytes on their way to a peer. -/
  pipe : Peer → Bytes
  /-- The payloads that were sent to a peer and that it has not read. -/
  unread : Peer → List Bytes
  /-- Whether the server still has to take up a command. -/
  asked : Bool

namespace Dialogue

/-- Two peers that have not said anything yet. -/
def start : Dialogue := ⟨fun _ => .start .start, fun _ => [], fun _ => [], false⟩

/-- A peer has written a payload. -/
def written (d : Dialogue) (p : Peer) (payload : Bytes) (asked : Bool) (c : Channel) (wire : Bytes) :
    Dialogue where
  channel := Function.update d.channel p c
  pipe := Function.update d.pipe p.other wire
  unread := Function.update d.unread p.other (d.unread p.other ++ [payload])
  asked := asked

/-- The client starts a round with a command. -/
def command (d : Dialogue) (payload : Bytes) : Except ChannelError Unit × Dialogue :=
  let (result, c, wire) := (d.channel .client).command Channel.push payload (d.pipe .server)
  (result, d.written .client payload true c wire)

def send (d : Dialogue) (p : Peer) (payload : Bytes) : Except ChannelError Unit × Dialogue :=
  let (result, c, wire) := (d.channel p).send Channel.push payload (d.pipe p.other)
  (result, d.written p payload d.asked c wire)

/-- The channel with which a peer reads: the server restarts it for a command. -/
def reader (d : Dialogue) (p : Peer) : Channel :=
  if d.asked = true ∧ p = .server then (d.channel p).reset else d.channel p

/-- A peer reads a payload from the bytes on their way to it. -/
def read (d : Dialogue) (p : Peer) (now : Duration) (incoming : Incoming) :
    Except ChannelError Bytes × Dialogue :=
  let (result, c, left, _) := (d.reader p).read now incoming
  (result,
    { channel := Function.update d.channel p c
      pipe := Function.update d.pipe p (Arrival.all left.arrivals)
      unread := Function.update d.unread p (d.unread p).tail
      asked := d.asked && p != .server })

/-- What is seen of a step. -/
inductive Event where
  | sent (result : Except ChannelError Unit)
  /-- A reading, with the oldest payload that had not been read. -/
  | got (due : Option Bytes) (result : Except ChannelError Bytes)

/-- Whether a payload was sent, or the one that was due was read. -/
def Event.IsFaithful : Event → Prop
  | sent result => result = .ok ()
  | got due result => ∃ payload, due = some payload ∧ result = .ok payload

/-- One step: a command when all has been read, a payload from a peer that has read all it was sent,
or a reading of a payload that was sent, whose bytes arrive in any pieces. -/
inductive Step : Dialogue → Event → Dialogue → Prop where
  | command {d : Dialogue} (payload : Bytes) (quiet : ∀ p, d.unread p = []) :
    Step d (.sent (d.command payload).1) (d.command payload).2
  | send {d : Dialogue} (p : Peer) (payload : Bytes) (turn : d.unread p = []) :
    Step d (.sent (d.send p payload).1) (d.send p payload).2
  | read {d : Dialogue} (p : Peer) (now : Duration) (incoming : Incoming)
    (waiting : d.unread p ≠ []) (segments : ∀ a ∈ incoming.arrivals, a.IsSegment)
    (pieces : Arrival.all incoming.arrivals = d.pipe p) :
    Step d (.got (d.unread p).head? (d.read p now incoming).1) (d.read p now incoming).2

/-- Steps one after the other, with what is seen of them. -/
inductive Run : Dialogue → List Event → Dialogue → Prop where
  | done (d : Dialogue) : Run d [] d
  | step {d d' d'' : Dialogue} {events : List Event} {e : Event} (run : Run d events d')
    (last : Step d' e d'') : Run d (events ++ [e]) d''

/-- The packets of what a peer has not read are on their way to it, and nothing is on its way to the
other peer, which would go on with the number behind them. -/
structure Flows (d : Dialogue) (p : Peer) : Prop where
  asked : d.asked = true → p = .server ∧ d.unread p ≠ []
  idle : d.unread p.other = []
  back : (d.channel p.other).Holds (d.pipe p.other) []
  there : (d.reader p).Holds (d.pipe p) ((d.unread p).flatMap splitPayload)
  number : (d.channel p.other).sequencer.next = (d.reader p).sequencer.next +
    UInt8.ofNat ((d.unread p).flatMap splitPayload).length

/-- Nothing is on its way, and both peers would go on with the same number. -/
structure Rests (d : Dialogue) : Prop where
  asked : d.asked = false
  unread : ∀ p, d.unread p = []
  empty : ∀ p, (d.channel p).Holds (d.pipe p) []
  number : (d.channel .client).sequencer.next = (d.channel .server).sequencer.next

variable {d : Dialogue} {p : Peer}

theorem reader_of_not_asked (asked : d.asked = false) (p : Peer) : d.reader p = d.channel p := by
  simp [reader, asked]

theorem Rests.number_eq (rests : d.Rests) (p q : Peer) :
    (d.channel p).sequencer.next = (d.channel q).sequencer.next := by
  have number := rests.number
  cases p <;> cases q <;> simp [number]

theorem Flows.rests (flows : d.Flows p) (empty : d.unread p = []) : d.Rests := by
  have asked : d.asked = false := by
    cases asked : d.asked with
    | false => rfl
    | true => exact ((flows.asked asked).2 empty).elim
  have there := flows.there
  have number := flows.number
  rw [reader_of_not_asked asked, empty] at there number
  refine ⟨asked, ?unread, ?held, ?number⟩
  case unread =>
    intro q
    rcases p.eq_or_eq_other q with rfl | rfl
    · exact empty
    · exact flows.idle
  case held =>
    intro q
    rcases p.eq_or_eq_other q with rfl | rfl
    · exact there
    · exact flows.back
  case number =>
    simp only [List.flatMap_nil, List.length_nil] at number
    cases p <;> simp_all [Peer.other]

theorem Rests.flows (rests : d.Rests) (p : Peer) : d.Flows p where
  asked asked := by simp [rests.asked] at asked
  idle := rests.unread p.other
  back := rests.empty p.other
  there := by
    rw [reader_of_not_asked rests.asked, rests.unread]
    exact rests.empty p
  number := by
    rw [reader_of_not_asked rests.asked, rests.unread, rests.number_eq p.other p]
    simp

section written

variable (d : Dialogue) (p : Peer) (payload : Bytes) (asked : Bool) (c : Channel) (wire : Bytes)

@[simp] theorem written_asked : (d.written p payload asked c wire).asked = asked := rfl

@[simp] theorem written_channel : (d.written p payload asked c wire).channel p = c := by
  simp [written]

@[simp] theorem written_channel_other :
    (d.written p payload asked c wire).channel p.other = d.channel p.other := by
  simp [written]

@[simp] theorem written_pipe : (d.written p payload asked c wire).pipe p = d.pipe p := by
  simp [written]

@[simp] theorem written_pipe_other : (d.written p payload asked c wire).pipe p.other = wire := by
  simp [written]

@[simp] theorem written_unread : (d.written p payload asked c wire).unread p = d.unread p := by
  simp [written]

@[simp] theorem written_unread_other :
    (d.written p payload asked c wire).unread p.other = d.unread p.other ++ [payload] := by
  simp [written]

end written

/-- What is written goes behind what is on its way. -/
theorem holds_append {c : Channel} {wire : Bytes} {bodies : List Bytes} (holds : c.Holds wire bodies)
    (more : List Bytes) :
    c.Holds (wire ++ Packet.stream (c.sequencer.next + UInt8.ofNat bodies.length) more)
      (bodies ++ more) where
  calm := holds.calm
  assembler := holds.assembler
  carried := by rw [Packet.stream_append, ← holds.carried, List.append_assoc]

/-- A peer that nothing is on its way to sends a payload behind what is on its way to the other peer. -/
theorem Flows.send_eq (flows : d.Flows p.other) (payload : Bytes) :
    d.send p payload = (.ok (), d.written p payload d.asked
      ((d.channel p).sent (splitPayload payload))
      (d.pipe p.other ++ Packet.stream (d.channel p).sequencer.next (splitPayload payload))) := by
  have back := flows.back
  rw [Peer.other_other] at back
  simp only [Dialogue.send,
    Channel.send_push back.calm.outbox back.calm.budget payload (d.pipe p.other)]

theorem Flows.unread_send (flows : d.Flows p.other) (payload : Bytes) :
    (d.send p payload).2.unread p.other = d.unread p.other ++ [payload] := by
  rw [flows.send_eq]
  exact written_unread_other ..

theorem Flows.pipe_send (flows : d.Flows p.other) (payload : Bytes) :
    (d.send p payload).2.pipe p.other =
      d.pipe p.other ++ Packet.stream (d.channel p).sequencer.next (splitPayload payload) := by
  rw [flows.send_eq]
  exact written_pipe_other ..

/-- What is sent is on its way to the other peer. -/
theorem Flows.send (flows : d.Flows p.other) (payload : Bytes) :
    (d.send p payload).1 = .ok () ∧ (d.send p payload).2.Flows p.other := by
  have back := flows.back
  have number := flows.number
  have idle := flows.idle
  rw [Peer.other_other] at back number idle
  rw [flows.send_eq payload]
  have reader : ∀ c wire, (d.written p payload d.asked c wire).reader p.other = d.reader p.other := by
    simp [Dialogue.reader]
  refine ⟨rfl, ⟨?_, ?_, ?_, ?_, ?_⟩⟩
  · intro asked
    exact ⟨(flows.asked asked).1, by simp⟩
  · simpa using idle
  · simpa using back.sent (splitPayload payload)
  · rw [reader, number]
    simpa using holds_append flows.there (splitPayload payload)
  · rw [reader]
    simp [Channel.sent, number, UInt8.ofNat_add, UInt8.add_assoc]

/-- A command restarts the numbers of both peers. -/
theorem Rests.command (rests : d.Rests) (payload : Bytes) :
    (d.command payload).1 = .ok () ∧ (d.command payload).2.Flows .server := by
  have client := rests.empty .client
  have server := rests.empty .server
  obtain ⟨inbox, pipe⟩ := server.nil
  have sent := Channel.send_push (c := (d.channel .client).reset) client.calm.outbox
    client.calm.budget payload (d.pipe .server)
  have made : d.command payload = (.ok (), d.written .client payload true
      ((d.channel .client).reset.sent (splitPayload payload))
      (Packet.stream 0 (splitPayload payload))) := by
    rw [pipe, List.nil_append] at sent
    simp only [Dialogue.command, Channel.command, pipe, sent]
    rfl
  rw [made]
  refine ⟨rfl, ?_⟩
  change Flows _ Peer.client.other
  have unread : d.unread Peer.client.other = [] := rests.unread .server
  have reader : ∀ c wire, (d.written .client payload true c wire).reader Peer.client.other =
      (d.channel .server).reset := by
    intro c wire
    rw [Dialogue.reader, written_channel_other, if_pos ⟨rfl, rfl⟩]
    rfl
  refine ⟨fun _ => ⟨rfl, by simp⟩, by simpa using rests.unread .client, ?_, ?_, ?_⟩
  · have restarted : (d.channel .client).reset.Holds (d.pipe .client) [] :=
      ⟨{ client.calm with }, rfl, client.carried⟩
    simpa using restarted.sent (splitPayload payload)
  · rw [reader, written_pipe_other, written_unread_other, unread]
    refine ⟨{ server.calm with }, rfl, ?_⟩
    simp [Channel.reset, Sequencer.reset, inbox]
  · rw [reader, written_unread_other, unread]
    simp [Channel.sent, Channel.reset, Sequencer.reset]

/-- A peer that something is on its way to reads the oldest payload of that. -/
theorem Flows.read (flows : d.Flows p) {payload : Bytes} {others : List Bytes}
    (waiting : d.unread p = payload :: others) {incoming : Incoming}
    (segments : ∀ a ∈ incoming.arrivals, a.IsSegment)
    (pieces : Arrival.all incoming.arrivals = d.pipe p) (now : Duration) :
    (d.read p now incoming).1 = .ok payload ∧ (d.read p now incoming).2.Flows p := by
  have there := flows.there
  have number := flows.number
  rw [waiting, List.flatMap_cons] at there number
  rw [← pieces] at there
  obtain ⟨c, rest, now', got, holds, next⟩ := Channel.read_holds segments there now
  have made : d.read p now incoming = (.ok payload,
      { channel := Function.update d.channel p c
        pipe := Function.update d.pipe p (Arrival.all rest)
        unread := Function.update d.unread p others
        asked := d.asked && p != .server }) := by
    simp only [Dialogue.read, got, waiting, List.tail_cons]
  have asked : (d.asked && p != .server) = false := by
    cases asked : d.asked with
    | false => rfl
    | true => simp [(flows.asked asked).1]
  rw [made, asked]
  refine ⟨rfl, ⟨by simp, ?_, ?_, ?_, ?_⟩⟩
  · simpa using flows.idle
  · simpa using flows.back
  · rw [reader_of_not_asked rfl]
    simpa using holds
  · rw [reader_of_not_asked rfl]
    simp [number, next, UInt8.ofNat_add, UInt8.add_assoc]

/-- Every step is faithful and keeps the invariant. -/
theorem Step.flows {d' : Dialogue} {e : Event} (step : Step d e d') (flows : ∃ p, d.Flows p) :
    e.IsFaithful ∧ ∃ p, d'.Flows p := by
  obtain ⟨q, flows⟩ := flows
  cases step with
  | command payload quiet =>
    obtain ⟨sent, flows⟩ := (flows.rests (quiet q)).command payload
    exact ⟨sent, .server, flows⟩
  | send p payload turn =>
    have away : d.Flows p.other := by
      obtain rfl | rfl := q.eq_or_eq_other p
      · exact (flows.rests turn).flows _
      · rwa [Peer.other_other]
    obtain ⟨sent, flows⟩ := away.send payload
    exact ⟨sent, p.other, flows⟩
  | read p now incoming waiting segments pieces =>
    obtain rfl : p = q := by
      obtain rfl | rfl := q.eq_or_eq_other p
      · rfl
      · exact (waiting flows.idle).elim
    obtain ⟨payload, others, unread⟩ := List.exists_cons_of_ne_nil waiting
    obtain ⟨got, flows⟩ := flows.read unread segments pieces now
    exact ⟨⟨payload, by rw [unread, List.head?_cons], got⟩, p, flows⟩

theorem start_rests : start.Rests where
  asked := rfl
  unread _ := rfl
  empty _ := ⟨⟨rfl, rfl, fun _ => rfl, rfl, rfl, rfl⟩, rfl, rfl⟩
  number := rfl

/-- Steps that begin where nothing has been said are faithful and keep the invariant. -/
theorem Run.flows {events : List Event} (run : Run start events d) :
    (∀ e ∈ events, e.IsFaithful) ∧ ∃ p, d.Flows p := by
  induction run with
  | done => exact ⟨by simp, .client, start_rests.flows .client⟩
  | step run last ih =>
    obtain ⟨faithful, flows⟩ := ih
    obtain ⟨here, flows⟩ := last.flows flows
    refine ⟨?_, flows⟩
    intro e member
    rcases List.mem_append.mp member with before | now
    · exact faithful e before
    · rwa [List.mem_singleton.mp now]

/-- If no byte is under way, everything has been read. -/
theorem Flows.rests_of_quiet (flows : d.Flows p)
    (quiet : ∀ q, d.pipe q = [] ∧ (d.channel q).inbox = []) : d.Rests := by
  refine flows.rests ?_
  cases unread : d.unread p with
  | nil => rfl
  | cons payload others =>
    have carried := flows.there.carried
    have inbox : (d.reader p).inbox = [] := by
      unfold reader
      split_ifs
      · exact (quiet p).2
      · exact (quiet p).2
    rw [unread, List.flatMap_cons, inbox, (quiet p).1] at carried
    exact (Packet.stream_splitPayload_ne_nil _ _ _ carried.symm).elim

/-- Two peers that take turns understand each other, whatever they send and in whatever pieces the
bytes arrive: every payload is sent, every reading gives the oldest payload that has not been read,
and whenever no byte is under way both have the same sequence number and no part of a payload. -/
theorem Run.isFaithful {events : List Event} (run : Run start events d) :
    (∀ e ∈ events, e.IsFaithful) ∧
      ((∀ p, d.pipe p = [] ∧ (d.channel p).inbox = []) →
        (∀ p, d.unread p = [] ∧ (d.channel p).assembler.isPartial = false) ∧
          (d.channel .client).sequencer = (d.channel .server).sequencer) := by
  obtain ⟨faithful, p, flows⟩ := run.flows
  refine ⟨faithful, ?_⟩
  intro quiet
  have rests := flows.rests_of_quiet quiet
  have whole : ∀ q, (d.channel q).assembler.isPartial = false := by
    intro q
    rw [(rests.empty q).assembler]
    rfl
  refine ⟨fun q => ⟨rests.unread q, whole q⟩, ?_⟩
  have client := (rests.empty .client).calm.strict
  have server := (rests.empty .server).calm.strict
  have number := rests.number
  cases first : (d.channel .client).sequencer
  cases second : (d.channel .server).sequencer
  simp_all

/-- A command that arrives in two pieces, and a reply of two packets. -/
theorem Run.isFaithful_pieces :
    let heard := (start.command [3]).2.read .server .zero
      ⟨[⟨.zero, .zero, .data [1, 0]⟩, ⟨.zero, .zero, .data [0, 0, 3]⟩], false⟩
    heard.1 = .ok [3] ∧ ∃ full : Bytes, full.length = maxBody ∧
      let told := heard.2.send .server (full ++ [2])
      told.1 = .ok () ∧ (told.2.read .client .zero
        ⟨[⟨.zero, .zero, .data (Packet.encode ⟨1, full⟩)⟩,
          ⟨.zero, .zero, .data (Packet.encode ⟨2, [2]⟩)⟩], false⟩).1 = .ok (full ++ [2]) := by
  intro heard
  have due : ((start.command [3]).2.unread .server).head? = some [3] := by decide +kernel
  have hearing : Step (start.command [3]).2 (.got (some [3]) heard.1) heard.2 := by
    rw [← due]
    exact .read .server .zero _ (by decide +kernel) (by simp [Arrival.IsSegment]) (by decide +kernel)
  have asked := Run.step (.step (.done start) (.command [3] fun _ => rfl)) hearing
  have turn : ∀ p, heard.2.unread p = [] := by intro p; cases p <;> decide +kernel
  have number : (heard.2.channel .server).sequencer.next = 1 := by decide +kernel
  have pipe : heard.2.pipe .client = [] := by decide +kernel
  clear_value heard
  obtain ⟨full, longest⟩ : ∃ full : Bytes, full.length = maxBody :=
    ⟨List.replicate maxBody 7, List.length_replicate⟩
  have split : splitPayload (full ++ [2]) = [full, [2]] := by
    have run : IsRun [full, [2]] := .cons longest (.single (by simp [maxBody]))
    simpa using splitPayload_flatten run
  obtain ⟨_, p, flows⟩ := asked.flows
  have sending := (flows.rests (turn p)).flows Peer.server.other
  have unread : (heard.2.send .server (full ++ [2])).2.unread .client = [full ++ [2]] := by
    refine (sending.unread_send (full ++ [2])).trans ?_
    rw [Peer.other, turn, List.nil_append]
  have packets : (heard.2.send .server (full ++ [2])).2.pipe .client =
      Packet.encode ⟨1, full⟩ ++ Packet.encode ⟨2, [2]⟩ := by
    refine (sending.pipe_send (full ++ [2])).trans ?_
    rw [Peer.other, pipe, number, split]
    simp [Packet.stream]
  have segment (q : Packet) : ∃ b rest, q.encode = b :: rest := ⟨_, _, rfl⟩
  have replied := asked.step (.send .server (full ++ [2]) (turn .server))
  have received := replied.step (.read .client .zero
    ⟨[⟨.zero, .zero, .data (Packet.encode ⟨1, full⟩)⟩,
      ⟨.zero, .zero, .data (Packet.encode ⟨2, [2]⟩)⟩], false⟩ (by simp [unread])
    (by simp [Arrival.IsSegment, segment]) (by simp [packets, Arrival.all, Arrival.bytes]))
  have faithful := (Run.isFaithful received).1
  obtain ⟨_, ⟨⟩, got⟩ := faithful (.got (some [3]) heard.1) (by simp)
  have told := faithful (.sent (heard.2.send .server (full ++ [2])).1) (by simp)
  obtain ⟨_, first, read⟩ := faithful _ (List.mem_append_right _ (List.mem_singleton_self _))
  rw [unread] at first
  cases first
  exact ⟨got, full, longest, told, read⟩

/-- Without turns the numbers cross. -/
example : ((((start.send .client [1]).2.send .server [2]).2).read .client .zero
    ⟨[⟨.zero, .zero, .data [1, 0, 0, 0, 2]⟩], false⟩).1 =
      .error (.protocol (.outOfOrder 1 0)) := by cbv

end Dialogue

end SqlWire
