import SqlWire.Clock.Duration
import SqlWire.Framing.Assembler
import SqlWire.Framing.Sequencer

/-! # Channels

A channel carries payloads over a stream of bytes. What comes in is a list of arrivals, each with
the time when it is due; nothing here reads a clock. A time budget bounds what a channel does: a
call that starts without any left does nothing, and one that has to wait beyond it is cut off.

After an error, reading first reports the end of the stream once and then goes on with the next
arrival; bytes that could not be written stay and go out with the next payload.
-/

namespace SqlWire

/-- What a transport has for its reader. -/
inductive Content where
  | data (bytes : Bytes)
  /-- The peer has ended its side. -/
  | ended
  | failed (cause : IoError)
deriving Repr, DecidableEq

/-- Something that a transport has for its reader from some moment on. -/
structure Arrival where
  /-- The moment. -/
  due : Duration
  /-- How far the clock runs while it is taken in. -/
  hold : Duration
  content : Content
deriving Repr, DecidableEq

/-- Everything that will come in, unless something goes out. -/
structure Incoming where
  arrivals : List Arrival
  /-- Whether the peer ends its side after the arrivals; otherwise it stays silent. -/
  ended : Bool
deriving Repr, DecidableEq

/-- How a reader stands to its stream. -/
structure Gate where
  /-- Whether the bytes that have come in may hold another packet. -/
  readable : Bool
  /-- Whether the stream was at its end when it was last looked at. -/
  ended : Bool
  /-- Whether an error has to be followed by a report of the end. -/
  errored : Bool
deriving Repr, DecidableEq

/-- The two directions of a stream, with what is under way in either. -/
structure Channel where
  sequencer : Sequencer
  assembler : Assembler
  /-- Bytes that have come in and are no packet yet. -/
  inbox : Bytes
  /-- Bytes that have not gone out yet. -/
  outbox : Bytes
  gate : Gate
  /-- The time that is left, if time is limited. -/
  budget : Option Duration
deriving Repr, DecidableEq

namespace Channel

def start (sequencer : Sequencer) : Channel where
  sequencer := sequencer
  assembler := .empty
  inbox := []
  outbox := []
  gate := ⟨false, false, false⟩
  budget := none

def withBudget (c : Channel) (budget : Option Duration) : Channel := { c with budget := budget }

/-- A channel at the start of a command: sequence numbers start again, and a payload that was not
complete is forgotten. -/
def reset (c : Channel) : Channel :=
  { c with sequencer := c.sequencer.reset, assembler := .empty }

/-- What comes of looking for the next packet. -/
inductive Look where
  | packet (body : Bytes)
  | failed (cause : ChannelError)
  /-- The stream is at its end. -/
  | finished
  /-- More has to come in. -/
  | starved
deriving Repr, DecidableEq

def withError (c : Channel) : Channel := { c with gate := { c.gate with errored := true } }

/-- Looks for a packet in what has come in. -/
def look (c : Channel) : Look × Channel :=
  if c.gate.errored then
    (.finished, { c with gate := { c.gate with readable := false, errored := false } })
  else if c.gate.readable then
    match c.sequencer.decode c.inbox with
    | (.packet p rest, sequencer) => (.packet p.body, { c with inbox := rest, sequencer })
    | (.outOfOrder expected found rest, sequencer) =>
      (.failed (.protocol (.outOfOrder expected found)),
        withError { c with inbox := rest, sequencer })
    | (.incomplete, _) =>
      let paused := { c with gate := { c.gate with readable := false } }
      if !c.gate.ended then (.starved, paused)
      else if c.inbox.isEmpty then (.finished, paused)
      else (.failed (.io ⟨"bytes remaining on stream"⟩), c.withError)
  else (.starved, c)

theorem length_of_look_packet {c c' : Channel} {body : Bytes} (h : c.look = (.packet body, c')) :
    c'.inbox.length < c.inbox.length := by
  fun_cases look c with
  | case2 _ _ p rest sequencer found =>
    have shorter := Sequencer.length_of_decode_packet found
    simp_all [look]
    rw [← h.2]
    exact shorter
  | _ => simp_all [look]

/-- The payload or the failure that is in what has come in. -/
def takePayload (c : Channel) : Option (Except ChannelError Bytes) × Channel :=
  match h : c.look with
  | (.packet body, c') =>
    have := length_of_look_packet h
    let (payload, assembler) := c'.assembler.push body
    match payload with
    | some payload => (some (.ok payload), { c' with assembler })
    | none => takePayload { c' with assembler }
  | (.failed cause, c') => (some (.error cause), c')
  | (.finished, c') => (some (.error .closed), c')
  | (.starved, c') => (none, c')
termination_by c.inbox.length

/-- Takes in what has arrived; fails if the transport has, or if the stream ends again. -/
def arrive (c : Channel) (content : Content) : Except ChannelError Unit × Channel :=
  match content with
  | .failed cause => (.error (.io cause), c.withError)
  | .data (b :: bytes) =>
    (.ok (), { c with
      inbox := c.inbox ++ b :: bytes, gate := { c.gate with readable := true, ended := false } })
  | _ =>
    if c.gate.ended then (.error .closed, c)
    else (.ok (), { c with gate := { c.gate with readable := true, ended := true } })

/-- What comes of waiting for a payload. -/
structure Reading where
  /-- The payload or the failure; none if the wait was cut off. -/
  result : Option (Except ChannelError Bytes)
  channel : Channel
  incoming : Incoming
  /-- The moment at the end. -/
  now : Duration

/-- The moment at which a wait is cut off, which is never before it starts. -/
def cutOff (now : Duration) (deadline : Option Duration) : Duration :=
  match deadline with
  | some limit => if now.nanos ≤ limit.nanos then limit else now
  | none => now

/-- Whether something due at a moment comes too late. -/
def isLate (now due : Duration) (deadline : Option Duration) : Bool :=
  match deadline with
  | some limit => now.nanos < due.nanos && limit.nanos ≤ due.nanos
  | none => false

/-- Waits for a payload among arrivals, until a deadline if there is one. -/
def gather (deadline : Option Duration) (ended : Bool) :
    Duration → Channel → List Arrival → Reading
  | now, c, arrivals =>
    match c.takePayload with
    | (some result, c) => ⟨some result, c, ⟨arrivals, ended⟩, now⟩
    | (none, c) =>
      match arrivals with
      | [] =>
        if ended then
          match c.arrive .ended with
          | (.error cause, c) => ⟨some (.error cause), c, ⟨[], ended⟩, now⟩
          | (.ok (), c) =>
            let (result, c) := c.takePayload
            ⟨some (result.getD (.error .closed)), c, ⟨[], ended⟩, now⟩
        else ⟨none, c, ⟨[], ended⟩, cutOff now deadline⟩
      | a :: rest =>
        if isLate now a.due deadline then ⟨none, c, ⟨a :: rest, ended⟩, cutOff now deadline⟩
        else
          let after : Duration := ⟨max now.nanos a.due.nanos + a.hold.nanos⟩
          match c.arrive a.content with
          | (.error cause, c) => ⟨some (.error cause), c, ⟨rest, ended⟩, after⟩
          | (.ok (), c) => gather deadline ended after c rest

/-- What a call with a time budget reports, and the budget that it leaves. -/
def settle {α : Type} (budget spent : Duration) (result : Option (Except ChannelError α)) :
    Except ChannelError α × Duration :=
  let left : Duration := ⟨budget.nanos - spent.nanos⟩
  match result with
  | none => (.error .timeout, .zero)
  | some (.error (.io cause)) => (.error (if left.isZero then .timeout else .io cause), left)
  | some result => (result, left)

def read (now : Duration) (c : Channel) (incoming : Incoming) :
    Except ChannelError Bytes × Channel × Incoming × Duration :=
  match c.budget with
  | none =>
    let r := gather none incoming.ended now c incoming.arrivals
    (r.result.getD (.error .timeout), r.channel, r.incoming, r.now)
  | some budget =>
    if budget.isZero then (.error .timeout, c, incoming, now)
    else
      let r := gather (some ⟨now.nanos + budget.nanos⟩) incoming.ended now c incoming.arrivals
      let (result, left) := settle budget ⟨r.now.nanos - now.nanos⟩ r.result
      (result, r.channel.withBudget (some left), r.incoming, r.now)

/-- Bytes wait for more until there are this many. -/
def outboxLimit : Nat := 8192

/-- Writes what has not gone out yet. -/
def flush {ω : Type} (write : Bytes → ω → Except IoError Unit × ω) (c : Channel) (w : ω) :
    Except ChannelError Unit × Channel × ω :=
  if c.outbox.isEmpty then (.ok (), c, w)
  else
    match write c.outbox w with
    | (.ok (), w) => (.ok (), { c with outbox := [] }, w)
    | (.error cause, w) => (.error (.io cause), c, w)

/-- Puts bodies behind what has not gone out yet, and writes when there is enough. -/
def feed {ω : Type} (write : Bytes → ω → Except IoError Unit × ω) :
    List Bytes → Channel → ω → Except ChannelError Unit × Channel × ω
  | [], c, w => flush write c w
  | body :: rest, c, w =>
    let (room, c, w) :=
      if outboxLimit ≤ c.outbox.length then flush write c w else (.ok (), c, w)
    match room with
    | .error cause => (.error cause, c, w)
    | .ok () =>
      match c.sequencer.encode body with
      | .error cause => (.error cause, c, w)
      | .ok (bytes, sequencer) =>
        feed write rest { c with outbox := c.outbox ++ bytes, sequencer } w

/-- A call that writes, unless no time is left; writing takes no time. -/
def timed {ω : Type} (action : Channel → ω → Except ChannelError Unit × Channel × ω)
    (c : Channel) (w : ω) : Except ChannelError Unit × Channel × ω :=
  match c.budget with
  | some budget => if budget.isZero then (.error .timeout, c, w) else action c w
  | none => action c w

def send {ω : Type} (write : Bytes → ω → Except IoError Unit × ω) (payload : Bytes)
    (c : Channel) (w : ω) : Except ChannelError Unit × Channel × ω :=
  timed (feed write (splitPayload payload)) c w

/-- Sends the payload of a new command. -/
def command {ω : Type} (write : Bytes → ω → Except IoError Unit × ω) (payload : Bytes)
    (c : Channel) (w : ω) : Except ChannelError Unit × Channel × ω :=
  send write payload c.reset w

def close {ω : Type} (write : Bytes → ω → Except IoError Unit × ω) (c : Channel) (w : ω) :
    Except ChannelError Unit × Channel × ω :=
  timed (flush write) c w

end Channel

end SqlWire
