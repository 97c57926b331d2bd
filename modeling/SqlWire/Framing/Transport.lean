import SqlWire.Framing.Channel

/-! # Calls over a transport

`Channel` has what a reader makes of arrivals, and a writer for whom writing takes no time. Over a
transport either direction takes its time: a transport may take any part of the bytes that it is
offered, or none before the deadline. What it has taken stays taken, and the rest waits in the channel.

A call has until its deadline, which is as far off as the time budget of the channel. What it has
taken is charged to the budget afterwards, and by another clock, so that nothing is assumed of how the
two go together.
-/

namespace SqlWire

/-- A transport in states of some kind. What is asked of it comes to nothing if it is not done by the
deadline. -/
structure Transport (ω : Type) where
  /-- The moment by the clock of deadlines. -/
  now : ω → Duration
  /-- The moment by the clock by which calls are charged. -/
  meter : ω → Duration
  /-- What will come in. -/
  incoming : ω → Incoming
  /-- The transport after a reader has waited until some moment and left some of what comes in. -/
  advance : Incoming → Duration → ω → ω
  /-- What a reader has left still comes in. -/
  incoming_advance : ∀ left now w, incoming (advance left now w) = left
  /-- Takes some of the bytes that it is offered, and says how many. -/
  write : Option Duration → Bytes → ω → Option (Except IoError Nat) × ω
  /-- Passes on what it has taken. -/
  flush : Option Duration → ω → Option (Except IoError Unit) × ω
  /-- Ends the own side. -/
  shutdown : Option Duration → ω → Option (Except IoError Unit) × ω

namespace Transport

/-- What comes of a call: its result, or nothing if it was cut off, and what is behind it. -/
abbrev Outcome (ω α : Type) := Option (Except ChannelError α) × Channel × ω

/-- What can be asked of a channel. -/
inductive Call where
  | read
  | send (payload : Bytes)
  | command (payload : Bytes)
  | close
deriving Repr, DecidableEq

/-- The channel on which a call is made: a command starts the sequence numbers again. -/
def Call.enter : Call → Channel → Channel
  | command _, c => c.reset
  | _, c => c

variable {ω : Type} (T : Transport ω)

/-- A transport that takes no bytes will not take any. -/
def stuck : IoError := ⟨"failed to write frame to transport"⟩

/-- Writes what has not gone out yet, in as many pieces as it is taken. -/
def drain (deadline : Option Duration) (c : Channel) (w : ω) : Outcome ω Unit :=
  if _empty : c.outbox = [] then
    let (done, w) := T.flush deadline w
    (done.map (Except.mapError .io), c, w)
  else
    match T.write deadline c.outbox w with
    | (none, w) => (none, c, w)
    | (some (.error cause), w) => (some (.error (.io cause)), c, w)
    | (some (.ok 0), w) => (some (.error (.io stuck)), c, w)
    | (some (.ok (count + 1)), w) =>
      drain deadline { c with outbox := c.outbox.drop (count + 1) } w
termination_by c.outbox.length
decreasing_by
  have some := List.length_pos_iff.mpr _empty
  simp only [List.length_drop]
  omega

/-- Puts bodies behind what has not gone out yet, and writes when there is enough. -/
def feed (deadline : Option Duration) : List Bytes → Channel → ω → Outcome ω Unit
  | [], c, w => T.drain deadline c w
  | body :: rest, c, w =>
    let (room, c, w) :=
      if Channel.outboxLimit ≤ c.outbox.length then T.drain deadline c w
      else (some (.ok ()), c, w)
    match room with
    | none => (none, c, w)
    | some (.error cause) => (some (.error cause), c, w)
    | some (.ok ()) =>
      match c.sequencer.encode body with
      | .error cause => (some (.error cause), c, w)
      | .ok (bytes, sequencer) =>
        feed deadline rest { c with outbox := c.outbox ++ bytes, sequencer } w

/-- Writes what is left and ends the own side. -/
def finish (deadline : Option Duration) (c : Channel) (w : ω) : Outcome ω Unit :=
  match T.drain deadline c w with
  | (some (.ok ()), c, w) =>
    let (done, w) := T.shutdown deadline w
    (done.map (Except.mapError .io), c, w)
  | failed => failed

def gather (deadline : Option Duration) (c : Channel) (w : ω) : Outcome ω Bytes :=
  let incoming := T.incoming w
  let r := Channel.gather deadline incoming.ended (T.now w) c incoming.arrivals
  (r.result, r.channel, T.advance r.incoming r.now w)

/-- What a call does on the transport until its deadline. Only reading gives any bytes. -/
def attempt : Call → Option Duration → Channel → ω → Outcome ω Bytes
  | .read, deadline, c, w => T.gather deadline c w
  | .send payload, deadline, c, w | .command payload, deadline, c, w =>
    let (result, c, w) := T.feed deadline (splitPayload payload) c w
    (result.map (Except.map fun () => []), c, w)
  | .close, deadline, c, w =>
    let (result, c, w) := T.finish deadline c w
    (result.map (Except.map fun () => []), c, w)

/-- How long a call may take that is made now. -/
def deadline (c : Channel) (w : ω) : Option Duration :=
  c.budget.map fun budget => ⟨(T.now w).nanos + budget.nanos⟩

/-- A call. There is no result for a caller who waits without end. -/
def call (k : Call) (c : Channel) (w : ω) : Outcome ω Bytes :=
  let c := k.enter c
  match c.budget with
  | none => T.attempt k none c w
  | some budget =>
    if budget.isZero then (some (.error .timeout), c, w)
    else
      let (result, c, w') := T.attempt k (T.deadline c w) c w
      let (result, left) :=
        Channel.settle budget ⟨(T.meter w').nanos - (T.meter w).nanos⟩ result
      (some result, c.withBudget (some left), w')

/-- What happens to a channel and its transport. -/
inductive Event (ω : Type) where
  | setBudget (budget : Option Duration)
  | call (k : Call)
  /-- Lets the transport come to another state. -/
  | elapse (w : ω)

def step (x : Channel × ω) : Event ω → Channel × ω
  | .setBudget budget => (x.1.withBudget budget, x.2)
  | .call k => (T.call k x.1 x.2).2
  | .elapse w => (x.1, w)

def run (x : Channel × ω) (events : List (Event ω)) : Channel × ω := events.foldl T.step x

/-- One clock, with what will come in by it and what has gone out. -/
structure Script (σ : Type) where
  now : Duration
  incoming : Incoming
  out : σ
deriving Repr, DecidableEq

/-- A transport that follows a script and takes all that it is offered, at once or not at all. -/
def scripted {σ : Type} (write : Bytes → σ → Except IoError Unit × σ) : Transport (Script σ) where
  now := Script.now
  meter := Script.now
  incoming := Script.incoming
  advance incoming now w := { w with incoming, now }
  incoming_advance _ _ _ := rfl
  write _ bytes w :=
    let (taken, out) := write bytes w.out
    (some (taken.map fun () => bytes.length), { w with out })
  flush _ w := (some (.ok ()), w)
  shutdown _ w := (some (.ok ()), w)

end Transport

end SqlWire
