import SqlWire.Session.Basic

/-! # Networks

A network is all that sessions need from outside: a clock, lines to hosts, and the numbers of
sessions. Its state is a value that every operation passes on, so what sessions do on a network is
a function of that value. What will arrive on a line is known until something is written.
-/

namespace SqlWire

/-- What becomes of dialling a host. -/
inductive Dialled where
  | line (line : Nat)
  | refused (cause : IoError)
  /-- The deadline has passed. -/
  | late
deriving Repr, DecidableEq

/-- States of a network. -/
class Network (ω : Type) where
  /-- The moment that a state stands for. -/
  now : ω → Duration
  /-- The network after some time. -/
  wait : Duration → ω → ω
  /-- The number of the next session, of a counter that is taken not to wrap. -/
  freshId : ω → Nat × ω
  /-- Hosts in an order that callers cannot foresee. -/
  shuffle : List String → ω → List String × ω
  /-- Opens a line to a port of a host, until a deadline if there is one. -/
  dial : String → UInt16 → Option Duration → ω → Dialled × ω
  /-- Writes to a line. -/
  write : Nat → Bytes → ω → Except IoError Unit × ω
  /-- What will arrive on a line. -/
  incoming : Nat → ω → Incoming
  /-- The network after a reader has waited until some moment and left some of what arrives. -/
  advance : Nat → Incoming → Duration → ω → ω
  /-- Ends the own side of a line. -/
  hangUp : Nat → ω → ω

/-- No answer takes more turns than this. -/
def patience : Nat := 1000000000

variable {ω : Type} [Network ω]

namespace Link

def withBudget (l : Link) (budget : Option Duration) : Link :=
  { l with channel := l.channel.withBudget budget }

/-- Sends a payload within a command. -/
def send (l : Link) (payload : Bytes) (w : ω) : Except ChannelError Unit × Link × ω :=
  let (result, channel, w) := l.channel.send (Network.write l.line) payload w
  (result, { l with channel }, w)

/-- Sends the payload of a new command. -/
def command (l : Link) (payload : Bytes) (w : ω) : Except ChannelError Unit × Link × ω :=
  let (result, channel, w) := l.channel.command (Network.write l.line) payload w
  (result, { l with channel }, w)

def receive (l : Link) (w : ω) : Except ChannelError Bytes × Link × ω :=
  let (result, channel, incoming, now) :=
    Channel.read (Network.now w) l.channel (Network.incoming l.line w)
  (result, { l with channel }, Network.advance l.line incoming now w)

/-- Sends what is left and ends the own side of the line. -/
def close (l : Link) (w : ω) : Except ChannelError Unit × Link × ω :=
  let (result, channel, w) := l.channel.close (Network.write l.line) w
  (result, { l with channel }, Network.hangUp l.line w)

end Link

end SqlWire
