import SqlWire.Session.Network
import SqlWire.Standin.Server

/-! # A network with a stand-in on it

One host of the network is a stand-in for a server; every other host refuses. Nothing takes time but
what is told to: the greeting, a pause, and waiting.
-/

namespace SqlWire

namespace Standin

/-- A time in which a connection holds its replies back. -/
structure Pause where
  /-- The moment at which it is over. -/
  ends : Duration
  /-- How the replies would have been numbered. -/
  sequencer : Sequencer
deriving Repr, DecidableEq

/-- A connection to a stand-in. -/
structure Circuit where
  handler : Handler
  /-- The stand-in's end. -/
  channel : Channel
  /-- What is on its way to the client; the replies of a pause are last. -/
  arrivals : List Arrival
  pause : Option Pause
  /-- Whether the client has ended its side. -/
  isLeft : Bool
deriving Repr, DecidableEq

/-- A network with a stand-in. -/
structure World where
  server : ServerConfig
  host : String
  port : UInt16
  /-- The nonces that the stand-in uses, in turn. -/
  nonce : Nat → Bytes
  clock : Duration
  /-- How many sessions and nonces have been used. -/
  sessions : Nat
  nonces : Nat
  /-- The connections in the order of their making. -/
  circuits : List Circuit
  /-- The commands that the stand-in has noted, in order. -/
  noted : List NotedCommand

namespace Circuit

/-- The bytes of payloads behind each other, and the channel after them. -/
def pack (channel : Channel) : List Bytes → Bytes → Bytes × Channel
  | [], sent => (sent, channel)
  | payload :: rest, sent =>
    let (_, channel, sent) := channel.send (fun bytes sent => (.ok (), sent ++ bytes)) payload sent
    pack channel rest sent

/-- A connection on which payloads are sent from some moment on. -/
def deliver (c : Circuit) (payloads : List Bytes) (due : Duration) : Circuit :=
  match pack c.channel payloads [] with
  | ([], channel) => { c with channel }
  | (bytes, channel) =>
    { c with channel, arrivals := c.arrivals ++ [⟨due, .zero, .data bytes⟩] }

def react (c : Circuit) (reaction : Reaction) (now : Duration) : Circuit :=
  let ends : Duration := ⟨now.nanos + (reaction.pause.getD .zero).nanos⟩
  let before := c.channel.sequencer
  let c := { c with handler := reaction.handler }.deliver reaction.replies ends
  { c with
    channel := if c.handler.stage = .serving then c.channel.reset else c.channel
    pause := reaction.pause.map fun _ => ⟨ends, before⟩ }

def interrupt (c : Circuit) (now : Duration) : Circuit :=
  match c.pause with
  | none => c
  | some pause =>
    let bytes := Packet.encode ⟨pause.sequencer.next, Handler.interrupted⟩
    { c with
      arrivals := c.arrivals.dropLast ++ [⟨now, .zero, .data bytes⟩], pause := none }

/-- A connection that the stand-in drops, unless it is over already. -/
def cut (c : Circuit) : Circuit :=
  if c.handler.stage.isOver then c
  else
    { c with
      handler := { c.handler with stage := .gone }
      arrivals := if c.pause.isSome then c.arrivals.dropLast else c.arrivals
      pause := none }

/-- Whether the stand-in takes a connection to pause. -/
def isPausing (c : Circuit) : Bool := c.pause.isSome || c.handler.stage == .lost

/-- Whether the stand-in looks for another payload. -/
def isAttentive (c : Circuit) : Bool := c.pause.isNone && !c.handler.stage.isOver

/-- A connection of which a pause is over by some moment. -/
def awake (c : Circuit) (now : Duration) : Circuit :=
  if c.pause.any fun pause => pause.ends.nanos ≤ now.nanos then { c with pause := none } else c

end Circuit

namespace World

def start (server : ServerConfig) (host : String) (port : UInt16) (nonce : Nat → Bytes) :
    World where
  server := server
  host := host
  port := port
  nonce := nonce
  clock := .zero
  sessions := 0
  nonces := 0
  circuits := []
  noted := []

/-- The connections that the stand-in takes to pause. -/
def pausing (w : World) : List UInt32 :=
  (w.circuits.filter Circuit.isPausing).map fun c => c.handler.connectionId

def put (w : World) (line : Nat) (c : Circuit) : World :=
  { w with circuits := w.circuits.set line c }

def interrupt (w : World) (target : UInt32) : World :=
  { w with circuits := w.circuits.map fun c =>
      if c.handler.connectionId == target then c.interrupt w.clock else c }

def take (w : World) (line : Nat) (c : Circuit) (payload : Bytes) : World :=
  let reaction := c.handler.take w.server (w.nonce w.nonces) w.pausing payload
  let w := { w.put line (c.react reaction w.clock) with
    nonces := w.nonces + 1, noted := w.noted ++ reaction.noted.toList }
  match reaction.interrupts with
  | some target => w.interrupt target
  | none => w

/-- Lets the stand-in take what has come in on a connection, up to some number of payloads. -/
def serve (line : Nat) : Nat → World → World
  | 0, w => w
  | count + 1, w =>
    match w.circuits[line]? with
    | none => w
    | some c =>
      if !c.isAttentive then w
      else
        match c.channel.takePayload with
        | (some (.ok payload), channel) => serve line count (w.take line { c with channel } payload)
        | (some (.error _), channel) => w.put line { c with channel }.cut
        | (none, channel) =>
          w.put line (if c.isLeft then { c with channel }.cut else { c with channel })

def serveAll (w : World) (line : Nat) : World :=
  match w.circuits[line]? with
  | some c => serve line (c.channel.inbox.length + 1) w
  | none => w

def atMoment (w : World) (now : Duration) : World :=
  let w := { w with clock := now, circuits := w.circuits.map fun c => c.awake now }
  (List.range w.circuits.length).foldl serveAll w

def disconnectAll (w : World) : World := { w with circuits := w.circuits.map Circuit.cut }

def accept (w : World) : World :=
  let handler : Handler := ⟨UInt32.ofNat (w.circuits.length + 1), w.nonce w.nonces, .greeted⟩
  let fresh : Circuit := ⟨handler, .start .start, [], none, false⟩
  let due : Duration := ⟨w.clock.nanos + w.server.greetingDelay.nanos⟩
  { w with
    nonces := w.nonces + 1
    circuits := w.circuits ++ [fresh.deliver [handler.firstPayload w.server] due] }

def refusal : IoError := ⟨"Connection refused (os error 111)"⟩

def write (w : World) (line : Nat) (bytes : Bytes) : World :=
  match w.circuits[line]? with
  | none => w
  | some c => (w.put line { c with channel := (c.channel.arrive (.data bytes)).2 }).serveAll line

/-- A network on which the client has ended its side of a connection. -/
def leave (w : World) (line : Nat) : World :=
  match w.circuits[line]? with
  | none => w
  | some c => (w.put line { c with isLeft := true }).serveAll line

instance : Network World where
  now w := w.clock
  wait time w := w.atMoment ⟨w.clock.nanos + time.nanos⟩
  freshId w := (w.sessions + 1, { w with sessions := w.sessions + 1 })
  shuffle hosts w := (hosts, w)
  dial host port _ w :=
    if host == w.host && port == w.port then (.line w.circuits.length, w.accept)
    else (.refused refusal, w)
  write line bytes w := (.ok (), w.write line bytes)
  incoming line w :=
    match w.circuits[line]? with
    | some c => ⟨c.arrivals, c.handler.stage.isOver⟩
    | none => ⟨[], true⟩
  advance line incoming now w :=
    match w.circuits[line]? with
    | some c => (w.put line { c with arrivals := incoming.arrivals }).atMoment now
    | none => w.atMoment now
  hangUp line w := w.leave line

end World

end Standin

end SqlWire
