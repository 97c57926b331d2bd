import SqlWire.Session.Network

/-! # Connecting

The hosts are tried in order until one of them accepts a connection. Connecting has one deadline
for dialling and for the opening together, which has to be a moment that the clock can show.
-/

namespace SqlWire

namespace Session

variable {ω : Type} [Network ω]

def connectTimeout : ClientError := .timeout "Connect Timeout expired."

/-- No host has accepted a connection. -/
def unreachable (last : Option IoError) : ClientError :=
  .connection "Unable to connect to any of the specified MySQL hosts." last

/-- Dials hosts until one accepts, when the last before them has failed. -/
def dialAny (port : UInt16) (deadline : Option Duration) :
    List String → Option IoError → ω → Except ClientError (String × Nat) × ω
  | [], last, w => (.error (unreachable last), w)
  | host :: rest, _, w =>
    match Network.dial host port deadline w with
    | (.line line, w) => (.ok (host, line), w)
    | (.refused cause, w) => dialAny port deadline rest (some cause) w
    | (.late, w) => (.error connectTimeout, w)

/-- The hosts in the order in which they are tried. -/
def hostOrder (config : Config) (w : ω) : List String × ω :=
  match config.loadBalance with
  | .failOver => (config.hosts, w)
  | .random => Network.shuffle config.hosts w

/-- The moment by which a session has to be open, if the settings limit the time. -/
def connectDeadline (config : Config) (w : ω) : Except ClientError (Option Duration) :=
  match config.connectTimeout.nonZero? with
  | none => .ok none
  | some limit =>
    let deadline : Duration := ⟨(Network.now w).nanos + limit.nanos⟩
    if deadline.fitsClock then .ok (some deadline) else .error .clockOverflow

/-- Follows the opening of a session on a link to its end. -/
def followOpening (config : Config) :
    Nat → Opening → Link → ω → Except ClientError Welcome × Link × ω
  | 0, _, l, w => (.error (.ofChannel .timeout), l, w)
  | turns + 1, opening, l, w =>
    match l.receive w with
    | (.error cause, l, w) => (.error (.ofChannel cause), l, w)
    | (.ok payload, l, w) =>
      match opening.step config payload with
      | .error cause => (.error cause, l, w)
      | .ok (.opened welcome) => (.ok welcome, l, w)
      | .ok (.wait next) => followOpening config turns next l w
      | .ok (.send payload next) =>
        match l.send payload w with
        | (.error cause, l, w) => (.error (.ofChannel cause), l, w)
        | (.ok (), l, w) => followOpening config turns next l w

/-- Opens a session on a line that a host has accepted. -/
def openOn (config : Config) (id generation : Nat) (deadline : Option Duration) (host : String)
    (line : Nat) (w : ω) : Except ClientError Session × ω :=
  let budget := deadline.map fun limit => ⟨limit.nanos - (Network.now w).nanos⟩
  let link : Link := ⟨line, (Channel.start .start).withBudget budget⟩
  match followOpening config patience .start link w with
  | (.ok welcome, l, w) =>
    (.ok (ofWelcome config id generation host (Network.now w) welcome (l.withBudget none)), w)
  | (.error cause, _, w) =>
    (.error (if cause.isTimeout then connectTimeout else cause), Network.hangUp line w)

/-- Opens a session for a generation of a pool. -/
def connect (config : Config) (id generation : Nat) (w : ω) : Except ClientError Session × ω :=
  match config.validate with
  | .error cause => (.error (.config cause), w)
  | .ok () =>
    match connectDeadline config w with
    | .error cause => (.error cause, w)
    | .ok deadline =>
      let (hosts, w) := hostOrder config w
      match dialAny config.port deadline hosts none w with
      | (.error cause, w) => (.error cause, w)
      | (.ok (host, line), w) => openOn config id generation deadline host line w

def connectNew (config : Config) (generation : Nat) (w : ω) : Except ClientError Session × ω :=
  let (id, w) := Network.freshId w
  connect config id generation w

end Session

end SqlWire
