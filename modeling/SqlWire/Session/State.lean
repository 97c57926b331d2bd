/-! # States of a session

A session is connected between commands, querying while a command waits for its reply, and
cancelling when another connection has been told to stop that command. A session that has failed
has lost its place in the conversation, and only closing is left to it.
-/

namespace SqlWire

inductive SessionState where
  | created
  | connecting
  | connected
  | querying
  | cancelling
  | failed
  | closed
deriving Repr, DecidableEq

namespace SessionState

def name : SessionState → String
  | created => "Created"
  | connecting => "Connecting"
  | connected => "Connected"
  | querying => "Querying"
  | cancelling => "Cancelling"
  | failed => "Failed"
  | closed => "Closed"

def ofName? (text : String) : Option SessionState :=
  [created, connecting, connected, querying, cancelling, failed, closed].find?
    fun state => state.name == text

/-- Whether the server still takes part in the conversation. -/
def isUsable : SessionState → Bool
  | connected | querying | cancelling => true
  | _ => false

/-- Whether a command waits for its reply. -/
def isBusy : SessionState → Bool
  | querying | cancelling => true
  | _ => false

end SessionState

end SqlWire
