import SqlWire.Message.Login

/-! # Commands

A command payload starts with one byte that names the command.
-/

namespace SqlWire

/-- The commands a client sends. -/
inductive Command where
  | quit
  | selectDatabase
  | query
  | ping
  | changeUser
  | resetConnection
deriving Repr, DecidableEq

namespace Command

def name : Command → String
  | quit => "Quit"
  | selectDatabase => "InitDb"
  | query => "Query"
  | ping => "Ping"
  | changeUser => "ChangeUser"
  | resetConnection => "ResetConnection"

/-- The byte that names a command. -/
def tag : Command → UInt8
  | quit => 0x01
  | selectDatabase => 0x02
  | query => 0x03
  | ping => 0x0E
  | changeUser => UserChange.tag
  | resetConnection => 0x1F

def ofTag (b : UInt8) : Except ProtocolError Command :=
  if b == 0x01 then .ok quit
  else if b == 0x02 then .ok selectDatabase
  else if b == 0x03 then .ok query
  else if b == 0x0E then .ok ping
  else if b == 0x11 then .ok changeUser
  else if b == 0x1F then .ok resetConnection
  else .error (.unexpectedHeader "command" b)

def encode (c : Command) : Bytes := [c.tag]

def encodeQuery (sql : String) : Bytes := query.tag :: Utf8.encode sql

def encodeSelectDatabase (database : String) : Bytes :=
  selectDatabase.tag :: Utf8.encode database

@[simp] theorem ofTag_tag (c : Command) : ofTag c.tag = .ok c := by
  cases c <;> rfl

end Command

end SqlWire
