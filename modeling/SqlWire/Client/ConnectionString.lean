import SqlWire.Client.Config
import SqlWire.Number.IntegerType
import SqlWire.Text.Split

/-! # Connection strings

A connection string is a list of segments `key=value` with semicolons between them. Blanks around
a key, a value or a segment do not count, nor does the case of a key; an empty segment says nothing
and an unknown key is passed over. The last segment for a setting decides.
-/

namespace SqlWire

/-- A setting that a connection string can give. -/
inductive Setting where
  | hosts | port | username | password | database | pooling | connectionReset | minPoolSize
  | maxPoolSize | connectionLifetime | connectionIdleTimeout | connectTimeout | commandTimeout
  | allowUserVariables | oldGuids | forceSynchronous | loadBalance
deriving Repr, DecidableEq

namespace Setting

/-- The keys of each setting. -/
def keys : List (Setting × List String) :=
  [(hosts, ["server", "host", "data source", "datasource", "address", "addr"]),
    (port, ["port"]),
    (username, ["user id", "userid", "uid", "user", "username", "user name"]),
    (password, ["password", "pwd"]),
    (database, ["database", "initial catalog"]),
    (pooling, ["pooling"]),
    (connectionReset, ["connection reset", "connectionreset"]),
    (minPoolSize, ["minimum pool size", "minimumpoolsize", "min pool size", "minpoolsize"]),
    (maxPoolSize, ["maximum pool size", "maximumpoolsize", "max pool size", "maxpoolsize"]),
    (connectionLifetime, ["connection lifetime", "connectionlifetime"]),
    (connectionIdleTimeout, ["connection idle timeout", "connectionidletimeout"]),
    (connectTimeout, ["connect timeout", "connecttimeout", "connection timeout"]),
    (commandTimeout, ["default command timeout", "defaultcommandtimeout", "command timeout"]),
    (allowUserVariables, ["allow user variables", "allowuservariables"]),
    (oldGuids, ["old guids", "oldguids"]),
    (forceSynchronous, ["force synchronous", "forcesynchronous"]),
    (loadBalance, ["load balance", "loadbalance"])]

/-- The setting of a key in lower case. -/
def ofKey? (key : String) : Option Setting :=
  (keys.find? fun (_, names) => names.contains key).map Prod.fst

/-- The truth value that a text says for a key. -/
def flag (key text : String) : Except ConfigError Bool :=
  if Ascii.sameLetters text "true" || Ascii.sameLetters text "yes" || text == "1" then .ok true
  else if Ascii.sameLetters text "false" || Ascii.sameLetters text "no" || text == "0" then
    .ok false
  else .error (.invalidFlag key text)

/-- The number that a text says for a key. -/
def count (key text : String) : Except ConfigError Nat :=
  match IntegerType.uint32.ofText? text with
  | some n => .ok n.toNat
  | none => .error (.invalidNumber key text)

/-- The number of seconds that a text says for a key. -/
def seconds (key text : String) : Except ConfigError Duration :=
  (count key text).map Duration.ofSeconds

/-- The hosts in a list with commas. -/
def hostList (text : String) : List String :=
  (((splitAll ',' text.toList).map trim).filter fun host => !host.isEmpty).map String.ofList

/-- The settings with one of them as a text says it. -/
def apply (setting : Setting) (key text : String) (c : Config) : Except ConfigError Config :=
  match setting with
  | hosts => .ok { c with hosts := hostList text }
  | port =>
    match IntegerType.uint16.ofText? text with
    | some n => .ok { c with port := UInt16.ofNat n.toNat }
    | none => .error (.invalidPort text)
  | username => .ok { c with credentials := { c.credentials with username := text } }
  | password => .ok { c with credentials := { c.credentials with password := text } }
  | database => .ok { c with database := if text.isEmpty then none else some text }
  | pooling => return { c with pooling := ← flag key text }
  | connectionReset => return { c with connectionReset := ← flag key text }
  | minPoolSize => return { c with minPoolSize := UInt32.ofNat (← count key text) }
  | maxPoolSize => return { c with maxPoolSize := UInt32.ofNat (← count key text) }
  | connectionLifetime => return { c with connectionLifetime := ← seconds key text }
  | connectionIdleTimeout => return { c with connectionIdleTimeout := ← seconds key text }
  | connectTimeout => return { c with connectTimeout := ← seconds key text }
  | commandTimeout => return { c with commandTimeout := ← seconds key text }
  | allowUserVariables => return { c with allowUserVariables := ← flag key text }
  | oldGuids => return { c with oldGuids := ← flag key text }
  | forceSynchronous => return { c with forceSynchronous := ← flag key text }
  | loadBalance =>
    match LoadBalance.ofText? text with
    | some order => .ok { c with loadBalance := order }
    | none => .error (.invalidLoadBalance text)

end Setting

namespace ConnectionString

def applySegment (c : Config) (segment : List Char) : Except ConfigError Config :=
  let segment := trim segment
  if segment.isEmpty then .ok c
  else
    match splitFirst? '=' segment with
    | none => .error (.invalidPair (String.ofList segment))
    | some (key, value) =>
      let key := String.ofList (Lower.text (trim key))
      match Setting.ofKey? key with
      | none => .ok c
      | some setting => setting.apply key (String.ofList (trim value)) c

def parse (text : String) : Except ConfigError Config := do
  let c ← (splitAll ';' text.toList).foldlM applySegment Config.default
  c.validate
  return c

end ConnectionString

end SqlWire
