import SqlWire.Auth.Plugin
import SqlWire.Client.Error
import SqlWire.Clock.Duration
import SqlWire.Statement.Binding

/-! # Settings of a client

Where a client connects to, as whom, and how its sessions are pooled. Two settings with one pool
key share a pool.
-/

namespace SqlWire

/-- In which order several hosts are tried. -/
inductive LoadBalance where
  | failOver
  | random
deriving Repr, DecidableEq

def LoadBalance.name : LoadBalance → String
  | failOver => "FailOver"
  | random => "Random"

/-- The order of hosts that a text names, in any case of letters. -/
def LoadBalance.ofText? (text : String) : Option LoadBalance :=
  [failOver, random].find? fun order => Ascii.sameLetters text order.name

/-- Whether a caller waits for input and output by blocking. -/
inductive IoBehavior where
  | asynchronous
  | synchronous
deriving Repr, DecidableEq

def IoBehavior.name : IoBehavior → String
  | asynchronous => "Asynchronous"
  | synchronous => "Synchronous"

structure Config where
  hosts : List String
  port : UInt16
  database : Option String
  credentials : Credentials
  /-- Whether sessions are kept for later use. -/
  pooling : Bool
  /-- Whether a session is reset before it is kept. -/
  connectionReset : Bool
  minPoolSize : UInt32
  maxPoolSize : UInt32
  /-- How long a session is kept at most; no time means without end. -/
  connectionLifetime : Duration
  /-- How long a session is kept unused; no time means without end. -/
  connectionIdleTimeout : Duration
  /-- How long connecting takes at most; no time means without end. -/
  connectTimeout : Duration
  /-- How long a command takes at most; no time means without end. -/
  commandTimeout : Duration
  allowUserVariables : Bool
  oldGuids : Bool
  forceSynchronous : Bool
  loadBalance : LoadBalance
deriving Repr, DecidableEq

namespace Config

def default : Config where
  hosts := ["localhost"]
  port := 3306
  database := none
  credentials := ⟨"", ""⟩
  pooling := true
  connectionReset := true
  minPoolSize := 0
  maxPoolSize := 100
  connectionLifetime := .zero
  connectionIdleTimeout := .ofSeconds 180
  connectTimeout := .ofSeconds 15
  commandTimeout := .ofSeconds 30
  allowUserVariables := false
  oldGuids := false
  forceSynchronous := false
  loadBalance := .failOver

/-- Refuses settings that leave no host or no session, or fewer sessions than are to be kept. -/
def validate (c : Config) : Except ConfigError Unit :=
  if c.hosts.isEmpty then .error .noHosts
  else if c.maxPoolSize == 0 then .error .noSessions
  else if c.maxPoolSize < c.minPoolSize then .error .fewerThanMinimum
  else .ok ()

def flagText (b : Bool) : String := if b then "true" else "false"

/-- The settings that a pool depends on, as a connection string. -/
def poolKey (c : Config) : String :=
  String.intercalate ";"
    ["server=" ++ String.intercalate "," c.hosts,
      s!"port={c.port.toNat}",
      "user id=" ++ c.credentials.username,
      "password=" ++ c.credentials.password,
      "database=" ++ c.database.getD "",
      "connection reset=" ++ flagText c.connectionReset,
      s!"minimum pool size={c.minPoolSize.toNat}",
      s!"maximum pool size={c.maxPoolSize.toNat}",
      s!"connection lifetime={c.connectionLifetime.seconds}",
      s!"connection idle timeout={c.connectionIdleTimeout.seconds}",
      s!"connect timeout={c.connectTimeout.seconds}",
      "allow user variables=" ++ flagText c.allowUserVariables,
      "old guids=" ++ flagText c.oldGuids,
      "load balance=" ++ c.loadBalance.name]

def ioBehavior (c : Config) : IoBehavior :=
  if c.forceSynchronous then .synchronous else .asynchronous

/-- How statements are prepared, before anything is known of the server. -/
def bindingOptions (c : Config) : BindingOptions := ⟨c.allowUserVariables, c.oldGuids, false⟩

end Config

end SqlWire
