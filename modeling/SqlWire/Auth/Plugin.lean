import SqlWire.Auth.Scramble
import SqlWire.Text.Quoted
import SqlWire.Text.Utf8
import SqlWire.Wire.Error

/-! # Authentication plugins

Who logs in, and by which plugin a response is computed.
-/

namespace SqlWire

inductive AuthError where
  | invalidCredentials (reason : String)
  | authenticationFailed (reason : String)
  | unsupportedPlugin (name : String)
  /-- The plugin sends the password itself, which an open connection must not carry. -/
  | secureTransportRequired (plugin : String)
deriving Repr, DecidableEq

def AuthError.label : AuthError → String
  | invalidCredentials _ => "InvalidCredentials"
  | authenticationFailed _ => "AuthenticationFailed"
  | unsupportedPlugin _ => "UnsupportedPlugin"
  | secureTransportRequired _ => "SecureTransportRequired"

def AuthError.message : AuthError → String
  | invalidCredentials reason => s!"invalid credentials: {reason}"
  | authenticationFailed reason => s!"authentication failed: {reason}"
  | unsupportedPlugin name => "unsupported authentication plugin '" ++ name ++ "'"
  | secureTransportRequired plugin =>
    "authentication plugin '" ++ plugin ++ "' requires a secure connection"

structure Credentials where
  username : String
  password : String
deriving Repr, DecidableEq

namespace Credentials

def hasPassword (c : Credentials) : Bool := !c.password.isEmpty

/-- A form for logs, which hides the password. -/
def redacted (c : Credentials) : String :=
  "Credentials \x7b username: " ++ Quoted.quote c.username ++ ", password: "
    ++ Quoted.quote "[REDACTED]" ++ " \x7d"

end Credentials

/-- A way to answer a server's challenge. -/
inductive AuthPlugin where
  | nativePassword
  | cachingSha2Password
  | clearPassword
deriving Repr, DecidableEq

namespace AuthPlugin

/-- The plugin of a server that names none. -/
def default : AuthPlugin := nativePassword

def name : AuthPlugin → String
  | nativePassword => "mysql_native_password"
  | cachingSha2Password => "caching_sha2_password"
  | clearPassword => "mysql_clear_password"

def label : AuthPlugin → String
  | nativePassword => "NativePassword"
  | cachingSha2Password => "CachingSha2Password"
  | clearPassword => "ClearPassword"

def ofName (name : String) : Except AuthError AuthPlugin :=
  if name == nativePassword.name || name == "" then .ok nativePassword
  else if name == cachingSha2Password.name then .ok cachingSha2Password
  else if name == clearPassword.name then .ok clearPassword
  else .error (.unsupportedPlugin name)

/-- Whether a plugin sends the password itself. -/
def requiresSecureTransport : AuthPlugin → Bool
  | clearPassword => true
  | _ => false

def response (plugin : AuthPlugin) (credentials : Credentials) (nonce : Bytes) :
    Except AuthError Bytes :=
  let password := Utf8.encode credentials.password
  match plugin with
  | nativePassword => .ok (Scramble.native password nonce)
  | cachingSha2Password => .ok (Scramble.cachingSha2 password nonce)
  | clearPassword => .error (.secureTransportRequired clearPassword.name)

end AuthPlugin

instance : ErrorText AuthError := ⟨AuthError.label, AuthError.message⟩

end SqlWire
