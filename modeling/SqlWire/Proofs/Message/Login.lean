import Mathlib.Tactic.SplitIfs
import SqlWire.Message.Login
import SqlWire.Message.Reply
import SqlWire.Proofs.Message.Greeting
import SqlWire.Proofs.Wire.Flags

/-! # Logins read back

What a server and a client say to each other while the client authenticates is what the other one
reads: a login in whatever form its capabilities ask for, a request for another response and a
request to log in again. Texts are followed by a zero byte and so must not have one.
-/

namespace SqlWire

open Read

namespace AuthSwitch

theorem decode_encode {r : AuthSwitch} (plugin : 0 ∉ Utf8.encode r.plugin) :
    decode r.encode = .ok r := by
  apply decode_of_ends
  rw [encode, read]
  simp only [List.cons_append]
  refine (takes_expect Reply.eofHeader _).ends_bind ?_
  refine (takes_terminatedText plugin).ends_bind (ends_rest_bind ?_)
  rw [Write.terminated, Greeting.dropFinalZero_append]
  exact ends_pure _ _

end AuthSwitch

namespace Login

/-- The longest response behind a length of one byte. -/
def maxShort : Nat := 255

/-- Whether a response can be written in the form that the capabilities ask for. -/
def ResponseFits (capabilities : Capabilities) (response : Bytes) : Prop :=
  if capabilities.contains .lengthEncodedAuth then response.length < 2 ^ 64
  else if capabilities.contains .secureConnection then response.length ≤ maxShort
  else 0 ∉ response

instance (capabilities : Capabilities) (response : Bytes) :
    Decidable (ResponseFits capabilities response) :=
  inferInstanceAs (Decidable (if capabilities.contains .lengthEncodedAuth = true then _ else
    if capabilities.contains .secureConnection = true then _ else _))

/-- What a login has to be so that a server can read it. -/
structure IsRegular (l : Login) : Prop where
  protocol : l.capabilities.contains .protocol41 = true
  username : 0 ∉ Utf8.encode l.username
  response : ResponseFits l.capabilities l.response
  database : l.capabilities.contains .connectWithDatabase = l.database.isSome
  databaseName : ∀ name ∈ l.database, 0 ∉ Utf8.encode name
  plugin : 0 ∉ Utf8.encode l.plugin

/-- The login that a server reads: the capabilities that have a name, and a plugin if they ask for one. -/
def asRead (l : Login) : Login :=
  { l with capabilities := .ofBits l.capabilities.bits
           plugin := if l.capabilities.contains .pluginAuth then l.plugin else "" }

theorem asRead_eq {l : Login} (noPlugin : l.capabilities.contains .pluginAuth = false → l.plugin = "") :
    l.asRead = { l with capabilities := .ofBits l.capabilities.bits } := by
  rw [asRead]
  split_ifs with named
  · rfl
  · rw [noPlugin (Bool.eq_false_of_not_eq_true named)]

theorem takes_shortBytes {response : Bytes} (few : response.length ≤ maxShort) :
    (byte >>= fun count => bytes count.toNat).Takes (shortBytes response) response := by
  rw [maxShort] at few
  have count : (UInt8.ofNat response.length).toNat = response.length := by
    rw [UInt8.toNat_ofNat']
    omega
  rw [shortBytes, List.take_of_length_le few]
  refine Takes.bind (takes_byte _) ?_
  rw [count]
  exact takes_bytes response

theorem takes_readResponse {capabilities : Capabilities} {response : Bytes}
    (fits : ResponseFits capabilities response) :
    (readResponse (.ofBits capabilities.bits)).Takes (responseField capabilities response)
      response := by
  have long := Capabilities.contains_ofBits .lengthEncodedAuth (by decide) capabilities
  have short := Capabilities.contains_ofBits .secureConnection (by decide) capabilities
  rw [ResponseFits] at fits
  rw [readResponse, responseField, long, short]
  split_ifs at fits ⊢
  · exact takes_lengthBytes fits
  · exact takes_shortBytes fits
  · exact takes_terminatedBytes fits

/-- The name of the plugin is the last field, and there may be none. -/
theorem ends_plugin {l : Login} (plugin : 0 ∉ Utf8.encode l.plugin) (login : String → Login) :
    (isEmpty >>= fun done =>
      if l.capabilities.contains .pluginAuth && !done then
        terminatedText >>= fun plugin => pure (login plugin)
      else pure "" >>= fun plugin => pure (login plugin)).Ends
      (if l.capabilities.contains .pluginAuth then Write.terminated (Utf8.encode l.plugin) else [])
      (login (if l.capabilities.contains .pluginAuth then l.plugin else "")) := by
  refine ends_isEmpty_bind ?_
  cases named : l.capabilities.contains .pluginAuth with
  | true =>
    have more : (Write.terminated (Utf8.encode l.plugin)).isEmpty = false := by
      simp [Write.terminated]
    simp only [more, if_true, Bool.not_false, Bool.and_self]
    exact ((takes_terminatedText plugin).map _).ends
  | false =>
    simp only [Bool.false_and, Bool.false_eq_true, if_false, pure_bind]
    exact ends_pure _ _

theorem decode_encode {l : Login} (regular : l.IsRegular) : decode l.encode = .ok l.asRead := by
  have protocol := Capabilities.contains_ofBits .protocol41 (by decide) l.capabilities
  have databases :=
    Capabilities.contains_ofBits .connectWithDatabase (by decide) l.capabilities
  have plugins := Capabilities.contains_ofBits .pluginAuth (by decide) l.capabilities
  have fields : l.encode = Write.uint32 l.capabilities.bits ++ (Write.uint32 l.maxPayload ++
      ([l.collation] ++ (Write.zeros 23 ++ (Write.terminated (Utf8.encode l.username) ++
        (responseField l.capabilities l.response ++
          ((if l.capabilities.contains .connectWithDatabase then
            Write.terminated (Utf8.encode (l.database.getD "")) else []) ++
              (if l.capabilities.contains .pluginAuth then
                Write.terminated (Utf8.encode l.plugin) else []))))))) := by
    simp [encode]
  apply decode_of_ends
  rw [fields, read]
  refine (takes_uint32 l.capabilities.bits).ends_bind ?_
  simp only [protocol, databases, plugins, regular.protocol, Bool.not_true, Bool.false_eq_true,
    if_false]
  refine (takes_uint32 l.maxPayload).ends_bind ?_
  refine (takes_byte l.collation).ends_bind ?_
  have padding : (skip 23).Takes (Write.zeros 23) () := takes_skip (Write.zeros 23)
  refine padding.ends_bind ?_
  refine (takes_terminatedText regular.username).ends_bind ?_
  refine (takes_readResponse regular.response).ends_bind ?_
  have rest := ends_plugin regular.plugin fun plugin =>
    { l with capabilities := .ofBits l.capabilities.bits, plugin }
  cases named : l.database with
  | none =>
    have none : l.capabilities.contains .connectWithDatabase = false := by
      rw [regular.database, named, Option.isSome_none]
    simp only [none, Bool.false_eq_true, if_false, List.nil_append]
    rw [pure_bind, ← named]
    exact rest
  | some name =>
    have some : l.capabilities.contains .connectWithDatabase = true := by
      rw [regular.database, named, Option.isSome_some]
    simp only [some, if_true, map_eq_pure_bind]
    refine ((takes_terminatedText (regular.databaseName name named)).map Option.some).ends_bind ?_
    rw [← named]
    exact rest

end Login

namespace UserChange

/-- What a request to log in again has to be so that a server can read it. -/
structure IsRegular (u : UserChange) : Prop where
  username : 0 ∉ Utf8.encode u.username
  response : u.response.length ≤ Login.maxShort
  database : 0 ∉ Utf8.encode u.database
  plugin : 0 ∉ Utf8.encode u.plugin

theorem decode_encode {u : UserChange} (regular : u.IsRegular) : decode u.encode = .ok u := by
  have fields : u.encode = tag :: (Write.terminated (Utf8.encode u.username) ++
      (Login.shortBytes u.response ++ (Write.terminated (Utf8.encode u.database) ++
        (Write.uint16 u.collation.toUInt16 ++ Write.terminated (Utf8.encode u.plugin))))) := by
    simp [encode]
  apply decode_of_ends
  rw [fields, read]
  refine (takes_expect tag _).ends_bind ?_
  refine (takes_terminatedText regular.username).ends_bind ?_
  have response := Login.takes_shortBytes regular.response
  rw [← bind_assoc]
  refine response.ends_bind ?_
  refine (takes_terminatedText regular.database).ends_bind ?_
  refine ends_remaining_bind ?_
  have most : 2 ≤ (Write.uint16 u.collation.toUInt16 ++
      Write.terminated (Utf8.encode u.plugin)).length := by
    simp [Write.uint16]
  have more : (Write.terminated (Utf8.encode u.plugin)).isEmpty = false := by
    simp [Write.terminated]
  rw [if_pos most]
  refine (takes_uint16 _).ends_bind ?_
  rw [pure_bind]
  refine ends_isEmpty_bind ?_
  rw [more, if_neg Bool.false_ne_true, UInt8.toUInt8_toUInt16]
  exact ((takes_terminatedText regular.plugin).map _).ends

end UserChange

end SqlWire
