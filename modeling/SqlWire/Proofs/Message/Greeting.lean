import Mathlib.Data.Nat.Bitwise
import Mathlib.Tactic.SplitIfs
import SqlWire.Message.Greeting
import SqlWire.Proofs.Wire.Fields

/-! # Greetings read back

A greeting cuts its nonce in two and says its length in one byte, and old servers leave out the zero
byte behind the name of the plugin. A client puts the nonce together again as the server had it, with
zero bytes behind it if it is shorter than `fullNonce`: the two parts are together as long as the
length says (`length_restNonceField`), and only the last zero byte is taken off
(`frontField_append`). Whatever stands for the plugin name behind them is read by itself
(`decode_encodeWith`).
-/

namespace SqlWire

open Read

/-- A number is put together again from its halves. -/
theorem halves_eq (bits : UInt32) :
    bits.toUInt16.toUInt32 ||| ((bits >>> 16).toUInt16.toUInt32 <<< 16) = bits := by
  have bound := bits.toNat_lt
  have small : bits.toNat / 2 ^ 16 < 2 ^ 16 := by omega
  have rest : bits.toNat % 2 ^ 16 < 2 ^ 16 := Nat.mod_lt _ (by decide)
  have high : ((bits >>> 16).toUInt16.toUInt32 <<< 16).toNat = (bits.toNat / 2 ^ 16) <<< 16 := by
    have sixteen : (16 : UInt32).toNat % 32 = 16 := rfl
    simp only [UInt32.toNat_shiftLeft, UInt16.toNat_toUInt32, UInt32.toNat_toUInt16,
      UInt32.toNat_shiftRight, sixteen, Nat.shiftRight_eq_div_pow, Nat.shiftLeft_eq]
    rw [Nat.mod_eq_of_lt small, Nat.mod_eq_of_lt (by omega)]
  have low : bits.toUInt16.toUInt32.toNat = bits.toNat % 2 ^ 16 := by simp
  rw [← UInt32.toNat_inj, UInt32.toNat_or, high, low, Nat.or_comm,
    ← Nat.shiftLeft_add_eq_or_of_lt rest, Nat.shiftLeft_eq]
  omega

namespace Greeting

/-! ## The nonce -/

/-- The length from which on a nonce is read as it is. -/
def fullNonce : Nat := 20

/-- The greatest length of a nonce that the byte for it can say. -/
def maxNonce : Nat := 254

/-- A nonce as a client reads it. -/
def padded (nonce : Bytes) : Bytes := nonce ++ Write.zeros (fullNonce - nonce.length)

/-- The part of a nonce that stands in the fixed place. -/
def frontField (nonce : Bytes) : Bytes :=
  nonce.take fixedNonce ++ Write.zeros (fixedNonce - (nonce.take fixedNonce).length)

theorem length_zeros (count : Nat) : (Write.zeros count).length = count := List.length_replicate

theorem zeros_append (first second : Nat) :
    Write.zeros first ++ Write.zeros second = Write.zeros (first + second) :=
  List.replicate_append_replicate

theorem padded_of_full {nonce : Bytes} (full : fullNonce ≤ nonce.length) : padded nonce = nonce := by
  rw [padded, Nat.sub_eq_zero_of_le full]
  exact List.append_nil nonce

theorem dropFinalZero_append (bytes : Bytes) : dropFinalZero (bytes ++ [0]) = bytes := by
  simp [dropFinalZero]

theorem length_frontField (nonce : Bytes) : (frontField nonce).length = fixedNonce := by
  simp only [frontField, List.length_append, length_zeros, List.length_take]
  omega

/-- The other part of a nonce ends with a zero byte of its own. -/
theorem restNonceField_eq (nonce : Bytes) :
    restNonceField nonce =
      nonce.drop fixedNonce ++ Write.zeros (fullNonce - max fixedNonce nonce.length) ++ [0] := by
  have count : max 1 (minRestNonce - (nonce.drop fixedNonce).length) =
      fullNonce - max fixedNonce nonce.length + 1 := by
    simp only [List.length_drop, minRestNonce, fixedNonce, fullNonce]
    omega
  rw [restNonceField, count, List.append_assoc]
  exact congrArg _ List.replicate_succ'

/-- The two parts of a nonce are together as long as the greeting says. -/
theorem length_restNonceField (nonce : Bytes) :
    (restNonceField nonce).length = max minRestNonce (nonce.length + 1 - fixedNonce) := by
  rw [restNonceField_eq]
  simp only [List.length_append, List.length_drop, length_zeros, List.length_singleton, minRestNonce,
    fixedNonce, fullNonce]
  omega

/-- A nonce is put together again. -/
theorem frontField_append (nonce : Bytes) :
    frontField nonce ++ dropFinalZero (restNonceField nonce) = padded nonce := by
  rw [restNonceField_eq, dropFinalZero_append, frontField, padded]
  rcases Nat.le_total nonce.length fixedNonce with short | long
  · rw [List.take_of_length_le short, List.drop_of_length_le short, List.nil_append,
      List.append_assoc, zeros_append]
    have count : fixedNonce - nonce.length + (fullNonce - max fixedNonce nonce.length) =
        fullNonce - nonce.length := by
      simp only [fixedNonce, fullNonce] at short ⊢
      omega
    rw [count]
  · have none : fixedNonce - (nonce.take fixedNonce).length = 0 := by
      rw [List.length_take]
      omega
    rw [none, Nat.max_eq_right long]
    exact (List.append_assoc ..).symm.trans
      (congrArg (· ++ _) ((congrArg (· ++ _) (List.append_nil _)).trans (List.take_append_drop ..)))

/-! ## The other fields -/

theorem takes_readPlugin {plugin : String} (whole : 0 ∉ Utf8.encode plugin) :
    readPlugin.Takes (Write.terminated (Utf8.encode plugin)) plugin := by
  intro offset rest
  have ended : (Write.terminated (Utf8.encode plugin) ++ rest).contains 0 = true := by
    simp [Write.terminated]
  rw [readPlugin, run_get_bind]
  simp only [ended]
  exact takes_terminatedText whole offset rest

/-- A name without its zero byte goes on to the end. -/
theorem ends_readPlugin {plugin : String} (whole : 0 ∉ Utf8.encode plugin) :
    readPlugin.Ends (Utf8.encode plugin) plugin := by
  intro offset
  have open_ : (Utf8.encode plugin).contains 0 = false := by simpa using whole
  rw [readPlugin, run_get_bind]
  simp only [open_]
  exact ends_rest_bind (takes_text _ plugin).ends offset

/-- The fields that end an old greeting, as a server with all of them writes them. -/
def tailFields (g : Greeting) : Bytes :=
  g.collation :: (Write.uint16 g.status.bits ++ (Write.uint16 (g.capabilities.bits >>> 16).toUInt16 ++
    UInt8.ofNat (min (g.nonce.length + 1) 255) :: Write.zeros 10))

theorem takes_readTail (g : Greeting) : readTail.Takes g.tailFields
    (g.collation, .ofBits g.status.bits, (g.capabilities.bits >>> 16).toUInt16,
      (UInt8.ofNat (min (g.nonce.length + 1) 255)).toNat) := by
  have some : ∀ offset rest, readTail.run.run ⟨offset, g.tailFields ++ rest⟩ =
      (do
        let collation ← Read.byte
        let status ← Read.uint16
        let high ← Read.uint16
        let nonceLength ← Read.byte
        Read.skip 10
        return (collation, Status.ofBits status, high, nonceLength.toNat) :
          Read (UInt8 × Status × UInt16 × Nat)).run.run ⟨offset, g.tailFields ++ rest⟩ :=
    fun _ _ => rfl
  intro offset rest
  rw [some]
  refine Takes.bind (takes_byte g.collation) ?_ offset rest
  refine (takes_uint16 g.status.bits).bind ?_
  refine (takes_uint16 _).bind ?_
  refine Takes.bind (takes_byte _) ?_
  exact (takes_skip (Write.zeros 10)).map _

/-! ## The whole greeting -/

/-- What a greeting has to be so that a client can read it. -/
structure IsRegular (g : Greeting) : Prop where
  version : g.version = protocolVersion
  serverVersion : 0 ∉ Utf8.encode g.serverVersion
  capabilities : .ofBits g.capabilities.bits = g.capabilities
  secure : g.capabilities.contains .secureConnection = true
  nonce : g.nonce.length ≤ maxNonce
  plugin : 0 ∉ Utf8.encode g.plugin
  noPlugin : g.capabilities.contains .pluginAuth = false → g.plugin = ""

/-- A greeting as a client reads it. -/
def asRead (g : Greeting) : Greeting :=
  { g with nonce := padded g.nonce, status := .ofBits g.status.bits }

/-- The payload of a greeting with something in place of the field of the plugin name. -/
def encodeWith (g : Greeting) (pluginField : Bytes) : Bytes :=
  g.version :: (Write.terminated (Utf8.encode g.serverVersion) ++ (Write.uint32 g.connectionId ++
    (frontField g.nonce ++ (Write.zeros 1 ++ (Write.uint16 g.capabilities.bits.toUInt16 ++
      (g.tailFields ++ (restNonceField g.nonce ++ pluginField)))))))

theorem encode_eq {g : Greeting} (secure : g.capabilities.contains .secureConnection = true) :
    g.encode = g.encodeWith (if g.capabilities.contains .pluginAuth then
      Write.terminated (Utf8.encode g.plugin) else []) := by
  simp [encode, encodeWith, tailFields, frontField, secure]

/-- How the plugin name is read where there may be one. -/
def readPluginOf (capabilities : Capabilities) : Read String :=
  if capabilities.contains .pluginAuth then readPlugin else pure ""

/-- A greeting is read whatever its field of the plugin name is, if that field can be read. -/
theorem decode_encodeWith {g : Greeting} (regular : g.IsRegular) {pluginField : Bytes}
    (plugin : (readPluginOf g.capabilities).Ends pluginField g.plugin) :
    decode (g.encodeWith pluginField) = .ok g.asRead := by
  have count : (UInt8.ofNat (min (g.nonce.length + 1) 255)).toNat = g.nonce.length + 1 := by
    have few := regular.nonce
    rw [maxNonce] at few
    rw [UInt8.toNat_ofNat']
    omega
  apply decode_of_ends
  rw [encodeWith, read]
  refine (takes_byte g.version).ends_bind ?_
  rw [if_neg (by simp [regular.version])]
  refine (takes_terminatedText regular.serverVersion).ends_bind ?_
  refine (takes_uint32 g.connectionId).ends_bind ?_
  have front := takes_bytes (frontField g.nonce)
  rw [length_frontField] at front
  refine front.ends_bind ?_
  refine (takes_skip (Write.zeros 1)).ends_bind ?_
  refine (takes_uint16 _).ends_bind ?_
  refine (takes_readTail g).ends_bind ?_
  simp only [halves_eq, regular.capabilities, regular.secure, count, if_true]
  refine ends_remaining_bind ?_
  have wanted : min (max minRestNonce (g.nonce.length + 1 - fixedNonce))
      (restNonceField g.nonce ++ pluginField).length = (restNonceField g.nonce).length := by
    rw [List.length_append, length_restNonceField]
    omega
  rw [wanted]
  refine (takes_bytes _).ends_bind ?_
  rw [pure_bind, frontField_append]
  rw [readPluginOf] at plugin
  split_ifs at plugin ⊢ with plugins
  · exact plugin.map _
  · exact plugin.map _

theorem ends_readPluginOf {g : Greeting} (regular : g.IsRegular) :
    (readPluginOf g.capabilities).Ends (if g.capabilities.contains .pluginAuth then
      Write.terminated (Utf8.encode g.plugin) else []) g.plugin := by
  cases plugins : g.capabilities.contains .pluginAuth with
  | true =>
    rw [readPluginOf, if_pos plugins]
    exact (takes_readPlugin regular.plugin).ends
  | false =>
    rw [readPluginOf, plugins, regular.noPlugin plugins]
    exact ends_pure "" []

theorem decode_encode {g : Greeting} (regular : g.IsRegular) : decode g.encode = .ok g.asRead := by
  rw [encode_eq regular.secure]
  exact decode_encodeWith regular (ends_readPluginOf regular)

/-- The zero byte behind the plugin name can be left out. -/
theorem decode_dropLast {g : Greeting} (regular : g.IsRegular)
    (plugins : g.capabilities.contains .pluginAuth = true) :
    decode g.encode.dropLast = .ok g.asRead := by
  have last : g.encode.dropLast = g.encodeWith (Utf8.encode g.plugin) := by
    rw [encode_eq regular.secure, if_pos plugins, Write.terminated]
    simp only [encodeWith, ← List.append_assoc, ← List.cons_append, List.dropLast_concat]
  rw [last]
  refine decode_encodeWith regular ?_
  rw [readPluginOf, if_pos plugins]
  exact ends_readPlugin regular.plugin

/-- A greeting is read back with zero bytes behind a nonce of less than twenty bytes and with any
other nonce as it is, whatever bytes that nonce ends with, and with or without the zero byte behind
the plugin name. -/
theorem decode_encode_padded {g : Greeting} (regular : g.IsRegular)
    (known : .ofBits g.status.bits = g.status) :
    decode g.encode = .ok { g with nonce := padded g.nonce } ∧
    (20 ≤ g.nonce.length → decode g.encode = .ok g) ∧
    (g.capabilities.contains .pluginAuth = true →
      decode g.encode.dropLast = .ok { g with nonce := padded g.nonce }) := by
  have same : g.asRead = { g with nonce := padded g.nonce } := by rw [asRead, known]
  have whole := decode_encode regular
  rw [same] at whole
  refine ⟨whole, ?_, ?_⟩
  · intro full
    rw [whole, padded_of_full full]
  · intro plugins
    rw [decode_dropLast regular plugins, same]

/-- A greeting whose nonce ends with zero bytes. -/
def zeroEnded : Greeting :=
  { version := protocolVersion, serverVersion := "8.0.36", connectionId := 42
    nonce := 7 :: Write.zeros 20, capabilities := .client, collation := defaultCollation
    status := .autocommit, plugin := "mysql_native_password" }

theorem decode_encode_zeroEnded :
    zeroEnded.nonce.length = 21 ∧ decode zeroEnded.encode = .ok zeroEnded ∧
      decode zeroEnded.encode.dropLast = .ok zeroEnded := by
  have regular : zeroEnded.IsRegular :=
    ⟨rfl, by decide +kernel, by decide, by decide, by decide, by decide +kernel, by decide⟩
  obtain ⟨_, whole, open_⟩ := decode_encode_padded regular (by decide)
  refine ⟨rfl, whole (by decide), ?_⟩
  rw [open_ (by decide), padded_of_full (by decide)]

end Greeting

end SqlWire
