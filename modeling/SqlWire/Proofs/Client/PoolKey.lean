import Mathlib.Data.List.Infix
import SqlWire.Client.ConnectionString
import SqlWire.Proofs.Text.Splitting

/-! # What a pool key tells apart

A pool key is a text in which the settings of a client stand one after the other, none of them
escaped, and three times in whole seconds. Settings are plain (`Config.IsPlain`) if that loses
nothing: plain settings with one key agree in all that the key is made of (`poolKey_eq_iff`). This
is as far as it goes, since any settings share their key with plain ones (`exists_isPlain`).
-/

namespace SqlWire

namespace Config

/-- Settings with what does not stand in a pool key as it is by default. -/
def keyed (c : Config) : Config :=
  { c with
    pooling := default.pooling
    commandTimeout := default.commandTimeout
    forceSynchronous := default.forceSynchronous }

/-- The hosts as they stand in a pool key. -/
def hostText (c : Config) : List Char := [','].intercalate (c.hosts.map String.toList)

/-- What stands in a pool key between the hosts and the user name. -/
def portMarker (port : UInt16) : String := ";port=" ++ Nat.repr port.toNat ++ ";user id="

/-- What stands in a pool key between the user name and the password. -/
def passwordMarker : String := ";password="

/-- What stands in a pool key between the password and the database. -/
def databaseMarker : String := ";database="

/-- Whether a text can stand between the hosts and the user name. -/
def IsPortMarker (text : List Char) : Prop := ∃ port, text = (portMarker port).toList

/-- The first segments of a pool key, with texts of any kind inside, as one text. -/
def keyHead (hosts : List Char) (port : UInt16) (username password database : List Char) :
    List Char :=
  hosts ++ ((portMarker port).toList ++ (username ++ (passwordMarker.toList ++
    (password ++ (databaseMarker.toList ++ database)))))

/-- The segments of a pool key behind the texts. -/
def keyTail (c : Config) : List String :=
  ["connection reset=" ++ flagText c.connectionReset,
    "minimum pool size=" ++ Nat.repr c.minPoolSize.toNat,
    "maximum pool size=" ++ Nat.repr c.maxPoolSize.toNat,
    "connection lifetime=" ++ Nat.repr c.connectionLifetime.seconds,
    "connection idle timeout=" ++ Nat.repr c.connectionIdleTimeout.seconds,
    "connect timeout=" ++ Nat.repr c.connectTimeout.seconds,
    "allow user variables=" ++ flagText c.allowUserVariables,
    "old guids=" ++ flagText c.oldGuids,
    "load balance=" ++ c.loadBalance.name]

/-- Settings of which a pool key loses nothing: each text ends where the key lets the next one
begin, and times are whole seconds. -/
structure IsPlain (c : Config) : Prop where
  hosted : c.hosts ≠ []
  hosts_apart : ∀ host ∈ c.hosts, ',' ∉ host.toList
  hosts_end : Marking.IsFree IsPortMarker c.hostText
  username_ends : Marking.IsFree (· = passwordMarker.toList) c.credentials.username.toList
  password_ends : Marking.IsFree (· = databaseMarker.toList) c.credentials.password.toList
  database_named : c.database ≠ some ""
  lifetime_whole : c.connectionLifetime = .ofSeconds c.connectionLifetime.seconds
  idleTimeout_whole : c.connectionIdleTimeout = .ofSeconds c.connectionIdleTimeout.seconds
  connectTimeout_whole : c.connectTimeout = .ofSeconds c.connectTimeout.seconds

section Markers

theorem not_mem_repr {n : Nat} {c : Char} (other : c.isDigit = false) :
    c ∉ (Nat.repr n).toList := by
  intro inside
  rw [Nat.toList_repr] at inside
  have digit := Nat.isDigit_of_mem_toDigits (by decide) (by decide) inside
  rw [digit] at other
  cases other

theorem repr_inj {m n : Nat} : Nat.repr m = Nat.repr n ↔ m = n := by
  refine ⟨fun same => ?_, congrArg Nat.repr⟩
  have digits := congrArg String.toList same
  rw [Nat.toList_repr, Nat.toList_repr] at digits
  rw [← Nat.ofDigitChars_ten_toDigits (n := m), digits, Nat.ofDigitChars_ten_toDigits]

/-- A text that begins with a character that it does not have again marks a place. -/
theorem marking_eq (first : Char) (rest : List Char) (once : first ∉ rest) :
    Marking (· = first :: rest) where
  visible := by
    rintro m rfl
    exact List.cons_ne_nil _ _
  apart := by
    rintro m n rfl rfl front back before behind left right whole same
    obtain ⟨c, front, rfl⟩ := List.exists_cons_of_ne_nil left
    obtain ⟨d, back, rfl⟩ := List.exists_cons_of_ne_nil right
    obtain ⟨-, rfl⟩ := List.cons.inj whole
    obtain ⟨rfl, -⟩ := List.cons.inj same
    exact once (by simp)
  whole := by
    rintro m n rfl rfl - - -
    rfl

theorem marking_passwordMarker : Marking (· = passwordMarker.toList) :=
  marking_eq ';' "password=".toList (by decide)

theorem marking_databaseMarker : Marking (· = databaseMarker.toList) :=
  marking_eq ';' "database=".toList (by decide)

theorem portMarker_toList (port : UInt16) :
    (portMarker port).toList =
      ';' :: ("port=".toList ++ (Nat.repr port.toNat).toList ++ ';' :: "user id=".toList) := by
  rw [portMarker, String.toList_append, String.toList_append]
  rfl

theorem marking_portMarker : Marking IsPortMarker where
  visible := by
    rintro m ⟨port, rfl⟩
    rw [portMarker_toList]
    exact List.cons_ne_nil _ _
  apart := by
    rintro m n ⟨port, rfl⟩ ⟨port', rfl⟩ front back before behind left right whole same
    rw [portMarker_toList] at whole same
    obtain ⟨c, front, rfl⟩ := List.exists_cons_of_ne_nil left
    obtain ⟨d, back, rfl⟩ := List.exists_cons_of_ne_nil right
    obtain ⟨-, whole⟩ := List.cons.inj whole
    obtain ⟨rfl, same⟩ := List.cons.inj same
    have once : ';' ∉ "port=".toList ++ (Nat.repr port.toNat).toList :=
      List.not_mem_append (by decide) (not_mem_repr rfl)
    obtain ⟨-, -, rfl⟩ := (List.append_cons_inj_of_notMem once (by decide)).mp whole
    simp at same
  whole := by
    rintro m n ⟨port, rfl⟩ ⟨port', rfl⟩ before behind same
    have digits : (Nat.repr port.toNat).toList = (Nat.repr port'.toNat).toList := by
      simp only [portMarker_toList, List.append_assoc, List.cons_append, List.cons.injEq, true_and,
        List.append_cancel_left_eq] at same
      have pieces := congrArg (List.splitOn ';') same
      rw [List.splitOn_append_cons_self_of_not_mem (not_mem_repr rfl),
        List.splitOn_append_cons_self_of_not_mem (not_mem_repr rfl)] at pieces
      exact (List.cons.inj pieces).1
    rw [portMarker_toList, portMarker_toList, digits]

end Markers

section Segments

theorem flagText_injective {a b : Bool} (same : flagText a = flagText b) : a = b := by
  revert same
  cases a <;> cases b <;> decide

theorem loadBalanceName_injective {a b : LoadBalance} (same : a.name = b.name) : a = b := by
  revert same
  cases a <;> cases b <;> decide

/-- A pool key is its texts and its other segments, joined by semicolons. -/
theorem poolKey_toList (c : Config) :
    c.poolKey.toList =
      "server=".toList ++ (keyHead c.hostText c.port c.credentials.username.toList
        c.credentials.password.toList (c.database.getD "").toList ++
          ';' :: [';'].intercalate (c.keyTail.map String.toList)) := by
  have segments : c.poolKey = ";".intercalate
      (["server=" ++ ",".intercalate c.hosts, "port=" ++ Nat.repr c.port.toNat,
        "user id=" ++ c.credentials.username, "password=" ++ c.credentials.password,
        "database=" ++ c.database.getD ""] ++ c.keyTail) := by
    rw [poolKey, keyTail]
    rfl
  have more : c.keyTail ≠ [] := List.cons_ne_nil _ _
  have server : ("server=" ++ ",".intercalate c.hosts).toList = "server=".toList ++ c.hostText := by
    rw [String.toList_append, String.toList_intercalate]
    rfl
  rw [segments, String.intercalate_append_of_ne_nil (by simp) more]
  simp only [String.intercalate_cons_cons, String.intercalate_singleton, keyHead, portMarker,
    passwordMarker, databaseMarker, server, String.toList_append, String.toList_intercalate,
    List.append_assoc]
  rfl

/-- A segment behind the texts has no semicolon. -/
theorem not_mem_keyTail (c : Config) : ∀ segment ∈ c.keyTail, ';' ∉ segment.toList := by
  have flag (b : Bool) : ';' ∉ (flagText b).toList := by cases b <;> decide
  have order : ';' ∉ c.loadBalance.name.toList := by cases c.loadBalance <;> decide
  have text {key value : String} (left : ';' ∉ key.toList) (right : ';' ∉ value.toList) :
      ';' ∉ (key ++ value).toList := by
    rw [String.toList_append]
    exact List.not_mem_append left right
  simp only [keyTail, List.forall_mem_cons]
  exact ⟨text (by decide) (flag _), text (by decide) (not_mem_repr rfl),
    text (by decide) (not_mem_repr rfl), text (by decide) (not_mem_repr rfl),
    text (by decide) (not_mem_repr rfl), text (by decide) (not_mem_repr rfl),
    text (by decide) (flag _), text (by decide) (flag _), text (by decide) order,
    List.forall_mem_nil _⟩

/-- A pool key can be cut into its texts, its other segments and nothing else. -/
theorem head_eq_and_keyTail_eq {c d : Config} {texts texts' : List Char}
    (same : texts ++ ';' :: [';'].intercalate (c.keyTail.map String.toList) =
      texts' ++ ';' :: [';'].intercalate (d.keyTail.map String.toList)) :
    texts = texts' ∧ c.keyTail = d.keyTail := by
  have pieces (e : Config) :
      ([';'].intercalate (e.keyTail.map String.toList)).splitOn ';' =
        e.keyTail.map String.toList := by
    refine List.splitOn_intercalate ';' ?_ (List.cons_ne_nil _ _)
    simpa using not_mem_keyTail e
  have cut := congrArg (List.splitOn ';') same
  rw [List.splitOn_append_cons_self, List.splitOn_append_cons_self, pieces, pieces] at cut
  obtain ⟨front, back⟩ := List.append_inj' cut (by simp [keyTail])
  refine ⟨splitOn_injective front, ?_⟩
  exact (List.map_inj_right fun _ _ => String.toList_inj.mp).mp back

/-- The segments behind the texts tell apart what they are made of. -/
theorem keyTail_inj {c d : Config} (same : c.keyTail = d.keyTail) :
    c.connectionReset = d.connectionReset ∧ c.minPoolSize = d.minPoolSize ∧
      c.maxPoolSize = d.maxPoolSize ∧
      c.connectionLifetime.seconds = d.connectionLifetime.seconds ∧
      c.connectionIdleTimeout.seconds = d.connectionIdleTimeout.seconds ∧
      c.connectTimeout.seconds = d.connectTimeout.seconds ∧
      c.allowUserVariables = d.allowUserVariables ∧ c.oldGuids = d.oldGuids ∧
      c.loadBalance = d.loadBalance := by
  simp only [keyTail, List.cons.injEq, String.append_right_inj, repr_inj, and_true,
    UInt32.toNat_inj] at same
  obtain ⟨reset, least, most, lifetime, idle, connect, allowed, guids, order⟩ := same
  exact ⟨flagText_injective reset, least, most, lifetime, idle, connect,
    flagText_injective allowed, flagText_injective guids, loadBalanceName_injective order⟩

end Segments

section Texts

variable {hosts hosts' username username' password password' database database' : List Char}
  {port port' : UInt16}

/-- Texts that end where a key lets the next one begin are found in it again. -/
theorem keyHead_inj (free : Marking.IsFree IsPortMarker hosts)
    (free' : Marking.IsFree IsPortMarker hosts')
    (user : Marking.IsFree (· = passwordMarker.toList) username)
    (user' : Marking.IsFree (· = passwordMarker.toList) username')
    (word : Marking.IsFree (· = databaseMarker.toList) password)
    (word' : Marking.IsFree (· = databaseMarker.toList) password')
    (same : keyHead hosts port username password database =
      keyHead hosts' port' username' password' database') :
    hosts = hosts' ∧ port = port' ∧ username = username' ∧ password = password' ∧
      database = database' := by
  obtain ⟨sameHosts, samePort, same⟩ :=
    marking_portMarker.append_inj ⟨port, rfl⟩ ⟨port', rfl⟩ free free' same
  obtain ⟨sameUser, -, same⟩ := marking_passwordMarker.append_inj rfl rfl user user' same
  obtain ⟨samePassword, -, same⟩ := marking_databaseMarker.append_inj rfl rfl word word' same
  simp only [portMarker, String.toList_inj, String.append_left_inj, String.append_right_inj,
    repr_inj, UInt16.toNat_inj] at samePort
  exact ⟨sameHosts, samePort, sameUser, samePassword, same⟩

/-- The head of a key with texts of any kind is also one with texts that end where they should. -/
theorem exists_free_keyHead (hosts : List Char) (port : UInt16)
    (username password database : List Char) :
    ∃ hosts' port' username' password' database',
      Marking.IsFree IsPortMarker hosts' ∧
      Marking.IsFree (· = passwordMarker.toList) username' ∧
      Marking.IsFree (· = databaseMarker.toList) password' ∧
      keyHead hosts' port' username' password' database' =
        keyHead hosts port username password database := by
  obtain ⟨hosts', _, more, first, ⟨port', rfl⟩, free⟩ :=
    marking_portMarker.exists_first_append ⟨port, rfl⟩ hosts
      (username ++ (passwordMarker.toList ++ (password ++ (databaseMarker.toList ++ database))))
  rw [← List.append_assoc more] at first
  obtain ⟨username', _, more', second, rfl, free'⟩ :=
    marking_passwordMarker.exists_first_append rfl (more ++ username)
      (password ++ (databaseMarker.toList ++ database))
  rw [← List.append_assoc more'] at second
  obtain ⟨password', _, more'', third, rfl, free''⟩ :=
    marking_databaseMarker.exists_first_append rfl (more' ++ password) database
  refine ⟨hosts', port', username', password', more'' ++ database, free, free', free'', ?_⟩
  rw [keyHead, keyHead, first, second, third]

end Texts

/-- Hosts without commas are found in their text again. -/
theorem hosts_eq {c d : Config} (plain : c.IsPlain) (plain' : d.IsPlain)
    (same : c.hostText = d.hostText) : c.hosts = d.hosts := by
  have found {e : Config} (plain : e.IsPlain) :
      e.hostText.splitOn ',' = e.hosts.map String.toList := by
    refine List.splitOn_intercalate ',' ?_ (by simpa using plain.hosted)
    simpa using plain.hosts_apart
  have texts := congrArg (List.splitOn ',') same
  rw [found plain, found plain'] at texts
  exact (List.map_inj_right fun _ _ => String.toList_inj.mp).mp texts

/-- A database with a name, or none, is found in its text again. -/
theorem database_eq {c d : Config} (plain : c.IsPlain) (plain' : d.IsPlain)
    (same : c.database.getD "" = d.database.getD "") : c.database = d.database := by
  have named := plain.database_named
  have named' := plain'.database_named
  cases h : c.database <;> cases h' : d.database <;> simp_all

/-- Plain settings with one key agree in all that the key is made of. -/
theorem IsPlain.keyed_eq {c d : Config} (plain : c.IsPlain) (plain' : d.IsPlain)
    (same : c.poolKey = d.poolKey) : c.keyed = d.keyed := by
  have texts := congrArg String.toList same
  rw [poolKey_toList, poolKey_toList] at texts
  obtain ⟨texts, segments⟩ := head_eq_and_keyTail_eq (List.append_cancel_left texts)
  obtain ⟨hosts, port, username, password, database⟩ := keyHead_inj plain.hosts_end
    plain'.hosts_end plain.username_ends plain'.username_ends plain.password_ends
    plain'.password_ends texts
  obtain ⟨reset, least, most, lifetime, idle, connect, allowed, guids, order⟩ := keyTail_inj segments
  have credentials : c.credentials = d.credentials := by
    cases h : c.credentials
    cases h' : d.credentials
    simp_all [String.toList_inj]
  rw [keyed, keyed, Config.mk.injEq]
  exact ⟨hosts_eq plain plain' hosts, port, database_eq plain plain' (String.toList_inj.mp database),
    credentials, rfl, reset, least, most, by rw [plain.lifetime_whole, plain'.lifetime_whole, lifetime],
    by rw [plain.idleTimeout_whole, plain'.idleTimeout_whole, idle],
    by rw [plain.connectTimeout_whole, plain'.connectTimeout_whole, connect], rfl, allowed, guids, rfl,
    order⟩

/-- What a key leaves out has no say in whether settings are plain. -/
theorem isPlain_keyed {c : Config} : c.keyed.IsPlain ↔ c.IsPlain := by
  constructor <;> intro plain <;>
    exact ⟨plain.hosted, plain.hosts_apart, plain.hosts_end, plain.username_ends,
      plain.password_ends, plain.database_named, plain.lifetime_whole, plain.idleTimeout_whole,
      plain.connectTimeout_whole⟩

theorem poolKey_keyed (c : Config) : c.keyed.poolKey = c.poolKey := rfl

/-- Plain settings have one key exactly if they agree in all that the key is made of. -/
theorem IsPlain.poolKey_eq_iff {c d : Config} (plain : c.IsPlain) (plain' : d.IsPlain) :
    c.poolKey = d.poolKey ↔ c.keyed = d.keyed := by
  refine ⟨plain.keyed_eq plain', fun same => ?_⟩
  rw [← poolKey_keyed c, same, poolKey_keyed]

/-- Any settings share their key with plain ones, which are valid and ask for a pool if they do. -/
theorem exists_isPlain (c : Config) :
    ∃ d : Config, d.IsPlain ∧ d.poolKey = c.poolKey ∧ d.pooling = c.pooling ∧
      (c.validate = .ok () → d.validate = .ok ()) := by
  obtain ⟨hosts, port, username, password, database, hostsEnd, usernameEnds, passwordEnds, same⟩ :=
    exists_free_keyHead c.hostText c.port c.credentials.username.toList
      c.credentials.password.toList (c.database.getD "").toList
  let d : Config :=
    { c with
      hosts := (hosts.splitOn ',').map String.ofList
      port := port
      credentials := ⟨String.ofList username, String.ofList password⟩
      database := if database = [] then none else some (String.ofList database)
      connectionLifetime := .ofSeconds c.connectionLifetime.seconds
      connectionIdleTimeout := .ofSeconds c.connectionIdleTimeout.seconds
      connectTimeout := .ofSeconds c.connectTimeout.seconds }
  have text : d.hostText = hosts := by
    simp [d, hostText, Function.comp_def]
  have whole (n : Nat) : (Duration.ofSeconds n).seconds = n := Nat.mul_div_cancel n (by decide)
  refine ⟨d, ?_, ?_, rfl, ?_⟩
  · constructor
    · simp [d, List.splitOn_ne_nil]
    · intro host member
      obtain ⟨piece, inside, rfl⟩ := List.mem_map.mp member
      intro comma
      rw [String.toList_ofList] at comma
      exact (mem_of_mem_splitOn inside comma).2 rfl
    · rwa [text]
    · simpa [d] using usernameEnds
    · simpa [d] using passwordEnds
    · by_cases empty : database = []
      · simp [d, empty]
      · simp [d, empty]
    · simp only [d, whole]
    · simp only [d, whole]
    · simp only [d, whole]
  · have tail : d.keyTail = c.keyTail := by
      simp only [keyTail, d, whole]
    have name : (d.database.getD "").toList = database := by
      by_cases empty : database = [] <;> simp [d, empty]
    rw [← String.toList_inj, poolKey_toList, poolKey_toList, text, tail, name, ← same]
    simp only [d, String.toList_ofList]
  · intro valid
    simp only [validate, d, List.isEmpty_map, List.isEmpty_eq_false_iff.mpr (List.splitOn_ne_nil _ _)]
    simp only [validate] at valid
    split at valid
    · cases valid
    · exact valid

end Config

end SqlWire
