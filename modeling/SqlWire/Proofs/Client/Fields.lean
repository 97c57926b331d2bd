import Mathlib.Data.List.Nodup
import SqlWire.Client.ConnectionString

/-! # Settings as fields

To apply a setting is to read its text, whatever the other settings are, and then to put what was read
in its field (`Setting.apply_eq`). A later entry for a field takes the place of an earlier one
(`Setting.put_put`), and entries for two fields can be put in any order (`Setting.put_comm`). So entries
for fields that are all different can be put in any order (`Entry.putAll_perm`), and an entry that a
later one replaces need not be put at all (`Entry.putAll_cons_of_mem`).
-/

namespace SqlWire

namespace Setting

/-- What is kept for a setting. -/
def Field : Setting → Type
  | hosts => List String
  | port => UInt16
  | username | password => String
  | database => Option String
  | pooling | connectionReset | allowUserVariables | oldGuids | forceSynchronous => Bool
  | minPoolSize | maxPoolSize => UInt32
  | connectionLifetime | connectionIdleTimeout | connectTimeout | commandTimeout => Duration
  | loadBalance => LoadBalance

def read : (setting : Setting) → (key text : String) → Except ConfigError setting.Field
  | hosts, _, text => .ok (hostList text)
  | port, _, text =>
    match IntegerType.uint16.ofText? text with
    | some n => .ok (UInt16.ofNat n.toNat)
    | none => .error (.invalidPort text)
  | username, _, text | password, _, text => .ok text
  | database, _, text => .ok (if text.isEmpty then none else some text)
  | pooling, key, text | connectionReset, key, text | allowUserVariables, key, text
  | oldGuids, key, text | forceSynchronous, key, text => flag key text
  | minPoolSize, key, text | maxPoolSize, key, text => (count key text).map UInt32.ofNat
  | connectionLifetime, key, text | connectionIdleTimeout, key, text | connectTimeout, key, text
  | commandTimeout, key, text => seconds key text
  | loadBalance, _, text =>
    match LoadBalance.ofText? text with
    | some order => .ok order
    | none => .error (.invalidLoadBalance text)

/-- The settings with one field replaced. -/
def put : (setting : Setting) → setting.Field → Config → Config
  | hosts, value, c => { c with hosts := value }
  | port, value, c => { c with port := value }
  | username, value, c => { c with credentials := { c.credentials with username := value } }
  | password, value, c => { c with credentials := { c.credentials with password := value } }
  | database, value, c => { c with database := value }
  | pooling, value, c => { c with pooling := value }
  | connectionReset, value, c => { c with connectionReset := value }
  | minPoolSize, value, c => { c with minPoolSize := value }
  | maxPoolSize, value, c => { c with maxPoolSize := value }
  | connectionLifetime, value, c => { c with connectionLifetime := value }
  | connectionIdleTimeout, value, c => { c with connectionIdleTimeout := value }
  | connectTimeout, value, c => { c with connectTimeout := value }
  | commandTimeout, value, c => { c with commandTimeout := value }
  | allowUserVariables, value, c => { c with allowUserVariables := value }
  | oldGuids, value, c => { c with oldGuids := value }
  | forceSynchronous, value, c => { c with forceSynchronous := value }
  | loadBalance, value, c => { c with loadBalance := value }

/-- To apply a setting is to read its text and to put what was read in its field. -/
theorem apply_eq (setting : Setting) (key text : String) (c : Config) :
    setting.apply key text c = (setting.read key text).map (setting.put · c) := by
  cases setting with
  | port =>
    rw [apply, read]
    cases IntegerType.uint16.ofText? text <;> rfl
  | loadBalance =>
    rw [apply, read]
    cases LoadBalance.ofText? text <;> rfl
  | minPoolSize =>
    rw [apply, read]
    cases count key text <;> rfl
  | maxPoolSize =>
    rw [apply, read]
    cases count key text <;> rfl
  | _ => rfl

theorem put_put (setting : Setting) (first second : setting.Field) (c : Config) :
    setting.put second (setting.put first c) = setting.put second c := by
  cases setting <;> rfl

theorem put_comm {s t : Setting} (other : s ≠ t) (v : s.Field) (w : t.Field) (c : Config) :
    t.put w (s.put v c) = s.put v (t.put w c) := by
  cases s <;> cases t <;> first | rfl | exact absurd rfl other

end Setting

/-- A setting together with what is to be kept for it. -/
structure Entry where
  setting : Setting
  value : setting.Field

namespace Entry

def put (c : Config) (entry : Entry) : Config := entry.setting.put entry.value c

/-- The settings with several entries in their fields, one after the other. -/
def putAll (c : Config) (entries : List Entry) : Config := entries.foldl put c

theorem putAll_append (c : Config) (entries more : List Entry) :
    putAll c (entries ++ more) = putAll (putAll c entries) more := List.foldl_append

/-- Entries for settings that are all different can be put in any order. -/
theorem putAll_perm {entries others : List Entry} (same : entries.Perm others)
    (apart : (entries.map setting).Nodup) (c : Config) : putAll c entries = putAll c others := by
  refine same.foldl_eq' ?_ c
  intro first here second there c
  by_cases one : first.setting = second.setting
  · rw [List.inj_on_of_nodup_map apart here there one]
  · exact Setting.put_comm one _ _ c

/-- An entry need not be put in front of one for the same setting. -/
theorem putAll_cons_of_mem {entry : Entry} {rest : List Entry}
    (replaced : entry.setting ∈ rest.map setting) (c : Config) :
    putAll c (entry :: rest) = putAll c rest := by
  induction rest generalizing c with
  | nil => cases replaced
  | cons next rest ih =>
    change putAll (next.put (entry.put c)) rest = putAll (next.put c) rest
    by_cases one : entry.setting = next.setting
    · obtain ⟨s, v⟩ := entry
      obtain ⟨t, w⟩ := next
      cases one
      rw [put, put, Setting.put_put, put]
    · have later : entry.setting ∈ rest.map setting := (List.mem_cons.mp replaced).resolve_left one
      rw [put, put, Setting.put_comm one]
      exact ih later _

end Entry

end SqlWire
