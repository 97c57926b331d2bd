import Mathlib.Data.List.Perm.Basic
import SqlWire.Proofs.Client.Fields
import SqlWire.Proofs.Outcome
import SqlWire.Proofs.Text.Padding

/-! # The order of pairs in a connection string

A connection string says pairs of a key and a value, in whatever spelling: with blanks around keys,
values and the commas of a list of hosts, and with empty segments anywhere (`Spells`). What it gives is
decided by the entries that its pairs say (`parse_eq`). So the order does not matter while no two pairs
say the same setting, and where they do only the last pair of each setting counts (`parse_order`).
-/

namespace SqlWire

namespace ConnectionString

/-- A key with a value. -/
structure Pair where
  key : List Char
  value : List Char
  key_whole : '=' ∉ key ∧ ';' ∉ key
  value_whole : ';' ∉ value

namespace Pair

def segment (pair : Pair) : List Char := pair.key ++ '=' :: pair.value

/-- The key of a pair as it is looked up. -/
def name (pair : Pair) : String := String.ofList (Lower.text (trim pair.key))

/-- The setting of a pair, if its key is known. -/
def setting? (pair : Pair) : Option Setting := Setting.ofKey? pair.name

/-- Whether a segment is a pair but for blanks around its key, its value or the hosts in it. -/
def IsSpelled (pair : Pair) (piece : List Char) : Prop :=
  ∃ key value, piece = key ++ '=' :: value ∧ IsPadded pair.key key ∧
    (IsPadded pair.value value ∨ pair.setting? = some .hosts ∧ IsSpaced ',' pair.value value)

/-- Whether the value of a pair can be read. -/
def IsReadable (pair : Pair) : Prop := ∃ c, applySegment .default pair.segment = .ok c

/-- What a pair says for its setting: nothing if its key is unknown. -/
def entries (pair : Pair) : Except ConfigError (List Entry) :=
  match pair.setting? with
  | none => .ok []
  | some setting =>
    (setting.read pair.name (String.ofList (trim pair.value))).map fun value => [⟨setting, value⟩]

theorem isSpelled_segment (pair : Pair) : pair.IsSpelled pair.segment :=
  ⟨pair.key, pair.value, rfl, .refl _, .inl (.refl _)⟩

/-- A pair is one segment of the connection string that spells it. -/
theorem IsSpelled.whole {pair : Pair} {piece : List Char} (spelled : pair.IsSpelled piece) :
    ';' ∉ piece := by
  obtain ⟨key, value, rfl, padded, spaced⟩ := spelled
  have key_whole : ';' ∉ key := padded.not_mem (by decide) pair.key_whole.2
  have value_whole : ';' ∉ value := by
    obtain padded | ⟨-, spaced⟩ := spaced
    · exact padded.not_mem (by decide) pair.value_whole
    · exact spaced.not_mem (by decide) (by decide) pair.value_whole
  exact List.not_mem_append key_whole (by simpa using value_whole)

theorem hostList_of_isSpaced {text spaced : List Char} (spaces : IsSpaced ',' text spaced) :
    Setting.hostList (String.ofList spaced) = Setting.hostList (String.ofList text) := by
  simp only [Setting.hostList, String.toList_ofList, spaces.map_trim_eq]

/-- Hosts are the same in a list that is trimmed. -/
theorem hostList_trim (text : List Char) :
    Setting.hostList (String.ofList (trim text)) = Setting.hostList (String.ofList text) :=
  (hostList_of_isSpaced ((IsPadded.trim text).isSpaced (by decide))).symm

/-- Blanks around a value, or around hosts, do not change what it says. -/
theorem read_eq {pair : Pair} {value : List Char} {setting : Setting}
    (known : pair.setting? = some setting)
    (spaced : IsPadded pair.value value ∨
      pair.setting? = some .hosts ∧ IsSpaced ',' pair.value value) (key : String) :
    setting.read key (String.ofList (trim value)) =
      setting.read key (String.ofList (trim pair.value)) := by
  obtain padded | ⟨hosts, spaced⟩ := spaced
  · rw [padded.trim_eq]
  · obtain rfl : setting = .hosts := Option.some_inj.mp (known.symm.trans hosts)
    rw [Setting.read, Setting.read, hostList_trim, hostList_trim, hostList_of_isSpaced spaced]

/-- To apply a segment is to put what its pair says in its field. -/
theorem IsSpelled.applySegment_eq {pair : Pair} {piece : List Char} (spelled : pair.IsSpelled piece)
    (c : Config) : applySegment c piece = pair.entries.map (Entry.putAll c) := by
  obtain ⟨key, value, rfl, padded, spaced⟩ := spelled
  have cut := splitFirst?_trim (by decide) (padded.not_mem (by decide) pair.key_whole.1) value
  have filled : (trim (key ++ '=' :: value)).isEmpty = false := by
    rw [List.isEmpty_eq_false_iff]
    intro empty
    rw [empty] at cut
    cases cut
  have key_eq : trim (trimStart key) = trim pair.key := by
    rw [← (IsPadded.trimStart key).trim_eq, padded.trim_eq]
  have value_eq : trim (trimEnd value) = trim value := (IsPadded.trimEnd value).trim_eq.symm
  simp only [applySegment, filled, Bool.false_eq_true, if_false, cut, key_eq, value_eq]
  change (match pair.setting? with
    | none => Except.ok c
    | some setting => setting.apply pair.name (String.ofList (trim value)) c) = _
  rw [entries]
  cases known : pair.setting? with
  | none => rfl
  | some setting =>
    simp only [Setting.apply_eq, read_eq known spaced]
    cases setting.read pair.name (String.ofList (trim pair.value)) <;> rfl

theorem IsReadable.exists_entries {pair : Pair} (readable : pair.IsReadable) :
    ∃ said, pair.entries = .ok said := by
  obtain ⟨c, applied⟩ := readable
  rw [pair.isSpelled_segment.applySegment_eq] at applied
  cases read : pair.entries with
  | error cause =>
    rw [read] at applied
    cases applied
  | ok said => exact ⟨said, rfl⟩

/-- What a pair says is for its setting. -/
theorem map_setting_entries {pair : Pair} {said : List Entry} (read : pair.entries = .ok said) :
    said.map Entry.setting = pair.setting?.toList := by
  rw [entries] at read
  split at read
  · next unknown =>
    cases read
    rw [unknown]
    rfl
  · next setting known =>
    cases value : setting.read pair.name (String.ofList (trim pair.value)) with
    | error cause =>
      rw [value] at read
      cases read
    | ok value =>
      simp only [value, Except.map, Except.ok.injEq] at read
      rw [← read, known]
      rfl

end Pair

/-- Whether segments spell pairs, one after the other, with empty segments anywhere. -/
inductive IsSpelling : List (List Char) → List Pair → Prop
  | nil : IsSpelling [] []
  | blank {piece pieces pairs} : (∀ c ∈ piece, isBlank c = true) → IsSpelling pieces pairs →
      IsSpelling (piece :: pieces) pairs
  | pair {pair : Pair} {piece pieces pairs} : pair.IsSpelled piece → IsSpelling pieces pairs →
      IsSpelling (piece :: pieces) (pair :: pairs)

/-- Whether a connection string says pairs, in this order. -/
def Spells (text : String) (pairs : List Pair) : Prop :=
  ∃ pieces, pieces ≠ [] ∧ text.toList = [';'].intercalate pieces ∧ IsSpelling pieces pairs

theorem IsSpelling.whole {pieces : List (List Char)} {pairs : List Pair}
    (spelling : IsSpelling pieces pairs) : ∀ piece ∈ pieces, ';' ∉ piece := by
  induction spelling with
  | nil => nofun
  | blank empty _ ih =>
    exact List.forall_mem_cons.mpr ⟨not_mem_of_blank empty (by decide), ih⟩
  | pair spelled _ ih => exact List.forall_mem_cons.mpr ⟨spelled.whole, ih⟩

/-- To apply segments is to put what their pairs say in its fields, if all can be read. -/
theorem IsSpelling.foldlM_eq {pieces : List (List Char)} {pairs : List Pair}
    (spelling : IsSpelling pieces pairs) (c : Config) :
    pieces.foldlM applySegment c =
      (pairs.mapM Pair.entries).map fun said => Entry.putAll c said.flatten := by
  induction spelling generalizing c with
  | nil => rfl
  | @blank piece _ _ empty _ ih =>
    have nothing : applySegment c piece = .ok c := by
      rw [applySegment, trim_eq_nil empty]
      rfl
    rw [List.foldlM_cons, nothing]
    exact ih c
  | @pair pair _ _ pairs spelled _ ih =>
    rw [List.foldlM_cons, spelled.applySegment_eq, List.mapM_cons]
    cases pair.entries with
    | error cause => rfl
    | ok here =>
      refine (ih _).trans ?_
      cases pairs.mapM Pair.entries with
      | error cause => rfl
      | ok later => exact congrArg Except.ok (Entry.putAll_append c here later.flatten).symm

/-- The settings with what is said, if they can be used. -/
def settle (said : List (List Entry)) : Except ConfigError Config :=
  let c := Entry.putAll .default said.flatten
  c.validate.map fun _ => c

/-- What a connection string gives is decided by what its pairs say. -/
theorem Spells.parse_eq {text : String} {pairs : List Pair} (spells : Spells text pairs) :
    parse text = pairs.mapM Pair.entries >>= settle := by
  obtain ⟨pieces, some, whole, spelling⟩ := spells
  have cut : splitAll ';' text.toList = pieces := by
    rw [splitAll_eq_splitOn, whole]
    exact List.splitOn_intercalate ';' spelling.whole some
  rw [parse, cut, spelling.foldlM_eq]
  cases pairs.mapM Pair.entries <;> rfl

/-- Whether pairs can be read, and what each of them says. -/
def AreRead (pairs : List Pair) (said : List (List Entry)) : Prop :=
  List.Forall₂ (fun pair here => Pair.entries pair = .ok here) pairs said

theorem mapM_entries_eq_ok_iff {pairs : List Pair} {said : List (List Entry)} :
    pairs.mapM Pair.entries = .ok said ↔ AreRead pairs said := Outcome.mapM_eq_ok_iff

theorem exists_areRead {pairs : List Pair} (readable : ∀ pair ∈ pairs, pair.IsReadable) :
    ∃ said, AreRead pairs said := by
  have each : ∀ pair ∈ pairs, ∃ here, pair.entries = .ok here ∧ pair.entries = .ok here := by
    intro pair member
    obtain ⟨here, read⟩ := (readable pair member).exists_entries
    exact ⟨here, read, read⟩
  obtain ⟨said, -, read⟩ := Outcome.mapM_eq_ok each
  exact ⟨said, read⟩

/-- What pairs say is for their settings. -/
theorem map_setting_flatten {pairs : List Pair} {said : List (List Entry)} (read : AreRead pairs said) :
    said.flatten.map Entry.setting = pairs.filterMap Pair.setting? := by
  induction read with
  | nil => rfl
  | @cons pair here pairs _ first _ ih =>
    rw [List.flatten_cons, List.map_append, ih, Pair.map_setting_entries first]
    cases known : pair.setting? <;> simp [known]

/-- Pairs for settings that are all different give the same in any order. -/
theorem mapM_settle_perm {pairs others : List Pair} {c : Config} (same : pairs.Perm others)
    (apart : (pairs.filterMap Pair.setting?).Nodup)
    (given : pairs.mapM Pair.entries >>= settle = .ok c) :
    others.mapM Pair.entries >>= settle = .ok c := by
  obtain ⟨said, read, settled⟩ := Outcome.bind_eq_ok given
  have each := mapM_entries_eq_ok_iff.mp read
  obtain ⟨rearranged, others_read, moved⟩ := List.perm_comp_forall₂ same.symm each
  have settings := map_setting_flatten each
  have put : Entry.putAll .default rearranged.flatten = Entry.putAll .default said.flatten :=
    (Entry.putAll_perm moved.symm.flatten (by rwa [settings]) .default).symm
  rw [mapM_entries_eq_ok_iff.mpr others_read]
  change settle rearranged = .ok c
  rw [settle, put]
  exact settled

/-- Whether of the pairs of each setting the last one is kept. One with an unknown key can be left out
or not. -/
inductive IsLatest : List Pair → List Pair → Prop
  | nil : IsLatest [] []
  | replaced {pair rest kept setting} : Pair.setting? pair = some setting →
      setting ∈ rest.filterMap Pair.setting? → IsLatest rest kept → IsLatest (pair :: rest) kept
  | unknown {pair rest kept} : Pair.setting? pair = none → IsLatest rest kept →
      IsLatest (pair :: rest) kept
  | last {pair rest kept} : (∀ setting ∈ Pair.setting? pair, setting ∉ rest.filterMap Pair.setting?) →
      IsLatest rest kept → IsLatest (pair :: rest) (pair :: kept)

/-- What the last pair of each setting says has to be put, and nothing else. -/
theorem IsLatest.exists_areRead {pairs kept : List Pair} (latest : IsLatest pairs kept)
    {said : List (List Entry)} (read : AreRead pairs said) :
    ∃ fewer, AreRead kept fewer ∧ ∀ c, Entry.putAll c fewer.flatten = Entry.putAll c said.flatten := by
  induction latest generalizing said with
  | nil => exact ⟨said, read, fun _ => rfl⟩
  | @replaced _ rest _ setting known again _ ih =>
    cases read with
    | @cons _ here _ said first later =>
      obtain ⟨fewer, keptLater, same⟩ := ih later
      refine ⟨fewer, keptLater, fun c => ?_⟩
      obtain ⟨entry, rfl, rfl⟩ : ∃ entry, here = [entry] ∧ entry.setting = setting := by
        have settings := Pair.map_setting_entries first
        rw [known] at settings
        exact List.map_eq_singleton_iff.mp settings
      rw [same]
      refine (Entry.putAll_cons_of_mem ?_ c).symm
      rwa [map_setting_flatten later]
  | unknown unknown _ ih =>
    cases read with
    | @cons _ here _ said first later =>
      obtain ⟨fewer, keptLater, same⟩ := ih later
      refine ⟨fewer, keptLater, fun c => ?_⟩
      obtain rfl : here = [] := by
        have settings := Pair.map_setting_entries first
        rw [unknown] at settings
        exact List.map_eq_nil_iff.mp settings
      exact same c
  | last _ _ ih =>
    cases read with
    | @cons _ here _ said first later =>
      obtain ⟨fewer, keptLater, same⟩ := ih later
      refine ⟨here :: fewer, .cons first keptLater, fun c => ?_⟩
      rw [List.flatten_cons, List.flatten_cons, Entry.putAll_append, Entry.putAll_append, same]

/-- The order of the pairs of a connection string does not matter while no two of them say the same
setting: it gives the same settings in any order and in any spelling, or none in any. Where all its pairs
can be read, only the last one of each setting counts. -/
theorem parse_order {text : String} {pairs : List Pair} (spells : Spells text pairs) :
    ((pairs.filterMap Pair.setting?).Nodup → ∀ others other, pairs.Perm others →
      Spells other others → ∀ c, parse other = .ok c ↔ parse text = .ok c) ∧
    ((∀ pair ∈ pairs, pair.IsReadable) → ∀ kept other, IsLatest pairs kept → Spells other kept →
      parse other = parse text) := by
  constructor
  · intro apart others other same respelled c
    rw [spells.parse_eq, respelled.parse_eq]
    have apart' : (others.filterMap Pair.setting?).Nodup := (same.filterMap _).nodup_iff.mp apart
    exact ⟨mapM_settle_perm same.symm apart', mapM_settle_perm same apart⟩
  · intro readable kept other latest respelled
    obtain ⟨said, read⟩ := exists_areRead readable
    obtain ⟨fewer, keptRead, same⟩ := latest.exists_areRead read
    rw [spells.parse_eq, respelled.parse_eq, mapM_entries_eq_ok_iff.mpr read,
      mapM_entries_eq_ok_iff.mpr keptRead]
    change settle fewer = settle said
    rw [settle, settle, same]

section twoUsers

private def appPair : Pair := ⟨"UID".toList, "app".toList, by decide, by decide⟩

private def hostsPair : Pair := ⟨"Server".toList, "db1,db2".toList, by decide, by decide⟩

private def rootPair : Pair := ⟨"User ID".toList, "root".toList, by decide, by decide⟩

private theorem spells_three :
    Spells "UID=app;Server=db1,db2;User ID=root" [appPair, hostsPair, rootPair] :=
  ⟨[appPair.segment, hostsPair.segment, rootPair.segment], by simp, by decide +kernel,
    .pair appPair.isSpelled_segment (.pair hostsPair.isSpelled_segment
      (.pair rootPair.isSpelled_segment .nil))⟩

private theorem spells_two : Spells "Server=db1,db2;User ID=root" [hostsPair, rootPair] :=
  ⟨[hostsPair.segment, rootPair.segment], by simp, by decide +kernel,
    .pair hostsPair.isSpelled_segment (.pair rootPair.isSpelled_segment .nil)⟩

private theorem spells_spaced :
    Spells "; User ID = root ;; Server= db1 , db2" [rootPair, hostsPair] := by
  have space : ∀ c ∈ [' '], isBlank c = true := List.forall_mem_singleton.mpr (by decide)
  have user : rootPair.IsSpelled " User ID = root ".toList :=
    ⟨" User ID ".toList, " root ".toList, by decide +kernel,
      ⟨[' '], [' '], by decide +kernel, space, space⟩,
      .inl ⟨[' '], [' '], by decide +kernel, space, space⟩⟩
  have first : IsPadded "db1".toList " db1 ".toList :=
    ⟨[' '], [' '], by decide +kernel, space, space⟩
  have second : IsPadded "db2".toList " db2".toList :=
    ⟨[' '], [], by decide +kernel, space, nofun⟩
  have server : hostsPair.IsSpelled " Server= db1 , db2".toList :=
    ⟨" Server".toList, " db1 , db2".toList, by decide +kernel,
      ⟨[' '], [], by decide +kernel, space, nofun⟩,
      .inr ⟨by decide +kernel, .cons first (.cons second .nil)⟩⟩
  exact ⟨[[], " User ID = root ".toList, [], " Server= db1 , db2".toList], by simp, by decide +kernel,
    .blank nofun (.pair user (.blank nofun (.pair server .nil)))⟩

/-- Of two users the last one counts, also in front of the hosts. -/
theorem parse_order_twoUsers :
    Spells "UID=app;Server=db1,db2;User ID=root" [appPair, hostsPair, rootPair] ∧
      parse "Server=db1,db2;User ID=root" = parse "UID=app;Server=db1,db2;User ID=root" ∧
      (∀ c, parse "; User ID = root ;; Server= db1 , db2" = .ok c ↔
        parse "Server=db1,db2;User ID=root" = .ok c) ∧
      parse "Server=db1,db2;User ID=root" =
        .ok { Config.default with hosts := ["db1", "db2"], credentials := ⟨"root", ""⟩ } := by
  have readable : ∀ pair ∈ [appPair, hostsPair, rootPair], pair.IsReadable := by
    simp only [List.forall_mem_cons]
    exact ⟨⟨_, rfl⟩, ⟨_, rfl⟩, ⟨_, rfl⟩, List.forall_mem_nil _⟩
  have known : appPair.setting? = some .username := by decide +kernel
  have latest : IsLatest [appPair, hostsPair, rootPair] [hostsPair, rootPair] :=
    .replaced known (by decide +kernel) (.last (by decide +kernel) (.last (by decide +kernel) .nil))
  have apart : ([hostsPair, rootPair].filterMap Pair.setting?).Nodup := by decide +kernel
  refine ⟨spells_three, (parse_order spells_three).2 readable _ _ latest spells_two,
    (parse_order spells_two).1 apart _ _ (.swap _ _ _) spells_spaced, ?_⟩
  rfl

end twoUsers

end ConnectionString

end SqlWire
