import SqlWire.Proofs.Client.PoolKey
import SqlWire.Proofs.Outcome
import SqlWire.Proofs.Text.Trimming

/-! # Settings from a connection string

What a connection string gives is plain: the string is cut at semicolons and its hosts at commas, so
that no text has one of these inside, a database without a name is none, and times are read as
numbers of seconds. Each setting keeps that (`Setting.isTidy_apply`), so all segments do
(`isTidy_of_parse`).
-/

namespace SqlWire

theorem mem_splitAll {separator : Char} {text piece : List Char}
    (member : piece ∈ splitAll separator text) {c : Char} (inside : c ∈ piece) :
    c ∈ text ∧ c ≠ separator := by
  rw [splitAll_eq_splitOn] at member
  exact mem_of_mem_splitOn member inside

namespace Config

/-- Settings whose texts have none of the characters at which a connection string is cut, and whose
times are whole seconds. -/
structure IsTidy (c : Config) : Prop where
  hosts_apart : ∀ host ∈ c.hosts, ',' ∉ host.toList ∧ ';' ∉ host.toList
  username_whole : ';' ∉ c.credentials.username.toList
  password_whole : ';' ∉ c.credentials.password.toList
  database_named : c.database ≠ some ""
  lifetime_whole : c.connectionLifetime = .ofSeconds c.connectionLifetime.seconds
  idleTimeout_whole : c.connectionIdleTimeout = .ofSeconds c.connectionIdleTimeout.seconds
  connectTimeout_whole : c.connectTimeout = .ofSeconds c.connectTimeout.seconds

theorem isTidy_default : default.IsTidy := by
  constructor <;> decide

theorem isFree_of_not_mem {text : List Char} {IsMarker : List Char → Prop} {c : Char}
    (common : ∀ m, IsMarker m → c ∈ m) (absent : c ∉ text) : Marking.IsFree IsMarker text := by
  intro m marker within
  exact absent (within.subset (common m marker))

/-- No marker of a key stands in a text without semicolons. -/
theorem IsTidy.isPlain {c : Config} (tidy : c.IsTidy) (hosted : c.hosts ≠ []) : c.IsPlain where
  hosted := hosted
  hosts_apart host member := (tidy.hosts_apart host member).1
  hosts_end := by
    apply isFree_of_not_mem (c := ';')
    · rintro m ⟨port, rfl⟩
      rw [portMarker_toList]
      exact List.mem_cons_self
    · intro inside
      obtain comma | ⟨text, member, inside⟩ := mem_intercalate inside
      · cases comma
      · obtain ⟨host, listed, rfl⟩ := List.mem_map.mp member
        exact (tidy.hosts_apart host listed).2 inside
  username_ends := by
    apply isFree_of_not_mem (c := ';') _ tidy.username_whole
    rintro m rfl
    decide
  password_ends := by
    apply isFree_of_not_mem (c := ';') _ tidy.password_whole
    rintro m rfl
    decide
  database_named := tidy.database_named
  lifetime_whole := tidy.lifetime_whole
  idleTimeout_whole := tidy.idleTimeout_whole
  connectTimeout_whole := tidy.connectTimeout_whole

theorem hosted_of_validate {c : Config} (valid : c.validate = .ok ()) : c.hosts ≠ [] := by
  intro none
  simp [validate, none] at valid

end Config

namespace Setting

theorem hostList_apart {text : String} (whole : ';' ∉ text.toList) :
    ∀ host ∈ hostList text, ',' ∉ host.toList ∧ ';' ∉ host.toList := by
  intro host member
  obtain ⟨name, listed, rfl⟩ := List.mem_map.mp member
  obtain ⟨piece, cut, rfl⟩ := List.mem_map.mp (List.mem_filter.mp listed).1
  simp only [String.toList_ofList]
  constructor <;> intro inside <;>
    obtain ⟨inside, apart⟩ := mem_splitAll cut (mem_of_mem_trim inside)
  · exact apart rfl
  · exact whole inside

theorem seconds_whole {key text : String} {time : Duration} (given : seconds key text = .ok time) :
    time = .ofSeconds time.seconds := by
  cases said : count key text with
  | error cause =>
    rw [seconds, said] at given
    cases given
  | ok n =>
    rw [seconds, said] at given
    cases given
    rw [Duration.seconds, Duration.ofSeconds, Nat.mul_div_cancel n (by decide), Duration.ofSeconds]

/-- Whether settings keep something when one of them becomes what a text says. The texts of a
connection string are trim and have no semicolon. -/
def Preserve (Kept : Config → Prop) : Prop :=
  ∀ (setting : Setting) (key text : String) (c d : Config), ';' ∉ text.toList →
    IsTrim text.toList → Kept c → setting.apply key text c = .ok d → Kept d

/-- Settings stay tidy when one of them becomes what a text without semicolons says. -/
theorem isTidy_apply {setting : Setting} {key text : String} {c d : Config}
    (whole : ';' ∉ text.toList) (tidy : c.IsTidy) (given : setting.apply key text c = .ok d) :
    d.IsTidy := by
  cases setting with
  | hosts =>
    cases given
    exact { tidy with hosts_apart := hostList_apart whole }
  | port =>
    simp only [Setting.apply] at given
    split at given <;> cases given
    exact { tidy with }
  | username =>
    cases given
    exact { tidy with username_whole := whole }
  | password =>
    cases given
    exact { tidy with password_whole := whole }
  | database =>
    cases given
    refine { tidy with database_named := ?_ }
    by_cases empty : text = "" <;> simp [empty]
  | connectionLifetime =>
    obtain ⟨time, said, same⟩ := Outcome.bind_eq_ok given
    cases same
    exact { tidy with lifetime_whole := seconds_whole said }
  | connectionIdleTimeout =>
    obtain ⟨time, said, same⟩ := Outcome.bind_eq_ok given
    cases same
    exact { tidy with idleTimeout_whole := seconds_whole said }
  | connectTimeout =>
    obtain ⟨time, said, same⟩ := Outcome.bind_eq_ok given
    cases same
    exact { tidy with connectTimeout_whole := seconds_whole said }
  | loadBalance =>
    simp only [Setting.apply] at given
    split at given <;> cases given
    exact { tidy with }
  | _ =>
    obtain ⟨value, -, same⟩ := Outcome.bind_eq_ok given
    cases same
    exact { tidy with }

end Setting

namespace ConnectionString

variable {Kept : Config → Prop}

/-- What every setting keeps, every segment keeps. -/
theorem applySegment_keeps (keeps : Setting.Preserve Kept) {c d : Config} {segment : List Char}
    (whole : ';' ∉ segment) (kept : Kept c) (given : applySegment c segment = .ok d) : Kept d := by
  simp only [applySegment] at given
  split at given
  · cases given
    exact kept
  · split at given
    · cases given
    · next key value cut =>
      split at given
      · cases given
        exact kept
      · refine keeps _ _ _ _ _ ?_ ?_ kept given
        · rw [String.toList_ofList]
          intro inside
          have inside := mem_of_mem_trim inside
          refine whole (mem_of_mem_trim ?_)
          rw [mem_of_splitFirst? cut]
          exact List.mem_append_right _ (List.mem_cons_of_mem _ inside)
        · rw [String.toList_ofList]
          exact isTrim_trim value

theorem foldlM_keeps (keeps : Setting.Preserve Kept) {segments : List (List Char)}
    (whole : ∀ segment ∈ segments, ';' ∉ segment) {c d : Config} (kept : Kept c)
    (given : segments.foldlM applySegment c = .ok d) : Kept d := by
  induction segments generalizing c with
  | nil =>
    cases given
    exact kept
  | cons segment rest ih =>
    rw [List.foldlM_cons] at given
    obtain ⟨next, first, later⟩ := Outcome.bind_eq_ok given
    have kept := applySegment_keeps keeps (whole segment List.mem_cons_self) kept first
    exact ih (fun s member => whole s (List.mem_cons_of_mem _ member)) kept later

/-- What the settings of a client that is told nothing have and every setting keeps, the settings of
a connection string have; and they are valid. -/
theorem parse_keeps (start : Kept .default) (keeps : Setting.Preserve Kept) {text : String}
    {c : Config} (given : parse text = .ok c) : Kept c ∧ c.validate = .ok () := by
  obtain ⟨read, segments, rest⟩ := Outcome.bind_eq_ok given
  obtain ⟨⟨⟩, valid, same⟩ := Outcome.bind_eq_ok rest
  cases same
  refine ⟨foldlM_keeps keeps ?_ start segments, valid⟩
  intro segment member inside
  exact (mem_splitAll member inside).2 rfl

/-- The settings of a connection string are tidy and valid. -/
theorem isTidy_of_parse {text : String} {c : Config} (given : parse text = .ok c) :
    c.IsTidy ∧ c.validate = .ok () :=
  parse_keeps Config.isTidy_default
    (fun _ _ _ _ _ whole _ tidy said => Setting.isTidy_apply whole tidy said) given

/-- The settings of a connection string are plain. -/
theorem isPlain_of_parse {text : String} {c : Config} (given : parse text = .ok c) : c.IsPlain :=
  have ⟨tidy, valid⟩ := isTidy_of_parse given
  tidy.isPlain (Config.hosted_of_validate valid)

end ConnectionString

end SqlWire
