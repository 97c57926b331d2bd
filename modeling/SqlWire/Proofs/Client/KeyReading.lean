import SqlWire.Proofs.Client.Parsed
import SqlWire.Proofs.Text.Numerals

/-! # Pool keys as connection strings

A pool key is itself a connection string. It says each setting that it is made of under the first of
its names, so that reading it gives these settings back and leaves the others as they are by default:
`parse_poolKey` proves that for whatever settings a connection string has given. What it needs of
them is that no text has a separator inside or a blank at its ends and that each number of seconds has
room in 32 bits (`Config.IsSayable`); each setting that a connection string can say keeps that.
-/

namespace SqlWire

namespace Config

/-- Settings that a connection string can say as they are. -/
structure IsSayable (c : Config) : Prop where
  hosts_named : ∀ host ∈ c.hosts, host ≠ "" ∧ IsTrim host.toList
  username_trim : IsTrim c.credentials.username.toList
  password_trim : IsTrim c.credentials.password.toList
  database_trim : IsTrim (c.database.getD "").toList
  database_whole : ';' ∉ (c.database.getD "").toList
  lifetime_small : c.connectionLifetime.seconds < 2 ^ 32
  idleTimeout_small : c.connectionIdleTimeout.seconds < 2 ^ 32
  connectTimeout_small : c.connectTimeout.seconds < 2 ^ 32

theorem isSayable_default : default.IsSayable := by
  constructor <;> decide

end Config

namespace Setting

theorem hostList_named (text : String) :
    ∀ host ∈ hostList text, host ≠ "" ∧ IsTrim host.toList := by
  intro host member
  obtain ⟨name, listed, rfl⟩ := List.mem_map.mp member
  obtain ⟨cut, some⟩ := List.mem_filter.mp listed
  obtain ⟨piece, -, rfl⟩ := List.mem_map.mp cut
  constructor
  · intro empty
    rw [← String.toList_inj, String.toList_ofList] at empty
    simp [empty] at some
  · rw [String.toList_ofList]
    exact isTrim_trim piece

theorem count_lt {key text : String} {n : Nat} (given : count key text = .ok n) : n < 2 ^ 32 := by
  unfold count at given
  split at given
  · next m read =>
    cases given
    have held := (Option.filter_eq_some_iff.mp read).2
    simp [IntegerType.holds, IntegerType.low, IntegerType.bound, IntegerType.isSigned,
      IntegerType.width] at held
    omega
  · cases given

theorem seconds_lt {key text : String} {time : Duration} (given : seconds key text = .ok time) :
    time.seconds < 2 ^ 32 := by
  cases said : count key text with
  | error cause =>
    rw [seconds, said] at given
    cases given
  | ok n =>
    rw [seconds, said] at given
    cases given
    rw [Duration.seconds, Duration.ofSeconds, Nat.mul_div_cancel n (by decide)]
    exact count_lt said

/-- Settings stay sayable when one of them becomes what a trim text without semicolons says. -/
theorem isSayable_apply {setting : Setting} {key text : String} {c d : Config}
    (whole : ';' ∉ text.toList) (bare : IsTrim text.toList) (sayable : c.IsSayable)
    (given : setting.apply key text c = .ok d) : d.IsSayable := by
  cases setting with
  | hosts =>
    cases given
    exact { sayable with hosts_named := hostList_named text }
  | port =>
    simp only [Setting.apply] at given
    split at given <;> cases given
    exact { sayable with }
  | username =>
    cases given
    exact { sayable with username_trim := bare }
  | password =>
    cases given
    exact { sayable with password_trim := bare }
  | database =>
    cases given
    have name : ((if text.isEmpty then none else some text).getD "" : String) = text := by
      by_cases empty : text = "" <;> simp [empty]
    exact { sayable with
      database_trim := by rwa [name]
      database_whole := by rwa [name] }
  | connectionLifetime =>
    obtain ⟨time, said, same⟩ := Outcome.bind_eq_ok given
    cases same
    exact { sayable with lifetime_small := seconds_lt said }
  | connectionIdleTimeout =>
    obtain ⟨time, said, same⟩ := Outcome.bind_eq_ok given
    cases same
    exact { sayable with idleTimeout_small := seconds_lt said }
  | connectTimeout =>
    obtain ⟨time, said, same⟩ := Outcome.bind_eq_ok given
    cases same
    exact { sayable with connectTimeout_small := seconds_lt said }
  | loadBalance =>
    simp only [Setting.apply] at given
    split at given <;> cases given
    exact { sayable with }
  | _ =>
    obtain ⟨value, -, same⟩ := Outcome.bind_eq_ok given
    cases same
    exact { sayable with }

section Reading

theorem flag_flagText (key : String) (b : Bool) : flag key (Config.flagText b) = .ok b := by
  cases b <;> rfl

theorem ofText?_name (order : LoadBalance) : LoadBalance.ofText? order.name = some order := by
  cases order <;> rfl

theorem count_repr (key : String) {n : Nat} (room : n < 2 ^ 32) :
    count key (Nat.repr n) = .ok n := by
  rw [count, IntegerType.ofText?_repr rfl room]
  rfl

theorem seconds_repr (key : String) {time : Duration} (whole : time = .ofSeconds time.seconds)
    (room : time.seconds < 2 ^ 32) : seconds key (Nat.repr time.seconds) = .ok time := by
  rw [seconds, count_repr key room, Except.map, ← whole]

/-- Hosts with names are read from their list as they are. -/
theorem hostList_intercalate {hosts : List String} (some : hosts ≠ [])
    (apart : ∀ host ∈ hosts, ',' ∉ host.toList)
    (named : ∀ host ∈ hosts, host ≠ "" ∧ IsTrim host.toList) :
    hostList (",".intercalate hosts) = hosts := by
  have pieces : splitAll ',' (",".intercalate hosts).toList = hosts.map String.toList := by
    rw [splitAll_eq_splitOn, String.toList_intercalate]
    exact List.splitOn_intercalate ',' (by simpa using apart) (by simpa using some)
  have bare : (hosts.map String.toList).map trim = hosts.map String.toList := by
    rw [List.map_map]
    exact List.map_congr_left fun host member => (named host member).2.trim_eq
  have visible : (hosts.map String.toList).filter (fun host => !host.isEmpty) =
      hosts.map String.toList := by
    rw [List.filter_eq_self]
    intro text member
    obtain ⟨host, listed, rfl⟩ := List.mem_map.mp member
    simpa using (named host listed).1
  rw [hostList, pieces, bare, visible, List.map_map]
  simp [Function.comp_def]

end Reading

section Naming

/-- The first name of a setting. -/
def name (setting : Setting) : String := ((keys.lookup setting).getD []).headD ""

/-- The first name of a setting stands for it. -/
theorem ofKey?_name (setting : Setting) : ofKey? setting.name = some setting := by
  cases setting <;> rfl

theorem lower_name (setting : Setting) :
    Lower.text setting.name.toList = setting.name.toList := by
  cases setting <;> decide +kernel

theorem name_bare (setting : Setting) :
    IsTrim setting.name.toList ∧ '=' ∉ setting.name.toList ∧ ';' ∉ setting.name.toList := by
  cases setting <;> decide +kernel

end Naming

end Setting

namespace ConnectionString

/-- A segment that says a setting. -/
def segment (setting : Setting) (value : String) : String := setting.name ++ "=" ++ value

theorem segment_toList (setting : Setting) (value : String) :
    (segment setting value).toList = setting.name.toList ++ '=' :: value.toList := by
  rw [segment, String.toList_append, String.toList_append, List.append_assoc]
  rfl

/-- A segment is applied as what it says. -/
theorem applySegment_segment (setting : Setting) {value : String} (bare : IsTrim value.toList)
    (c : Config) :
    applySegment c (segment setting value).toList = setting.apply setting.name value c := by
  obtain ⟨key, absent, -⟩ := setting.name_bare
  have equals : IsTrim ['='] := by decide
  have whole : IsTrim (setting.name.toList ++ '=' :: value.toList) := key.append (equals.append bare)
  have some : (setting.name.toList ++ '=' :: value.toList).isEmpty = false := by simp
  rw [segment_toList]
  simp only [applySegment, whole.trim_eq, some, Bool.false_eq_true, if_false,
    splitFirst?_append absent, key.trim_eq, setting.lower_name, String.ofList_toList,
    setting.ofKey?_name, bare.trim_eq]

/-- Segments are applied one after the other as what they say. -/
theorem foldlM_segment {said : List (Setting × String)}
    (bare : ∀ entry ∈ said, IsTrim entry.2.toList) (c : Config) :
    (said.map fun (setting, value) => (segment setting value).toList).foldlM applySegment c =
      said.foldlM (fun c (setting, value) => setting.apply setting.name value c) c := by
  induction said generalizing c with
  | nil => rfl
  | cons entry rest ih =>
    obtain ⟨here, others⟩ := List.forall_mem_cons.mp bare
    simp only [List.map_cons, List.foldlM_cons, applySegment_segment entry.1 here, ih others]

end ConnectionString

namespace Config

/-- What a pool key says, in its order. -/
def said (c : Config) : List (Setting × String) :=
  [(.hosts, ",".intercalate c.hosts), (.port, Nat.repr c.port.toNat),
    (.username, c.credentials.username), (.password, c.credentials.password),
    (.database, c.database.getD ""), (.connectionReset, flagText c.connectionReset),
    (.minPoolSize, Nat.repr c.minPoolSize.toNat), (.maxPoolSize, Nat.repr c.maxPoolSize.toNat),
    (.connectionLifetime, Nat.repr c.connectionLifetime.seconds),
    (.connectionIdleTimeout, Nat.repr c.connectionIdleTimeout.seconds),
    (.connectTimeout, Nat.repr c.connectTimeout.seconds),
    (.allowUserVariables, flagText c.allowUserVariables), (.oldGuids, flagText c.oldGuids),
    (.loadBalance, c.loadBalance.name)]

theorem poolKey_eq (c : Config) :
    c.poolKey = ";".intercalate (c.said.map fun (setting, value) =>
      ConnectionString.segment setting value) := rfl

theorem isTrim_repr (n : Nat) : IsTrim (Nat.repr n).toList := by
  have digit : ∀ c ∈ (Nat.repr n).toList, isBlank c = false := by
    intro c member
    rw [Nat.toList_repr] at member
    exact isBlank_of_isDigit (Digits.isDigit_ofNat member)
  exact ⟨fun c first => digit c (List.mem_of_mem_head? first),
    fun c last => digit c (List.mem_of_mem_getLast? last)⟩

theorem isTrim_flagText (b : Bool) : IsTrim (flagText b).toList := by
  cases b <;> decide

theorem isTrim_loadBalanceName (order : LoadBalance) : IsTrim order.name.toList := by
  cases order <;> decide

/-- What a pool key says of sayable settings has no blanks at its ends. -/
theorem IsSayable.isTrim_said {c : Config} (sayable : c.IsSayable) :
    ∀ entry ∈ c.said, IsTrim entry.2.toList := by
  have hosts : IsTrim (",".intercalate c.hosts).toList := by
    rw [String.toList_intercalate]
    apply IsTrim.intercalate (by decide)
    intro text member
    obtain ⟨host, listed, rfl⟩ := List.mem_map.mp member
    exact (sayable.hosts_named host listed).2
  simp only [said, List.forall_mem_cons]
  exact ⟨hosts, isTrim_repr _, sayable.username_trim, sayable.password_trim, sayable.database_trim,
    isTrim_flagText _, isTrim_repr _, isTrim_repr _, isTrim_repr _, isTrim_repr _, isTrim_repr _,
    isTrim_flagText _, isTrim_flagText _, isTrim_loadBalanceName _, List.forall_mem_nil _⟩

/-- No segment of the key of tidy and sayable settings has a semicolon. -/
theorem IsSayable.whole_said {c : Config} (sayable : c.IsSayable) (tidy : c.IsTidy) :
    ∀ entry ∈ c.said, ';' ∉ (ConnectionString.segment entry.1 entry.2).toList := by
  have segment {entry : Setting × String} (whole : ';' ∉ entry.2.toList) :
      ';' ∉ (ConnectionString.segment entry.1 entry.2).toList := by
    rw [ConnectionString.segment_toList]
    refine List.not_mem_append entry.1.name_bare.2.2 ?_
    simpa using whole
  have hosts : ';' ∉ (",".intercalate c.hosts).toList := by
    rw [String.toList_intercalate]
    intro inside
    obtain comma | ⟨text, member, inside⟩ := mem_intercalate inside
    · cases comma
    · obtain ⟨host, listed, rfl⟩ := List.mem_map.mp member
      exact (tidy.hosts_apart host listed).2 inside
  have flag (b : Bool) : ';' ∉ (flagText b).toList := by cases b <;> decide
  have order : ';' ∉ c.loadBalance.name.toList := by cases c.loadBalance <;> decide
  have number (n : Nat) : ';' ∉ (Nat.repr n).toList := not_mem_repr rfl
  intro entry member
  apply segment
  revert entry
  simp only [said, List.forall_mem_cons]
  exact ⟨hosts, number _, tidy.username_whole, tidy.password_whole, sayable.database_whole, flag _,
    number _, number _, number _, number _, number _, flag _, flag _, order, List.forall_mem_nil _⟩

/-- To apply what a pool key says gives what it is made of. -/
theorem IsSayable.foldlM_said {c : Config} (sayable : c.IsSayable) (plain : c.IsPlain) :
    c.said.foldlM (fun d (setting, value) => Setting.apply setting setting.name value d) default =
      .ok c.keyed := by
  have port : IntegerType.uint16.ofText? (Nat.repr c.port.toNat) = some (c.port.toNat : Int) :=
    IntegerType.ofText?_repr rfl c.port.toNat_lt
  have database : (if (c.database.getD "").isEmpty then none else some (c.database.getD "")) =
      c.database := by
    have named := plain.database_named
    cases name : c.database <;> simp_all
  simp only [said, List.foldlM_cons, List.foldlM_nil, Setting.apply, bind, Except.bind, pure,
    Except.pure, port,
    Setting.hostList_intercalate plain.hosted plain.hosts_apart sayable.hosts_named,
    Setting.flag_flagText, Setting.ofText?_name, Setting.count_repr _ c.minPoolSize.toNat_lt,
    Setting.count_repr _ c.maxPoolSize.toNat_lt,
    Setting.seconds_repr _ plain.lifetime_whole sayable.lifetime_small,
    Setting.seconds_repr _ plain.idleTimeout_whole sayable.idleTimeout_small,
    Setting.seconds_repr _ plain.connectTimeout_whole sayable.connectTimeout_small, database,
    UInt32.ofNat_toNat, Int.toNat_natCast, UInt16.ofNat_toNat]
  rfl

end Config

namespace ConnectionString

/-- The settings of a connection string are sayable. -/
theorem isSayable_of_parse {text : String} {c : Config} (given : parse text = .ok c) :
    c.IsSayable :=
  (parse_keeps Config.isSayable_default
    (fun _ _ _ _ _ whole bare sayable said => Setting.isSayable_apply whole bare sayable said)
    given).1

/-- The pool key of what a connection string says is itself a connection string. It says the same in
all that a pool key is made of, and has itself as its pool key. -/
theorem parse_poolKey {text : String} {c : Config} (given : parse text = .ok c) :
    parse c.poolKey = .ok c.keyed ∧ c.keyed.poolKey = c.poolKey := by
  have sayable := isSayable_of_parse given
  obtain ⟨tidy, valid⟩ := isTidy_of_parse given
  have plain := tidy.isPlain (Config.hosted_of_validate valid)
  have pieces : splitAll ';' c.poolKey.toList =
      c.said.map fun (setting, value) => (segment setting value).toList := by
    rw [splitAll_eq_splitOn, Config.poolKey_eq, String.toList_intercalate, List.map_map]
    refine List.splitOn_intercalate ';' ?_ (List.cons_ne_nil _ _)
    intro piece member
    obtain ⟨entry, listed, rfl⟩ := List.mem_map.mp member
    exact sayable.whole_said tidy entry listed
  have read : (splitAll ';' c.poolKey.toList).foldlM applySegment .default = .ok c.keyed := by
    rw [pieces, foldlM_segment sayable.isTrim_said]
    exact sayable.foldlM_said plain
  have accepted : c.keyed.validate = .ok () := valid
  refine ⟨?_, rfl⟩
  rw [parse, read]
  simp only [bind, Except.bind, accepted]
  rfl

/-- A connection string in a spelling of its own. -/
def minuteText : String :=
  "Host= db1 ,db2;UID=app;Pwd= p=w,1;Pooling=no;Command Timeout=5;Connection Lifetime=+60;"

/-- Settings of a client that closes its sessions after a minute. -/
def minuteClient : Config :=
  { Config.default with
    hosts := ["db1", "db2"], credentials := ⟨"app", "p=w,1"⟩, pooling := false
    connectionLifetime := .ofSeconds 60, commandTimeout := .ofSeconds 5 }

theorem parse_poolKey_minute :
    parse minuteText = .ok minuteClient ∧
      parse minuteClient.poolKey =
        .ok { minuteClient with pooling := true, commandTimeout := .ofSeconds 30 } ∧
      minuteClient.keyed.poolKey = minuteClient.poolKey := by
  have given : parse minuteText = .ok minuteClient := by decide +kernel
  exact ⟨given, parse_poolKey given⟩

end ConnectionString

end SqlWire
