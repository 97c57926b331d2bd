import SqlWire.Pool.Registry
import SqlWire.Proofs.Client.Parsed
import SqlWire.Session.Unreachable

/-! # Which settings share a pool

A registry gives one pool to all settings with one key. Each pool keeps the settings that it was
made for, whatever is done with it, so what a registry hands out was made for settings with the key
that was asked for (`Registry.Sorted.pool`). With plain settings that means settings that agree in
all that the key is made of (`Registry.isolated`).
-/

namespace SqlWire

namespace Pool

variable {ω : Type} [Network ω]

@[simp] theorem clientConfig_recover (p : Pool) : p.recover.2.clientConfig = p.clientConfig := rfl

theorem clientConfig_approached (p : Pool) (now : Duration) :
    (p.approached now).clientConfig = p.clientConfig := by
  rw [approached]
  split <;> rfl

theorem clientConfig_sweep (p : Pool) (mayClose : Nat → Bool)
    (isUnwanted : Duration → Session → Bool) (w : ω) :
    (p.sweep mayClose isUnwanted w).1.clientConfig = p.clientConfig := by
  rw [sweep]
  split
  · rfl
  · split <;> rfl

theorem clientConfig_clear (p : Pool) (w : ω) : (p.clear w).1.clientConfig = p.clientConfig :=
  clientConfig_sweep ..

theorem clientConfig_reap (p : Pool) (w : ω) : (p.reap w).1.clientConfig = p.clientConfig := by
  simp only [reap]
  split
  · rfl
  · exact clientConfig_sweep ..

theorem clientConfig_reuse (p : Pool) (w : ω) : (p.reuse w).2.1.clientConfig = p.clientConfig := by
  simp only [reuse]
  split
  · rfl
  · split
    · rfl
    · split <;> rfl

theorem clientConfig_lease (p : Pool) (w : ω) : (p.lease w).2.1.clientConfig = p.clientConfig := by
  have kept := clientConfig_reuse p w
  simp only [lease]
  split
  · next found => rwa [found] at kept
  · next found =>
    rw [found] at kept
    split <;> exact kept

theorem clientConfig_get (p : Pool) (cancellation : Cancellation) (w : ω) :
    (p.get cancellation w).2.1.clientConfig = p.clientConfig := by
  rw [← clientConfig_approached p (Network.now w)]
  simp only [get]
  split
  · rfl
  · split
    · split <;> rfl
    · exact clientConfig_lease ..

theorem clientConfig_keep (p : Pool) (s : Session) (w : ω) :
    (p.keep s w).1.clientConfig = p.clientConfig := by
  simp only [keep]
  split <;> rfl

theorem clientConfig_release (p : Pool) (s : Session) (w : ω) :
    (p.release s w).1.clientConfig = p.clientConfig := by
  simp only [release]
  split
  · exact clientConfig_keep (p.strike s.id) _ _
  · rfl

theorem clientConfig_ofClient {config : Config} {pool : Pool} (made : ofClient config = .ok pool) :
    pool.clientConfig = config := by
  obtain ⟨⟨⟩, -, same⟩ := Outcome.bind_eq_ok made
  cases same
  rfl

end Pool

/-- What is done with a registry and its pools. -/
inductive Visit where
  /-- Asks for the pool of settings. -/
  | ask (config : Config)
  | clear (config : Config)
  | clearAll
  | reapAll
  /-- Leases a session from the pool of a key. -/
  | lease (key : String) (cancellation : Cancellation)
  /-- Gives a session back to the pool of a key. -/
  | release (key : String) (session : Session)

namespace Registry

variable {ω : Type} [Network ω]

def visit (r : Registry) (w : ω) : Visit → Registry × ω
  | .ask config => ((r.pool config).2, w)
  | .clear config => r.clearPool config w
  | .clearAll => r.clearAll w
  | .reapAll => r.reapAll w
  | .lease key cancellation => r.withPool key (fun pool w => (pool.get cancellation w).2) w
  | .release key session => r.withPool key (fun pool w => pool.release session w) w

def visitAll : List Visit → Registry → ω → Registry × ω
  | [], r, w => (r, w)
  | v :: rest, r, w =>
    let (r, w) := r.visit w v
    visitAll rest r w

/-- A registry whose pools stand under the keys of their own settings, all of which were asked
for. -/
def Sorted (IsAsked : Config → Prop) (r : Registry) : Prop :=
  ∀ entry ∈ r.pools, IsAsked entry.2.clientConfig ∧ entry.2.clientConfig.poolKey = entry.1

variable {IsAsked : Config → Prop}

theorem sorted_empty : Sorted IsAsked empty := by
  intro entry member
  cases member

theorem Sorted.find? {r : Registry} (sorted : Sorted IsAsked r) {key : String} {pool : Pool}
    (found : r.find? key = some pool) :
    IsAsked pool.clientConfig ∧ pool.clientConfig.poolKey = key := by
  obtain ⟨before, after, pools, -⟩ := List.lookup_eq_some_iff.mp found
  exact sorted (key, pool) (by simp [pools])

/-- What a registry hands out was made for settings with the key that was asked for. -/
theorem Sorted.pool {r : Registry} (sorted : Sorted IsAsked r) {config : Config}
    (asked : IsAsked config) :
    Sorted IsAsked (r.pool config).2 ∧
      ∀ key pool, (r.pool config).1 = .ok (some (key, pool)) →
        IsAsked pool.clientConfig ∧ pool.clientConfig.poolKey = config.poolKey := by
  rw [Registry.pool]
  split
  · exact ⟨sorted, by simp⟩
  · simp only
    split
    · next found =>
      refine ⟨sorted, fun key pool given => ?_⟩
      simp only [Except.ok.injEq, Option.some.injEq, Prod.mk.injEq] at given
      obtain ⟨-, rfl⟩ := given
      exact sorted.find? found
    · split
      · exact ⟨sorted, by simp⟩
      · next new made =>
        have own := Pool.clientConfig_ofClient made
        constructor
        · intro entry member
          rcases List.mem_append.mp member with old | fresh
          · exact sorted entry old
          · obtain rfl := List.mem_singleton.mp fresh
            exact ⟨own ▸ asked, congrArg Config.poolKey own⟩
        · intro key pool given
          simp only [Except.ok.injEq, Option.some.injEq, Prod.mk.injEq] at given
          obtain ⟨-, rfl⟩ := given
          exact ⟨own ▸ asked, congrArg Config.poolKey own⟩

omit [Network ω] in
/-- A registry stays sorted when one pool is used in a way that keeps its settings. -/
theorem Sorted.withPool {r : Registry} (sorted : Sorted IsAsked r) {key : String}
    {action : Pool → ω → Pool × ω}
    (keeps : ∀ pool w, (action pool w).1.clientConfig = pool.clientConfig) (w : ω) :
    Sorted IsAsked (r.withPool key action w).1 := by
  simp only [Registry.withPool]
  split
  · next pool found =>
    intro entry member
    obtain ⟨⟨name, other⟩, old, rfl⟩ := List.mem_map.mp member
    by_cases same : name == key
    · simp only [same, if_true, keeps]
      rw [eq_of_beq same]
      exact sorted.find? found
    · simp only [same]
      exact sorted _ old
  · exact sorted

omit [Network ω] in
/-- A registry stays sorted when all pools are used in a way that keeps their settings. -/
theorem sorted_withAll {action : Pool → ω → Pool × ω}
    (keeps : ∀ pool w, (action pool w).1.clientConfig = pool.clientConfig)
    {pools : List (String × Pool)} (sorted : Sorted IsAsked ⟨pools⟩) (w : ω) :
    Sorted IsAsked (withAll action pools w).1 := by
  induction pools generalizing w with
  | nil => exact sorted
  | cons entry rest ih =>
    have later := ih (fun other member => sorted other (List.mem_cons_of_mem _ member))
      (action entry.2 w).2
    intro other member
    rcases List.mem_cons.mp member with rfl | member
    · simp only [keeps]
      exact sorted entry List.mem_cons_self
    · exact later other member

theorem Sorted.visit {r : Registry} (sorted : Sorted IsAsked r) {v : Visit}
    (asked : ∀ config, v = .ask config → IsAsked config) (w : ω) :
    Sorted IsAsked (r.visit w v).1 := by
  cases v with
  | ask config => exact (sorted.pool (asked config rfl)).1
  | clear config => exact sorted.withPool Pool.clientConfig_clear w
  | clearAll => exact sorted_withAll Pool.clientConfig_clear sorted w
  | reapAll => exact sorted_withAll Pool.clientConfig_reap sorted w
  | lease key cancellation =>
    exact sorted.withPool (fun pool w => Pool.clientConfig_get pool cancellation w) w
  | release key session =>
    exact sorted.withPool (fun pool w => Pool.clientConfig_release pool session w) w

theorem Sorted.visitAll {visits : List Visit} {r : Registry} (sorted : Sorted IsAsked r)
    (asked : ∀ config, .ask config ∈ visits → IsAsked config) (w : ω) :
    Sorted IsAsked (visitAll visits r w).1 := by
  induction visits generalizing r w with
  | nil => exact sorted
  | cons v rest ih =>
    apply ih
    · apply sorted.visit
      rintro config rfl
      exact asked config List.mem_cons_self
    · intro config later
      exact asked config (List.mem_cons_of_mem _ later)

/-- Settings for a user and a password. -/
def settingsFor (username password : String) : Config :=
  { Config.default with credentials := ⟨username, password⟩ }

/-- Settings share a pool with those that agree with them in all that a key is made of, and with no
others, exactly if they are plain, as those from connection strings are. A registry that was asked for
pools with plain settings only hands out to plain settings a pool made for such as agree with them. -/
theorem isolated (c : Config) :
    (∀ d : Config, c.IsPlain → d.IsPlain → (c.poolKey = d.poolKey ↔ c.keyed = d.keyed)) ∧
    (∀ text : String, ConnectionString.parse text = .ok c → c.IsPlain) ∧
    (¬ c.IsPlain → ∃ d : Config, d.pooling = c.pooling ∧
      (c.validate = .ok () → d.validate = .ok ()) ∧ d.poolKey = c.poolKey ∧ d.keyed ≠ c.keyed) ∧
    ∀ (ω : Type) [Network ω] (visits : List Visit) (w : ω) (key : String) (pool : Pool),
      (∀ asked, .ask asked ∈ visits → asked.IsPlain) → c.IsPlain →
      ((visitAll visits empty w).1.pool c).1 = .ok (some (key, pool)) →
      pool.clientConfig.keyed = c.keyed := by
  refine ⟨fun d plain plain' => plain.poolKey_eq_iff plain',
    fun text given => ConnectionString.isPlain_of_parse given, ?_, ?_⟩
  · intro entangled
    obtain ⟨d, plain, key, pooling, valid⟩ := Config.exists_isPlain c
    refine ⟨d, pooling, valid, key, fun same => entangled ?_⟩
    rwa [← Config.isPlain_keyed, ← same, Config.isPlain_keyed]
  · intro ω _ visits w key pool asked plain given
    have sorted : Sorted Config.IsPlain (visitAll visits empty w).1 :=
      sorted_empty.visitAll asked w
    obtain ⟨plain', same⟩ := (sorted.pool plain).2 key pool given
    exact plain'.keyed_eq plain same

theorem isolated_users :
    (settingsFor "app" "x").IsPlain ∧ (settingsFor "app" "y").IsPlain ∧
      (settingsFor "app" "x").poolKey ≠ (settingsFor "app" "y").poolKey ∧
      ¬ (settingsFor "a;password=b" "c").IsPlain ∧
      (∃ d : Config, d.poolKey = (settingsFor "a;password=b" "c").poolKey ∧
        d.keyed ≠ (settingsFor "a;password=b" "c").keyed) ∧
      ∃ key pool, ((visitAll [.ask (settingsFor "app" "x"), .clearAll] empty
          Unreachable.start).1.pool (settingsFor "app" "x")).1 = .ok (some (key, pool)) ∧
        pool.clientConfig.keyed = (settingsFor "app" "x").keyed := by
  obtain ⟨separate, parsed, -, handed⟩ := isolated (settingsFor "app" "x")
  obtain ⟨-, parsed', -⟩ := isolated (settingsFor "app" "y")
  obtain ⟨-, -, entangled, -⟩ := isolated (settingsFor "a;password=b" "c")
  have plain : (settingsFor "app" "x").IsPlain := parsed "User ID=app;Password=x" (by decide +kernel)
  have plain' : (settingsFor "app" "y").IsPlain :=
    parsed' "User ID=app;Password=y" (by decide +kernel)
  have marked : ¬ (settingsFor "a;password=b" "c").IsPlain := fun plain =>
    plain.username_ends _ rfl ⟨['a'], ['b'], by decide⟩
  refine ⟨plain, plain', ?_, marked, ?_, ?_⟩
  · rw [Ne, separate _ plain plain']
    decide
  · obtain ⟨d, -, -, key, other⟩ := entangled marked
    exact ⟨d, key, other⟩
  · have some : ((visitAll [.ask (settingsFor "app" "x"), .clearAll] empty
        Unreachable.start).1.pool (settingsFor "app" "x")).1.map Option.isSome = .ok true := by
      decide +kernel
    rcases given : ((visitAll [.ask (settingsFor "app" "x"), .clearAll] empty
        Unreachable.start).1.pool (settingsFor "app" "x")).1 with _ | _ | ⟨key, pool⟩
    · rw [given] at some
      cases some
    · rw [given] at some
      cases some
    · refine ⟨key, pool, rfl, handed Unreachable _ .start key pool ?_ plain given⟩
      intro asked member
      obtain rfl : asked = settingsFor "app" "x" := by simpa using member
      exact plain

/-- A user gets a pool made for another one if a password or a user name looks like the next segment
of the key; connection strings get one pool if they only differ in how long a command may take. -/
theorem pool_shared :
    (settingsFor "a" "b;password=c").poolKey = (settingsFor "a;password=b" "c").poolKey ∧
    ((empty.pool (settingsFor "a" "b;password=c")).2.pool (settingsFor "a;password=b" "c")).1.map
      (Option.map fun entry => entry.2.clientConfig.credentials) = .ok (some ⟨"a", "b;password=c"⟩) ∧
    (ConnectionString.parse "Command Timeout=1").map Config.poolKey =
      (ConnectionString.parse "Command Timeout=2").map Config.poolKey ∧
    (ConnectionString.parse "Command Timeout=1").map Config.commandTimeout = .ok (.ofSeconds 1) ∧
    (ConnectionString.parse "Command Timeout=2").map Config.commandTimeout = .ok (.ofSeconds 2) := by
  decide +kernel

end Registry

end SqlWire
