import SqlWire.Pool.Run

/-! # Registries of pools

A registry has one pool for each set of settings that pooled sessions depend on. A pool is made when
it is first asked for, and stays.
-/

namespace SqlWire

/-- The pools by the keys of their settings, in the order of their making. -/
structure Registry where
  pools : List (String × Pool)
deriving Repr, DecidableEq

namespace Registry

def empty : Registry := ⟨[]⟩

def size (r : Registry) : Nat := r.pools.length

def find? (r : Registry) (key : String) : Option Pool := r.pools.lookup key

/-- A registry with another pool for a key that it has. -/
def replace (r : Registry) (key : String) (pool : Pool) : Registry :=
  ⟨r.pools.map fun (k, p) => if k == key then (k, pool) else (k, p)⟩

/-- The key and the pool of settings that ask for one, which is made if it is not there. -/
def pool (r : Registry) (config : Config) : Except PoolError (Option (String × Pool)) × Registry :=
  if !config.pooling then (.ok none, r)
  else
    let key := config.poolKey
    match r.find? key with
    | some pool => (.ok (some (key, pool)), r)
    | none =>
      match Pool.ofClient config with
      | .error cause => (.error (.configuration cause), r)
      | .ok pool => (.ok (some (key, pool)), ⟨r.pools ++ [(key, pool)]⟩)

variable {ω : Type} [Network ω]

/-- Acts on the pool of a key, if there is one. -/
def withPool (r : Registry) (key : String) (action : Pool → ω → Pool × ω) (w : ω) :
    Registry × ω :=
  match r.find? key with
  | some pool =>
    let (pool, w) := action pool w
    (r.replace key pool, w)
  | none => (r, w)

def withAll (action : Pool → ω → Pool × ω) : List (String × Pool) → ω → Registry × ω
  | [], w => (empty, w)
  | (key, pool) :: rest, w =>
    let (pool, w) := action pool w
    let (r, w) := withAll action rest w
    (⟨(key, pool) :: r.pools⟩, w)

def clearPool (r : Registry) (config : Config) (w : ω) : Registry × ω :=
  r.withPool config.poolKey Pool.clear w

def clearAll (r : Registry) (w : ω) : Registry × ω := withAll Pool.clear r.pools w

/-- Closes what has lain idle too long in every pool. -/
def reapAll (r : Registry) (w : ω) : Registry × ω := withAll Pool.reap r.pools w

/-- Reaps now and then after each interval, some number of times. -/
def reapEvery (interval : Duration) : Nat → Registry → ω → Registry × ω
  | 0, r, w => r.reapAll w
  | times + 1, r, w =>
    let (r, w) := r.reapAll w
    reapEvery interval times r (Network.wait interval w)

end Registry

end SqlWire
