import Mathlib.Logic.Function.Basic
import SqlWire.Proofs.Pool.Operations
import SqlWire.Standin.World

/-! # Traffic of pools

A `Traffic` has some pools with all of their sessions, the handles that have ever been taken, and
the network. An `Event` is an operation on one of the pools, the return of a session through one
pool to another, the taking or the use of a handle, or whatever else happens on the network.

Whatever happens, every pool stays sound, and no session is in two pools (`Sound.step`). So it is
after every run (`Sound.run`), and pools that have just been made are a start (`sound_start`).
-/

namespace SqlWire

open NumberedNetwork Lending

/-- Pools, their sessions, and what they have in common. -/
structure Traffic (ι ω : Type) where
  lendings : ι → Lending
  /-- The handles that have ever been taken. -/
  handles : List CancelHandle
  world : ω

/-- What happens to pools, to their sessions and on the network. -/
inductive Event (ι ω : Type) where
  | operate (i : ι) (o : Operation)
  /-- Gives a session back through some pool, whichever it is leased from. -/
  | giveBackThrough (via own : ι) (number : Nat)
  /-- Takes a handle of a session that a caller has. -/
  | takeHandle (i : ι) (number : Nat)
  /-- Cancels with a handle that has been taken. -/
  | cancel (i : ι) (h : CancelHandle)
  /-- Lets the network come to another state. -/
  | elapse (w : ω)

namespace Event

variable {ι ω : Type}

/-- Whether an event is complete, and not one moment of two. -/
def isWhole : Event ι ω → Bool
  | operate _ o => o.isWhole
  | _ => true

def clears [DecidableEq ι] (i : ι) : Event ι ω → Bool
  | operate j o => j = i && o.isClear
  | _ => false

end Event

namespace Traffic

variable {ι ω : Type}

section

variable [DecidableEq ι]

def act (t : Traffic ι ω) (i : ι) (action : Lending → ω → Lending × ω) : Traffic ι ω :=
  let (l, w) := action (t.lendings i) t.world
  { t with lendings := Function.update t.lendings i l, world := w }

@[simp] theorem lendings_act_self (t : Traffic ι ω) (i : ι) (action : Lending → ω → Lending × ω) :
    (t.act i action).lendings i = (action (t.lendings i) t.world).1 := Function.update_self ..

@[simp] theorem lendings_act_of_ne (t : Traffic ι ω) {i j : ι} (other : j ≠ i)
    (action : Lending → ω → Lending × ω) : (t.act i action).lendings j = t.lendings j :=
  Function.update_of_ne other ..

/-- An action that does nothing changes nothing. -/
theorem act_eq_self {t : Traffic ι ω} {i : ι} {action : Lending → ω → Lending × ω}
    (idle : action (t.lendings i) t.world = (t.lendings i, t.world)) : t.act i action = t := by
  rw [act, idle]
  dsimp only
  rw [Function.update_eq_self]

end

variable [Network ω] [NumberedNetwork ω]

/-- Pools whose sessions nobody has. -/
def start (pools : ι → Pool) (w : ω) : Traffic ι ω := ⟨fun i => .ofPool (pools i), [], w⟩

/-- A pool with the numbers that have been given. -/
def view (t : Traffic ι ω) (i : ι) : Lending × Nat := (t.lendings i, issued t.world)

/-- What is kept whatever happens. -/
structure Sound (t : Traffic ι ω) : Prop where
  each : ∀ i, Lending.Sound (t.lendings i).pool.config.maxSize.toNat t.handles (t.view i)
  apart : ∀ i j, i ≠ j → ∀ s ∈ (t.lendings i).sessions, ∀ u ∈ (t.lendings j).sessions, s.id ≠ u.id

/-- A pool that has just been made has all of its permits and nothing else. -/
theorem pool_eq {clientConfig : Config} {config : PoolConfig} {pool : Pool}
    (made : Pool.ofConfig clientConfig config = .ok pool) :
    pool = ⟨clientConfig, config, 0, config.maxSize.toNat, [], [], none⟩ := by
  unfold Pool.ofConfig at made
  cases valid : config.validate with
  | error cause =>
    rw [valid] at made
    cases made
  | ok =>
    rw [valid] at made
    cases made
    rfl

/-- Pools that have just been made are sound. -/
theorem sound_start {clients : ι → Config} {configs : ι → PoolConfig} {pools : ι → Pool}
    (made : ∀ i, Pool.ofConfig (clients i) (configs i) = .ok (pools i)) (w : ω) :
    (start pools w).Sound := by
  constructor
  · intro i
    simp only [start, view, pool_eq (made i)]
    refine ⟨⟨rfl, Nat.zero_le _, .rfl, fun n => ?_⟩, ?_⟩
    · exact ⟨Nat.zero_le _, Nat.zero_le _, fun _ => ⟨rfl, rfl⟩⟩
    · constructor <;> exact fun _ member => absurd member List.not_mem_nil
  · intro i j _ s member
    simp only [start, pool_eq (made i)] at member
    exact absurd member List.not_mem_nil

theorem lt_of_mem {t : Traffic ι ω} (sound : t.Sound) {i : ι} {s : Session}
    (member : s ∈ (t.lendings i).sessions) : s.id < issued t.world :=
  (sound.each i).balanced.id_lt s member

def handedOut (t : Traffic ι ω) : Event ι ω → Option Session
  | .operate i o => (t.lendings i).handedOut o t.world
  | _ => none

/-- What becomes of a pool while it is cleared some number of times. -/
def Leads (t u : Traffic ι ω) (i : ι) (clears : Nat) : Prop :=
  Follows (t.view i) (u.view i) ∧
    (u.lendings i).pool.generation = (t.lendings i).pool.generation + clears

variable [DecidableEq ι]

/-- Traffic after an event. What cannot be done is not done. A lease knows its pool, so that it does not
matter through which one the session comes back. -/
def step (t : Traffic ι ω) : Event ι ω → Traffic ι ω
  | .operate i o => t.act i fun l => l.run o
  | .giveBackThrough _ own number => t.act own fun l => l.run (.giveBack number)
  | .takeHandle i number =>
    match numbered number (t.lendings i).lent with
    | some s => { t with handles := .ofSession s :: t.handles }
    | none => t
  | .cancel i h => if h ∈ t.handles then t.act i fun l => l.cancel h else t
  | .elapse w => if issued t.world ≤ issued w then { t with world := w } else t

def run (t : Traffic ι ω) (events : List (Event ι ω)) : Traffic ι ω := events.foldl step t

theorem step_operate (t : Traffic ι ω) (i : ι) (o : Operation) :
    t.step (.operate i o) = t.act i fun l => l.run o := rfl

theorem lendings_operate (t : Traffic ι ω) (i : ι) (o : Operation) :
    (t.step (.operate i o)).lendings i = ((t.lendings i).run o t.world).1 :=
  lendings_act_self t i fun l => l.run o

theorem world_operate (t : Traffic ι ω) (i : ι) (o : Operation) :
    (t.step (.operate i o)).world = ((t.lendings i).run o t.world).2 := rfl

/-- An event leaves a pool as it is, operates it, or cancels what a session of it does. -/
theorem lendings_step (t : Traffic ι ω) (e : Event ι ω) (i : ι) :
    (t.step e).lendings i = t.lendings i ∨
      (∃ o, (t.step e).lendings i = ((t.lendings i).run o t.world).1 ∧
        (t.step e).world = ((t.lendings i).run o t.world).2 ∧
        t.handedOut e = (t.lendings i).handedOut o t.world) ∨
      ∃ h ∈ t.handles, (t.step e).lendings i = ((t.lendings i).cancel h t.world).1 := by
  have acted (j : ι) (action : Lending → ω → Lending × ω) :
      (t.act j action).lendings i = t.lendings i ∨
        i = j ∧ (t.act j action).lendings i = (action (t.lendings i) t.world).1 := by
    by_cases its : i = j
    · subst its
      exact .inr ⟨rfl, lendings_act_self t i action⟩
    · exact .inl (lendings_act_of_ne t its action)
  cases e with
  | operate j o =>
    rcases acted j fun l => l.run o with same | ⟨rfl, done⟩
    · exact .inl same
    · exact .inr (.inl ⟨o, done, rfl, rfl⟩)
  | giveBackThrough via own number =>
    rcases acted own fun l => l.run (.giveBack number) with same | ⟨rfl, done⟩
    · exact .inl same
    · exact .inr (.inl ⟨.giveBack number, done, rfl, rfl⟩)
  | takeHandle j number =>
    simp only [step]
    split <;> exact .inl rfl
  | cancel j h =>
    simp only [step]
    split
    · next taken =>
      rcases acted j fun l => l.cancel h with same | ⟨rfl, done⟩
      · exact .inl same
      · exact .inr (.inr ⟨h, taken, done⟩)
    · exact .inl rfl
  | elapse w =>
    simp only [step]
    split <;> exact .inl rfl

/-- An action that keeps one pool sound keeps all of them sound. -/
theorem Sound.act {t : Traffic ι ω} (sound : t.Sound) (i : ι)
    (action : Lending → ω → Lending × ω) (clears : Nat)
    (kept : Lending.Sound (t.lendings i).pool.config.maxSize.toNat t.handles
      ((action (t.lendings i) t.world).1, issued (action (t.lendings i) t.world).2))
    (follows : Follows (t.view i)
      ((action (t.lendings i) t.world).1, issued (action (t.lendings i) t.world).2))
    (generation : (action (t.lendings i) t.world).1.pool.generation =
      (t.lendings i).pool.generation + clears) :
    (t.act i action).Sound ∧ ∀ j, t.Leads (t.act i action) j (if j = i then clears else 0) := by
  unfold Traffic.act
  revert kept follows generation
  rcases action (t.lendings i) t.world with ⟨l, w⟩
  intro kept follows generation
  dsimp only at *
  have later : issued t.world ≤ issued w := follows.issued_le
  have apart : ∀ j, j ≠ i → ∀ s ∈ l.sessions, ∀ u ∈ (t.lendings j).sessions, s.id ≠ u.id := by
    intro j other s member u among
    rcases follows.origin s member with ⟨v, before, onward⟩ | new
    · exact onward.id ▸ sound.apart i j other.symm v before u among
    · have lt := lt_of_mem sound among
      have ge : issued t.world ≤ s.id := new
      omega
  have same : ∀ j, j ≠ i → Moves (t.view j) (t.lendings j, issued w) :=
    fun j _ => .single (.issue later)
  constructor
  · constructor
    · intro j
      by_cases its : j = i
      · subst its
        simp only [view, Function.update_self]
        rw [follows.config]
        exact kept
      · simp only [view, Function.update_of_ne its]
        exact ((same j its).keep (sound.each j)).1
    · intro j k different s member u among
      by_cases first : j = i
      · subst first
        simp only [Function.update_self] at member
        simp only [Function.update_of_ne different.symm] at among
        exact apart k different.symm s member u among
      · simp only [Function.update_of_ne first] at member
        by_cases second : k = i
        · subst second
          simp only [Function.update_self] at among
          exact (apart j first u among s member).symm
        · simp only [Function.update_of_ne second] at among
          exact sound.apart j k different s member u among
  · intro j
    by_cases its : j = i
    · subst its
      simp only [Leads, view, Function.update_self, if_true]
      exact ⟨follows, generation⟩
    · simp only [Leads, view, Function.update_of_ne its, if_neg its]
      exact ((same j its).keep (sound.each j)).2

/-- Every event keeps pools sound. -/
theorem Sound.step {t : Traffic ι ω} (sound : t.Sound) (e : Event ι ω) :
    (t.step e).Sound ∧ ∀ i, t.Leads (t.step e) i (if e.clears i then 1 else 0) := by
  have stay : ∀ i, t.Leads t i 0 := fun i => ⟨.refl _, rfl⟩
  cases e with
  | operate i o =>
    obtain ⟨kept, follows, generation⟩ := (sound.each i).run o
    obtain ⟨later, leads⟩ := sound.act i (fun l => l.run o) _ kept follows generation
    refine ⟨later, fun j => ?_⟩
    have lead := leads j
    by_cases its : j = i
    · subst its
      simpa [Traffic.step, Event.clears] using lead
    · simpa [Traffic.step, Event.clears, its, Ne.symm its] using lead
  | giveBackThrough via own number =>
    obtain ⟨kept, follows, generation⟩ := (sound.each own).run (.giveBack number)
    obtain ⟨later, leads⟩ :=
      sound.act own (fun l => l.run (.giveBack number)) _ kept follows generation
    exact ⟨later, fun j => by
      simpa [Traffic.step, Operation.isClear, Event.clears] using leads j⟩
  | takeHandle i number =>
    simp only [Traffic.step]
    split
    · next s found =>
      have lent := List.mem_of_find?_eq_some found
      refine ⟨⟨fun j => ?_, sound.apart⟩, stay⟩
      by_cases its : j = i
      · subst its
        exact (sound.each j).takeHandle lent
      · apply (sound.each j).addHandle
        · exact lt_of_mem sound (List.mem_append_right _ lent)
        · exact fun u member => sound.apart j i its u member s (List.mem_append_right _ lent)
    · exact ⟨sound, stay⟩
  | cancel i h =>
    simp only [Traffic.step]
    split
    · next taken =>
      obtain ⟨kept, follows, generation⟩ := (sound.each i).cancel taken
      obtain ⟨later, leads⟩ := sound.act i (fun l => l.cancel h) 0 kept follows generation
      exact ⟨later, fun j => by simpa [Event.clears] using leads j⟩
    · exact ⟨sound, stay⟩
  | elapse w =>
    simp only [Traffic.step]
    split
    · next later =>
      have moves : ∀ i, Moves (t.view i) (t.lendings i, issued w) := fun i => .single (.issue later)
      refine ⟨⟨fun i => ((moves i).keep (sound.each i)).1, sound.apart⟩, fun i => ?_⟩
      exact ((moves i).keep (sound.each i)).2
    · exact ⟨sound, stay⟩

/-- Every run keeps pools sound, and the generation of a pool counts how many times it has been
cleared. -/
theorem Sound.run {t : Traffic ι ω} (sound : t.Sound) (events : List (Event ι ω)) :
    (t.run events).Sound ∧ ∀ i, t.Leads (t.run events) i (events.countP (Event.clears i)) := by
  induction events generalizing t with
  | nil => exact ⟨sound, fun i => ⟨.refl _, rfl⟩⟩
  | cons e rest ih =>
    obtain ⟨next, first⟩ := sound.step e
    obtain ⟨last, others⟩ := ih next
    refine ⟨last, fun i => ⟨(first i).1.trans (others i).1, ?_⟩⟩
    rw [List.countP_cons, Nat.add_comm (List.countP ..), ← Nat.add_assoc, ← (first i).2]
    exact (others i).2

/-- Settings of a pool of two sessions. -/
def twoSessions : PoolConfig := { PoolConfig.ofClient .default with maxSize := 2 }

/-- A pool of two sessions that has just been made. -/
def pairPool : Pool := ⟨.default, twoSessions, 0, 2, [], [], none⟩

theorem pairPool_made : Pool.ofConfig .default twoSessions = .ok pairPool := rfl

/-- Two pools of two sessions each, and a server that lets their clients in. -/
def twoPools : Traffic Bool Standin.World :=
  start (fun _ => pairPool)
    (.start { Standin.ServerConfig.new with credentials := ⟨"", ""⟩ } "localhost" 3306
      fun _ => List.replicate 20 7)

end Traffic

end SqlWire
