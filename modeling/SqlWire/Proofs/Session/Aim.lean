import SqlWire.Proofs.Session.Changes

/-! # What a cancel hits

A cancel is meant for one command: the one that was in flight when its handle marked it. The state
of a session says that the command in flight is marked. It says neither for whom nor since when, so
that a handle that comes late, after its command has ended and another handle has marked the next
one, meets a mark that it takes for its own.

Whatever happens, the server is only told, and a mark only taken back, while the command in flight
bears a mark that was made during it (`Deed.Founded`). Each of these hits the command that it was
meant for, once for each mark (`Deed.Aimed`), exactly if no handle comes late
(`Shared.run_aimed_iff`). `Shared.run_late` is a run in which one does.
-/

namespace SqlWire

namespace Deed

/-- How many commands have begun. -/
def commands (log : List Deed) : Nat := log.count .began

/-- The number of the command that a handle has marked last. -/
def aim? (i : Nat) : List Deed → Option Nat
  | [] => none
  | d :: log => if d = .marked i then some (commands log) else aim? i log

/-- The handle that has made the mark of the command in flight. -/
def bearer? : List Deed → Option Nat
  | [] | .began :: _ | .unmarked _ :: _ => none
  | .marked i :: _ => some i
  | .told _ :: log => bearer? log

/-- How often the server was told since a mark was made. -/
def tellings : List Deed → Nat
  | [] | .marked _ :: _ => 0
  | .told _ :: log => tellings log + 1
  | _ :: log => tellings log

/-- Whether the server was only told, and marks only taken back, while the command in flight bore a
mark. -/
def Founded : List Deed → Prop
  | [] => True
  | .told _ :: log | .unmarked _ :: log => (bearer? log).isSome = true ∧ Founded log
  | _ :: log => Founded log

/-- Whether the last command that a handle has marked is over. -/
def IsLate (i : Nat) (log : List Deed) : Prop := ∃ n, aim? i log = some n ∧ n < commands log

/-- Whether cancels only hit the commands that they were meant for. Through a handle that has marked
a command, the server is told while that command is in flight, and once for each mark; and no handle
takes back the mark that another one has made for a later command. -/
def Aimed : List Deed → Prop
  | [] => True
  | .told i :: log => (∀ n, aim? i log = some n → n = commands log) ∧ tellings log = 0 ∧ Aimed log
  | .unmarked i :: log =>
    (∀ j n, bearer? log = some j → j ≠ i → aim? i log = some n → ¬ n < commands log) ∧ Aimed log
  | _ :: log => Aimed log

/-- The mark that a command in flight bears is its bearer's last one, and it was made during that
command. -/
theorem aim?_of_bearer? {i : Nat} {log : List Deed} (bears : bearer? log = some i) :
    aim? i log = some (commands log) := by
  induction log with
  | nil => cases bears
  | cons d log ih =>
    cases d with
    | began | unmarked j => cases bears
    | marked j =>
      obtain rfl : j = i := Option.some.inj bears
      simp [aim?, commands]
    | told j =>
      have earlier := ih bears
      simpa [aim?, commands] using earlier

theorem aim?_le {i n : Nat} {log : List Deed} (aims : aim? i log = some n) :
    n ≤ commands log := by
  induction log with
  | nil => cases aims
  | cons d log ih =>
    have grown : commands log ≤ commands (d :: log) := List.count_le_count_cons
    unfold aim? at aims
    split at aims
    · cases aims
      exact grown
    · exact (ih aims).trans grown

/-- A handle is late if it is not for the command in flight that it has made its last mark. -/
theorem isLate_iff {i : Nat} {log : List Deed} :
    ¬ IsLate i log ↔ ∀ n, aim? i log = some n → n = commands log := by
  constructor
  · intro timely n aims
    have bound := aim?_le aims
    have least : ¬ n < commands log := fun less => timely ⟨n, aims, less⟩
    omega
  · rintro timely ⟨n, aims, less⟩
    exact Nat.ne_of_lt less (timely n aims)

/-- A late handle does not bear the mark that the command in flight bears. -/
theorem IsLate.ne_bearer {i j : Nat} {log : List Deed} (late : IsLate i log)
    (bears : bearer? log = some j) : j ≠ i := by
  rintro rfl
  obtain ⟨n, aims, less⟩ := late
  rw [aim?_of_bearer? bears] at aims
  cases aims
  omega

/-- While the command in flight bears a mark, a late handle takes back that of another one, and only
a late one takes back what was made for a later command. -/
theorem unmarks_later_iff {i bearer : Nat} {log : List Deed} (bears : bearer? log = some bearer) :
    (∀ j n, bearer? log = some j → j ≠ i → aim? i log = some n → ¬ n < commands log) ↔
      ¬ IsLate i log := by
  constructor
  · rintro others late
    have other := late.ne_bearer bears
    obtain ⟨n, aims, less⟩ := late
    exact others bearer n bears other aims less
  · intro timely j n _ _ aims less
    exact timely ⟨n, aims, less⟩

end Deed

/-- What the state of a session says of its commands. -/
structure Borne (c : Course) : Prop where
  querying : c.state = .querying → Deed.bearer? c.log = none
  cancelling : c.state = .cancelling → (Deed.bearer? c.log).isSome = true
  founded : Deed.Founded c.log

theorem Borne.change (c d : Course) (change : Change c d) (borne : Borne c) : Borne d := by
  obtain ⟨querying, cancelling, founded⟩ := borne
  cases change with
  | began log => exact ⟨fun _ => rfl, nofun, founded⟩
  | ended | failed | closed => exact ⟨nofun, nofun, founded⟩
  | marked i log => exact ⟨nofun, fun _ => rfl, founded⟩
  | unmarked i log => exact ⟨fun _ => rfl, nofun, cancelling rfl, founded⟩
  | told i log => exact ⟨nofun, fun _ => cancelling rfl, cancelling rfl, founded⟩

namespace Shared

variable {ω : Type}

/-- Whether what happens is done through a handle that comes too late: it meets a marked command
after its own one, or it meets a mark for which the server was already told. -/
def Act.IsAstray (x : Shared ω) : Act → Prop
  | .tell k => ∃ killer h, x.killers[k]? = some killer ∧ x.handles[killer.handle]? = some h ∧
    h.isCancelling x.session = true ∧
    (Deed.IsLate killer.handle x.log ∨ Deed.tellings x.log ≠ 0)
  | .abort i => ∃ h, x.handles[i]? = some h ∧ h.isCancelling x.session = true ∧
    Deed.IsLate i x.log
  | _ => False

/-- Whether cancels hit in one state what they hit in another one. -/
def AsAimed (x y : Shared ω) : Prop := Deed.Aimed y.log ↔ Deed.Aimed x.log

theorem asAimed_goOn (x : Shared ω) (found : SessionState) (scene : Session × Turn) (w : ω) :
    x.AsAimed (x.goOn found scene w) := by
  obtain ⟨s, turn⟩ := scene
  cases turn <;> exact Iff.rfl

variable [Network ω]

/-- Only telling the server and taking a mark back can hit anything. -/
theorem asAimed_step (x : Shared ω) {a : Act} (tells : ∀ k, a ≠ .tell k) (aborts : ∀ i, a ≠ .abort i) :
    x.AsAimed (x.step a) := by
  have same : x.AsAimed x := Iff.rfl
  cases a with
  | begin c =>
    apply whenFree_keeps same
    intro _
    split
    · exact asAimed_goOn ..
    · exact same
  | proceed =>
    apply onErrand_keeps same
    intro e _
    exact asAimed_goOn ..
  | abandon link reached =>
    apply onErrand_keeps same
    intro e _
    exact same
  | send payload cut =>
    apply whenFree_keeps same
    intro _
    simp only [AsAimed]
    split <;> exact Iff.rfl
  | start i =>
    apply through_keeps same
    intro h _
    simp only [AsAimed]
    split <;> exact Iff.rfl
  | dial i =>
    apply through_keeps same
    intro h _
    split
    · split <;> exact same
    · exact same
  | tell k => exact (tells k rfl).elim
  | abort i => exact (aborts i rfl).elim
  | _ =>
    apply whenFree_keeps same
    intro _
    exact same

theorem aimed_tell_iff (x : Shared ω) (k : Nat) :
    Deed.Aimed (x.step (.tell k)).log ↔ ¬ (Act.tell k).IsAstray x ∧ Deed.Aimed x.log := by
  cases opened : x.killers[k]? with
  | none => simp [step, Act.IsAstray, opened]
  | some killer =>
    cases taken : x.handles[killer.handle]? with
    | none => simp [step, Act.IsAstray, through, opened, taken]
    | some h =>
      cases marked : h.isCancelling x.session with
      | false => simp [step, Act.IsAstray, through, opened, taken, marked]
      | true =>
        have told : (x.step (.tell k)).log = .told killer.handle :: x.log := by
          simp [step, through, opened, taken, marked]
        have astray : (Act.tell k).IsAstray x ↔
            Deed.IsLate killer.handle x.log ∨ Deed.tellings x.log ≠ 0 := by
          simp [Act.IsAstray, opened, taken, marked]
        rw [told, astray, Deed.Aimed, not_or, not_not, and_assoc, Deed.isLate_iff]

theorem aimed_abort_iff {x : Shared ω} (borne : Borne x.course) (i : Nat) :
    Deed.Aimed (x.step (.abort i)).log ↔ ¬ (Act.abort i).IsAstray x ∧ Deed.Aimed x.log := by
  cases taken : x.handles[i]? with
  | none => simp [step, Act.IsAstray, through, taken]
  | some h =>
    cases marked : h.isCancelling x.session with
    | false => simp [step, Act.IsAstray, through, taken, marked]
    | true =>
      obtain ⟨bearer, bears⟩ : ∃ bearer, Deed.bearer? x.log = some bearer :=
        Option.isSome_iff_exists.mp
          (borne.cancelling (CancelHandle.isCancelling_iff.mp marked).2)
      have unmarked : (x.step (.abort i)).log = .unmarked i :: x.log := by
        simp [step, through, taken, marked]
      have astray : (Act.abort i).IsAstray x ↔ Deed.IsLate i x.log := by
        simp [Act.IsAstray, taken, marked]
      rw [unmarked, astray, Deed.Aimed, Deed.unmarks_later_iff bears]

/-- A step keeps cancels aimed exactly if it is not done through a handle that comes too late. -/
theorem aimed_step_iff {x : Shared ω} (borne : Borne x.course) (a : Act) :
    Deed.Aimed (x.step a).log ↔ ¬ a.IsAstray x ∧ Deed.Aimed x.log := by
  by_cases tells : ∃ k, a = .tell k
  · obtain ⟨k, rfl⟩ := tells
    exact aimed_tell_iff x k
  by_cases aborts : ∃ i, a = .abort i
  · obtain ⟨i, rfl⟩ := aborts
    exact aimed_abort_iff borne i
  · have harmless : ¬ a.IsAstray x := by
      cases a with
      | tell k => exact (tells ⟨k, rfl⟩).elim
      | abort i => exact (aborts ⟨i, rfl⟩).elim
      | _ => exact id
    have same := x.asAimed_step (not_exists.mp tells) (not_exists.mp aborts)
    exact same.trans (and_iff_right harmless).symm

/-- Whatever happens, the state of the session says that the command in flight bears a mark. -/
theorem borne_run {s : Session} (unmarked : s.state ≠ .cancelling) (w : ω) (acts : List Act) :
    Borne (run acts (ofSession s w)).course :=
  run_keeps Borne.change acts ⟨fun _ => rfl, fun marked => (unmarked marked).elim, trivial⟩

theorem aimed_run_iff {x : Shared ω} (borne : Borne x.course) (acts : List Act) :
    Deed.Aimed (run acts x).log ↔
      (∀ (n : Nat) (a : Act), acts[n]? = some a → ¬ a.IsAstray (run (acts.take n) x)) ∧ Deed.Aimed x.log := by
  induction acts generalizing x with
  | nil => simp
  | cons a acts ih =>
    have onward : Borne (x.step a).course := Changes.keeps Borne.change (x.reaches_step a) borne
    rw [run_cons, ih onward, aimed_step_iff borne, ← and_assoc]
    apply and_congr_left
    intro _
    constructor
    · rintro ⟨rest, first⟩ n b at_n
      cases n with
      | zero =>
        obtain rfl : a = b := by simpa using at_n
        exact first
      | succ n => exact rest n b (by simpa using at_n)
    · intro all
      exact ⟨fun n b at_n => all (n + 1) b (by simpa using at_n), all 0 a rfl⟩

/-- Whatever happens, the server is only told, and a mark only taken back, while the command in
flight bears a mark; and cancels only hit the commands that they were meant for exactly if none is
done through a handle that comes too late. -/
theorem run_aimed_iff (s : Session) (unmarked : s.state ≠ .cancelling) (w : ω) (acts : List Act) :
    Deed.Founded (run acts (ofSession s w)).log ∧
    (Deed.Aimed (run acts (ofSession s w)).log ↔
      ∀ (n : Nat) (a : Act), acts[n]? = some a → ¬ a.IsAstray (run (acts.take n) (ofSession s w))) := by
  have start : Borne (ofSession s w).course := borne_run unmarked w []
  refine ⟨(borne_run unmarked w acts).founded, ?_⟩
  rw [aimed_run_iff start acts]
  exact and_iff_left trivial

/-- A network on which a connection can be opened, and one command is then answered on it. -/
def killable : Session.Scripted :=
  let greeting : Greeting :=
    { version := protocolVersion, serverVersion := "8.0.36", connectionId := 2
      nonce := List.replicate 20 0x61
      capabilities := [.protocol41, .secureConnection, .pluginAuth].foldl Capabilities.union ⟨0⟩
      collation := defaultCollation, status := .autocommit, plugin := "mysql_native_password" }
  let reply : Bytes := [0, 0, 0, 2, 0, 0, 0]
  let packets : List Packet := [⟨0, greeting.encode⟩, ⟨2, reply⟩, ⟨1, reply⟩]
  ⟨packets.map fun p => ⟨.zero, .zero, .data p.encode⟩⟩

/-- A handle through which the server is told while the command that it has marked is in flight does
not come too late. -/
theorem run_timely :
    (Session.fresh "8.0.36").state ≠ .cancelling ∧
      let acts := [.take, .send (Command.encodeQuery "SELECT 1") none, .start 0, .dial 0, .tell 0]
      let x := ofSession (Session.fresh "8.0.36") killable
      (run acts x).log = [.told 0, .marked 0, .began] ∧
        ∀ (n : Nat) (a : Act), acts[n]? = some a → ¬ a.IsAstray (run (acts.take n) x) := by
  have connected : (Session.fresh "8.0.36").state ≠ .cancelling := by decide
  refine ⟨connected, ?_⟩
  intro acts x
  have log : (run acts x).log = [.told 0, .marked 0, .began] := by decide +kernel
  refine ⟨log, (run_aimed_iff _ connected _ _).2.mp ?_⟩
  rw [log]
  refine ⟨?_, rfl, trivial⟩
  intro n aims
  exact (Option.some.inj aims).symm

/-- A handle has marked a command that is over, and another handle has marked the next one: the
server is told through the first handle, and it is the next command that is stopped. -/
theorem run_late :
    let select := Command.encodeQuery "SELECT 1"
    let x := run [.take, .take, .send select none, .start 0, .settle, .send select none, .start 1,
      .dial 0, .tell 0] (ofSession (Session.fresh "8.0.36") killable)
    x.log = [.told 0, .marked 1, .began, .marked 0, .began] ∧ ¬ Deed.Aimed x.log := by
  intro select x
  have log : x.log = [.told 0, .marked 1, .began, .marked 0, .began] := by decide +kernel
  refine ⟨log, ?_⟩
  rw [log]
  intro aimed
  have same : 1 = 2 := aimed.1 1 rfl
  omega

end Shared

end SqlWire
