import SqlWire.Proofs.Outcome
import SqlWire.Proofs.Text.Lower
import SqlWire.Routine.Procedure

/-! # Parameters in the order of a routine's

A routine's parameters stand in the order of their places, and those that share a place in the order
in which they were told (`IsOrdering`). Each is served by the first of the caller's parameters that
can serve it (`IsServed`): what a function returns by its direction, any other by its name.
`align_ofParameters` says when a caller's parameters can be aligned, what they are then, and which
parameter an error is about.
-/

namespace SqlWire

namespace Procedure

/-- Whether descriptions are those that were told, in the order of their places and with those of one
place as they were told. -/
structure IsOrdering (told ordered : List ParameterDescription) : Prop where
  perm : ordered.Perm told
  sorted : ordered.Pairwise fun a b => a.position ≤ b.position
  stable (position : UInt32) : ordered.filter (·.position == position) =
    told.filter (·.position == position)

theorem isOrdering_ofParameters (name : RoutineName) (told : List ParameterDescription) :
    IsOrdering told (ofParameters name told).parameters := by
  have trans (a b c : ParameterDescription) (first : decide (a.position ≤ b.position) = true)
      (second : decide (b.position ≤ c.position) = true) :
      decide (a.position ≤ c.position) = true := by
    simp only [decide_eq_true_eq] at first second ⊢
    exact UInt32.le_trans first second
  have total (a b : ParameterDescription) :
      (decide (a.position ≤ b.position) || decide (b.position ≤ a.position)) = true := by
    simpa using UInt32.le_total a.position b.position
  have perm := List.mergeSort_perm told fun a b => decide (a.position ≤ b.position)
  have sorted := List.pairwise_mergeSort trans total told
  refine ⟨perm, sorted.imp of_decide_eq_true, ?_⟩
  intro position
  have level : (told.filter (·.position == position)).Pairwise
      fun a b => decide (a.position ≤ b.position) = true := by
    refine List.pairwise_of_forall_mem_list ?_
    intro a first b second
    have here := beq_iff_eq.mp (List.mem_filter.mp first).2
    have there := beq_iff_eq.mp (List.mem_filter.mp second).2
    simp [here, there]
  have kept := (List.sublist_mergeSort trans total level List.filter_sublist).filter
    (·.position == position)
  rw [List.filter_filter] at kept
  simp only [Bool.and_self] at kept
  exact (kept.eq_of_length (perm.filter _).length_eq.symm).symm

/-- Whether a caller's parameter can serve for a description. -/
def Serves (d : ParameterDescription) (p : Parameter) : Prop :=
  if d.direction = .returnValue then p.direction = some .returnValue
  else Lower.text p.normalName.toList = Lower.text (Name.normal (d.name.getD "")).toList

instance (d : ParameterDescription) (p : Parameter) : Decidable (Serves d p) :=
  inferInstanceAs (Decidable (ite _ _ _))

/-- Whether a parameter is the first of a caller's that can serve for a description. -/
def IsServed (ps : Parameters) (d : ParameterDescription) (p : Parameter) : Prop :=
  ∃ before after, ps = before ++ p :: after ∧ Serves d p ∧ ∀ q ∈ before, ¬ Serves d q

/-- The error for a description that no parameter can serve. -/
def missing (routine : RoutineName) (d : ParameterDescription) : BindingError :=
  if d.direction = .returnValue then .missingReturn routine.qualified
  else .missingParameter (d.name.getD "")

theorem given_eq (routine : RoutineName) (ps : Parameters) (d : ParameterDescription) :
    given routine ps d =
      (List.find? (fun p => decide (Serves d p)) ps).elim (.error (missing routine d)) .ok := by
  by_cases returned : d.direction = .returnValue
  · have same : (fun p : Parameter => decide (Serves d p)) = (·.direction == some .returnValue) := by
      funext p
      simp [Serves, returned, beq_eq_decide]
    rw [same, missing, if_pos returned, given]
    simp only [returned]
    change _ = (returned? ps).elim _ _
    cases returned? ps <;> rfl
  · have same : (fun p : Parameter => decide (Serves d p)) =
        fun p => sameIgnoringCase p.normalName (Name.normal (d.name.getD "")) := by
      funext p
      rw [Bool.eq_iff_iff, sameIgnoringCase_iff]
      simp [Serves, returned]
    rw [same, List.find?_eq_bind_findIdx?_getElem?, missing, if_neg returned, given]
    split
    · next other => exact (returned other).elim
    · dsimp only
      change _ = ((ps.normalIndexOf? (d.name.getD "")).bind fun i => ps[i]?).elim _ _
      cases (ps.normalIndexOf? (d.name.getD "")).bind fun i => ps[i]? <;> rfl

theorem given_eq_ok_iff {routine : RoutineName} {ps : Parameters} {d : ParameterDescription}
    {p : Parameter} : given routine ps d = .ok p ↔ IsServed ps d p := by
  have first : List.find? (fun p => decide (Serves d p)) ps = some p ↔ IsServed ps d p := by
    simp only [List.find?_eq_some_iff_append, decide_eq_true_eq, Bool.not_eq_true',
      decide_eq_false_iff_not, IsServed]
    constructor
    · rintro ⟨serves, before, after, parts, others⟩
      exact ⟨before, after, parts, serves, others⟩
    · rintro ⟨before, after, parts, serves, others⟩
      exact ⟨serves, before, after, parts, others⟩
  rw [given_eq, ← first]
  cases List.find? (fun p => decide (Serves d p)) ps <;> simp

theorem given_eq_error_iff {routine : RoutineName} {ps : Parameters} {d : ParameterDescription}
    {e : BindingError} :
    given routine ps d = .error e ↔ (∀ p ∈ ps, ¬ Serves d p) ∧ e = missing routine d := by
  have none : List.find? (fun p => decide (Serves d p)) ps = none ↔ ∀ p ∈ ps, ¬ Serves d p := by
    simp
  rw [given_eq, ← none]
  cases List.find? (fun p => decide (Serves d p)) ps <;> simp [eq_comm]

/-- Something serves for a description just if the caller's parameter for it can be told. -/
theorem exists_given_iff {routine : RoutineName} {ps : Parameters} {d : ParameterDescription} :
    (∃ p, given routine ps d = .ok p) ↔ ∃ p ∈ ps, Serves d p := by
  constructor
  · rintro ⟨p, served⟩
    obtain ⟨before, after, rfl, serves, -⟩ := given_eq_ok_iff.mp served
    exact ⟨p, by simp, serves⟩
  · rintro ⟨p, member, serves⟩
    cases found : given routine ps d with
    | ok q => exact ⟨q, rfl⟩
    | error e => exact ((given_eq_error_iff.mp found).1 p member serves).elim

/-- Whether an entry is a caller's parameter to which its description adds what the caller has left
open. -/
structure Completes (d : ParameterDescription) (p entry : Parameter) : Prop where
  name : entry.name = p.name
  value : entry.value = p.value
  direction : entry.direction = some (p.direction.getD d.direction)
  type : entry.type = p.type.or d.type

theorem completes_iff {d : ParameterDescription} {p entry : Parameter} :
    Completes d p entry ↔ completed d p = entry := by
  constructor
  · rintro ⟨name, value, direction, type⟩
    cases entry
    simp_all [completed, Option.or_some]
  · rintro rfl
    exact ⟨rfl, rfl, Option.or_some, rfl⟩

/-- An entry of an alignment is the caller's parameter for its description, completed. -/
theorem entry_eq_ok_iff {routine : RoutineName} {ps : Parameters} {d : ParameterDescription}
    {entry : Parameter} : (do return completed d (← given routine ps d)) = Except.ok entry ↔
      ∃ p, IsServed ps d p ∧ Completes d p entry := by
  have served (p : Parameter) : IsServed ps d p ↔ given routine ps d = .ok p :=
    given_eq_ok_iff.symm
  simp only [served, completes_iff]
  cases given routine ps d <;> simp [bind, Except.bind, pure, Except.pure]

theorem entry_eq_error_iff {routine : RoutineName} {ps : Parameters} {d : ParameterDescription}
    {e : BindingError} : (do return completed d (← given routine ps d)) = Except.error e ↔
      given routine ps d = .error e := by
  cases given routine ps d <;> simp [bind, Except.bind, pure, Except.pure]

theorem align_eq_ok_iff {procedure : Procedure} {ps aligned : Parameters} :
    procedure.align ps = .ok aligned ↔
      List.Forall₂ (fun d entry => ∃ p, IsServed ps d p ∧ Completes d p entry)
        procedure.parameters aligned := by
  simp only [align, Outcome.mapM_eq_ok_iff, entry_eq_ok_iff]

theorem align_eq_error_iff {procedure : Procedure} {ps : Parameters} {e : BindingError} :
    procedure.align ps = .error e ↔ ∃ before d after,
      procedure.parameters = before ++ d :: after ∧ (∀ c ∈ before, ∃ p ∈ ps, Serves c p) ∧
        (∀ p ∈ ps, ¬ Serves d p) ∧ e = missing procedure.name d := by
  have each (c : ParameterDescription) :
      (∃ entry, (do return completed c (← given procedure.name ps c)) = Except.ok entry) ↔
        ∃ p ∈ ps, Serves c p := by
    rw [← exists_given_iff]
    cases given procedure.name ps c <;> simp [bind, Except.bind, pure, Except.pure]
  simp only [align, Outcome.mapM_eq_error_iff, each, entry_eq_error_iff, given_eq_error_iff]

theorem exists_align_iff {procedure : Procedure} {ps : Parameters} :
    (∃ aligned, procedure.align ps = .ok aligned) ↔
      ∀ d ∈ procedure.parameters, ∃ p ∈ ps, Serves d p := by
  constructor
  · rintro ⟨aligned, done⟩
    have each : List.Forall₂ (fun d _ => (∃ p ∈ ps, Serves d p) ∧ True)
        procedure.parameters aligned := by
      refine (align_eq_ok_iff.mp done).imp ?_
      rintro d entry ⟨p, ⟨before, after, rfl, serves, -⟩, -⟩
      exact ⟨⟨p, by simp, serves⟩, trivial⟩
    exact ((List.forall₂_and_left _ _).mp each).1
  · intro served
    cases outcome : procedure.align ps with
    | ok aligned => exact ⟨aligned, rfl⟩
    | error e =>
      obtain ⟨before, d, after, parts, -, unserved, -⟩ := align_eq_error_iff.mp outcome
      obtain ⟨p, member, serves⟩ := served d (by simp [parts])
      exact (unserved p member serves).elim

/-- Whatever parameters a routine is told to have and whatever a caller gives: the routine's are put
in the order of their places; a caller's can be aligned with them just if each of them can be served;
the entries are then the first parameters that serve them, each with the direction and the type of
its description where the caller has told none; and the error is about the first description in that
order which cannot be served. -/
theorem align_ofParameters (name : RoutineName) (told : List ParameterDescription)
    (ps : Parameters) :
    IsOrdering told (ofParameters name told).parameters ∧
    ((∃ aligned, (ofParameters name told).align ps = .ok aligned) ↔
      ∀ d ∈ told, ∃ p ∈ ps, Serves d p) ∧
    (∀ aligned, (ofParameters name told).align ps = .ok aligned ↔
      List.Forall₂ (fun d entry => ∃ p, IsServed ps d p ∧ Completes d p entry)
        (ofParameters name told).parameters aligned) ∧
    ∀ e, (ofParameters name told).align ps = .error e ↔ ∃ before d after,
      (ofParameters name told).parameters = before ++ d :: after ∧
        (∀ c ∈ before, ∃ p ∈ ps, Serves c p) ∧ (∀ p ∈ ps, ¬ Serves d p) ∧ e = missing name d := by
  have ordering := isOrdering_ofParameters name told
  refine ⟨ordering, ?_, fun _ => align_eq_ok_iff, fun _ => align_eq_error_iff⟩
  simp only [exists_align_iff, ordering.perm.mem_iff]

end Procedure

end SqlWire
