import SqlWire.Proofs.Routine.Aligning

/-! # Parameters that serve more than once

What a function returns is served by a direction and every other parameter by a name, both from one
list of the caller's, so that one entry of the list can serve twice. Two parameters of a routine share
an entry if their names have one normal form, and an argument takes what is meant for the return value
if nothing of its name stands before that. `aligned_apart_iff` says that nothing else makes an entry
serve twice, and nothing else passes a return value as an argument.
-/

namespace SqlWire

/-- The name by which a parameter of a routine is looked up. -/
def ParameterDescription.soughtName (d : ParameterDescription) : List Char :=
  Lower.text (Name.normal (d.name.getD "")).toList

/-- The name by which a caller's parameter is found. -/
def Parameter.foundName (p : Parameter) : List Char := Lower.text p.normalName.toList

/-- Whether a description is of a parameter that a caller passes. -/
def ParameterDescription.IsArgument (d : ParameterDescription) : Prop := d.direction ≠ .returnValue

instance (d : ParameterDescription) : Decidable d.IsArgument :=
  inferInstanceAs (Decidable (d.direction ≠ .returnValue))

/-- Whether a caller's parameter is for what a function returns. -/
def Parameter.IsReturn (p : Parameter) : Prop := p.direction = some .returnValue

namespace Procedure

theorem serves_argument_iff {d : ParameterDescription} (argument : d.IsArgument) {p : Parameter} :
    Serves d p ↔ p.foundName = d.soughtName := by
  rw [Serves, if_neg argument]
  rfl

theorem serves_returned_iff {d : ParameterDescription} (returned : ¬ d.IsArgument) {p : Parameter} :
    Serves d p ↔ p.IsReturn := by
  rw [Serves, if_pos (not_not.mp returned)]
  rfl

/-- Whether the entry at a place is the first of a caller's that can serve for a description. -/
structure IsServedAt (ps : Parameters) (d : ParameterDescription) (place : Nat) : Prop where
  serves : ∃ p, ps[place]? = some p ∧ Serves d p
  first : ∀ earlier < place, ∀ q, ps[earlier]? = some q → ¬ Serves d q

variable {ps : Parameters}

theorem isServed_iff {d : ParameterDescription} {p : Parameter} :
    IsServed ps d p ↔ ∃ place, ps[place]? = some p ∧ IsServedAt ps d place := by
  constructor
  · rintro ⟨before, after, rfl, serves, others⟩
    have here : (before ++ p :: after)[before.length]? = some p := by simp
    refine ⟨before.length, here, ⟨p, here, serves⟩, ?_⟩
    intro earlier less q found
    rw [List.getElem?_append_left less] at found
    exact others q (List.mem_of_getElem? found)
  · rintro ⟨place, here, ⟨p', here', serves⟩, others⟩
    obtain rfl : p = p' := Option.some.inj (here.symm.trans here')
    obtain ⟨inside, same⟩ := List.getElem?_eq_some_iff.mp here
    refine ⟨ps.take place, ps.drop (place + 1), ?_, serves, ?_⟩
    · rw [← same, ← List.drop_eq_getElem_cons inside, List.take_append_drop]
    · intro q member
      obtain ⟨earlier, found⟩ := List.mem_iff_getElem?.mp member
      rw [List.getElem?_take] at found
      split at found
      · next less => exact others earlier less q found
      · cases found

/-- A description is served at one place only. -/
theorem IsServedAt.unique {d : ParameterDescription} {i j : Nat} (here : IsServedAt ps d i)
    (there : IsServedAt ps d j) : i = j := by
  obtain ⟨p, atI, servesI⟩ := here.serves
  obtain ⟨q, atJ, servesJ⟩ := there.serves
  rcases Nat.lt_trichotomy i j with less | same | more
  · exact (there.first i less p atI servesI).elim
  · exact same
  · exact (here.first j more q atJ servesJ).elim

/-- Whether the entries of an alignment are drawn from places of the caller's list, one for each of the
routine's parameters. -/
structure IsDrawn (procedure : Procedure) (ps aligned : Parameters)
    (draws : List (ParameterDescription × Nat)) : Prop where
  described : draws.map Prod.fst = procedure.parameters
  served : ∀ draw ∈ draws, IsServedAt ps draw.1 draw.2
  entries : List.Forall₂ (fun draw entry => ∃ p, ps[draw.2]? = some p ∧ Completes draw.1 p entry)
    draws aligned

private theorem exists_draws {ds : List ParameterDescription} {aligned : Parameters}
    (each : List.Forall₂ (fun d entry => ∃ p, IsServed ps d p ∧ Completes d p entry) ds aligned) :
    ∃ draws : List (ParameterDescription × Nat), draws.map Prod.fst = ds ∧
      (∀ draw ∈ draws, IsServedAt ps draw.1 draw.2) ∧
      List.Forall₂ (fun draw entry => ∃ p, ps[draw.2]? = some p ∧ Completes draw.1 p entry)
        draws aligned := by
  induction each with
  | nil => exact ⟨[], rfl, by simp, .nil⟩
  | @cons d entry _ _ one _ ih =>
    obtain ⟨p, served, completes⟩ := one
    obtain ⟨place, here, served⟩ := isServed_iff.mp served
    obtain ⟨draws, described, others, entries⟩ := ih
    exact ⟨(d, place) :: draws, congrArg (d :: ·) described, List.forall_mem_cons.mpr ⟨served, others⟩,
      .cons ⟨p, here, completes⟩ entries⟩

theorem exists_isDrawn {procedure : Procedure} {aligned : Parameters}
    (done : procedure.align ps = .ok aligned) : ∃ draws, IsDrawn procedure ps aligned draws := by
  obtain ⟨draws, described, served, entries⟩ := exists_draws (align_eq_ok_iff.mp done)
  exact ⟨draws, described, served, entries⟩

/-- Whether no two of a routine's parameters return something. -/
def HasOneReturn (procedure : Procedure) : Prop :=
  procedure.parameters.Pairwise fun d e => d.IsArgument ∨ e.IsArgument

/-- Whether an alignment can use no entry twice: the names of the arguments differ in their normal
forms, and what a caller gives for a return value under the name of an argument stands behind
something else of that name. -/
structure IsApart (procedure : Procedure) (ps : Parameters) : Prop where
  names : procedure.parameters.Pairwise fun d e =>
    d.IsArgument → e.IsArgument → d.soughtName ≠ e.soughtName
  returned : ∀ d ∈ procedure.parameters, d.IsArgument → ∀ before p after, ps = before ++ p :: after →
    p.IsReturn → p.foundName = d.soughtName → ∃ q ∈ before, q.foundName = d.soughtName

/-- Whether a place has what a caller gives for a return value. -/
def IsReturnAt (ps : Parameters) (place : Nat) : Prop := ∃ p, ps[place]? = some p ∧ p.IsReturn

/-- What is meant for a return value serves for an argument just if it is the first of its name. -/
theorem not_isReturnAt_iff {d : ParameterDescription} (argument : d.IsArgument) {place : Nat}
    (served : IsServedAt ps d place) :
    ¬ IsReturnAt ps place ↔ ∀ before p after, ps = before ++ p :: after → p.IsReturn →
      p.foundName = d.soughtName → ∃ q ∈ before, q.foundName = d.soughtName := by
  constructor
  · rintro other before p after rfl returned named
    by_contra none
    simp only [not_exists, not_and] at none
    have first : IsServed (before ++ p :: after) d p := by
      refine ⟨before, after, rfl, (serves_argument_iff argument).mpr named, ?_⟩
      intro q member serves
      exact none q member ((serves_argument_iff argument).mp serves)
    obtain ⟨here, found, first⟩ := isServed_iff.mp first
    obtain rfl := served.unique first
    exact other ⟨p, found, returned⟩
  · rintro preceded ⟨p, here, returned⟩
    obtain ⟨before, after, rfl, serves, others⟩ := isServed_iff.mpr ⟨place, here, served⟩
    obtain ⟨q, member, named⟩ := preceded before p after rfl returned
      ((serves_argument_iff argument).mp serves)
    exact others q member ((serves_argument_iff argument).mpr named)

/-- Two arguments are served at one place just if they are sought by one name. -/
theorem place_eq_iff {d e : ParameterDescription} (left : d.IsArgument) (right : e.IsArgument)
    {i j : Nat} (here : IsServedAt ps d i) (there : IsServedAt ps e j) :
    i = j ↔ d.soughtName = e.soughtName := by
  constructor
  · rintro rfl
    obtain ⟨p, atI, serves⟩ := here.serves
    obtain ⟨q, atJ, serves'⟩ := there.serves
    obtain rfl : p = q := Option.some.inj (atI.symm.trans atJ)
    rw [← (serves_argument_iff left).mp serves, (serves_argument_iff right).mp serves']
  · intro same
    have alike (p : Parameter) : Serves d p ↔ Serves e p := by
      rw [serves_argument_iff left, serves_argument_iff right, same]
    exact here.unique ⟨by simpa only [alike] using there.serves, by simpa only [alike] using there.first⟩

/-- As long as no return value is passed as an argument, all descriptions are served at places of their
own just if the arguments are sought by different names. -/
theorem pairwise_place_iff {draws : List (ParameterDescription × Nat)}
    (served : ∀ draw ∈ draws, IsServedAt ps draw.1 draw.2)
    (single : draws.Pairwise fun x y => x.1.IsArgument ∨ y.1.IsArgument)
    (passed : ∀ draw ∈ draws, draw.1.IsArgument → ¬ IsReturnAt ps draw.2) :
    (draws.Pairwise fun x y => x.2 ≠ y.2) ↔
      draws.Pairwise fun x y => x.1.IsArgument → y.1.IsArgument → x.1.soughtName ≠ y.1.soughtName := by
  constructor
  · intro apart
    refine apart.imp_of_mem ?_
    intro x y memberX memberY other left right same
    exact other ((place_eq_iff left right (served x memberX) (served y memberY)).mpr same)
  · intro apart
    refine (single.and apart).imp_of_mem ?_
    rintro x y memberX memberY ⟨one, apart⟩ same
    have returned {draw : ParameterDescription × Nat} (member : draw ∈ draws)
        (function : ¬ draw.1.IsArgument) : IsReturnAt ps draw.2 := by
      obtain ⟨p, here, serves⟩ := (served draw member).serves
      exact ⟨p, here, (serves_returned_iff function).mp serves⟩
    by_cases left : x.1.IsArgument
    · by_cases right : y.1.IsArgument
      · exact apart left right
          ((place_eq_iff left right (served x memberX) (served y memberY)).mp same)
      · exact passed x memberX left (same ▸ returned memberY right)
    · exact passed y memberY (one.resolve_left left) (same ▸ returned memberX left)

/-- If a routine returns at most one value and a caller's parameters can be aligned with its own, then the
entries are drawn from places of the caller's list. They are all drawn from places of their own, and no
argument from one that is meant for a return value, just if the names of the arguments differ in their
normal forms and every return value that bears the name of an argument stands behind something else of
that name. -/
theorem aligned_apart_iff {procedure : Procedure} (single : procedure.HasOneReturn)
    {ps aligned : Parameters} (done : procedure.align ps = .ok aligned) :
    (∃ draws, IsDrawn procedure ps aligned draws) ∧
      ∀ draws, IsDrawn procedure ps aligned draws →
        (((draws.map Prod.snd).Nodup ∧
            ∀ draw ∈ draws, draw.1.IsArgument → ¬ IsReturnAt ps draw.2) ↔
          IsApart procedure ps) := by
  refine ⟨exists_isDrawn done, ?_⟩
  rintro draws ⟨described, served, -⟩
  have each {P : ParameterDescription → Prop} :
      (∀ d ∈ procedure.parameters, P d) ↔ ∀ draw ∈ draws, P draw.1 := by
    rw [← described, List.forall_mem_map]
  rw [HasOneReturn, ← described, List.pairwise_map] at single
  rw [List.Nodup, List.pairwise_map]
  constructor
  · rintro ⟨nodup, passed⟩
    refine ⟨?_, each.mpr ?_⟩
    · rw [← described, List.pairwise_map]
      exact (pairwise_place_iff served single passed).mp nodup
    · intro draw member argument
      exact (not_isReturnAt_iff argument (served draw member)).mp (passed draw member argument)
  · rintro ⟨names, returned⟩
    have passed : ∀ draw ∈ draws, draw.1.IsArgument → ¬ IsReturnAt ps draw.2 := by
      intro draw member argument
      exact (not_isReturnAt_iff argument (served draw member)).mpr (each.mp returned draw member argument)
    rw [← described, List.pairwise_map] at names
    exact ⟨(pairwise_place_iff served single passed).mpr names, passed⟩

/-- A function of one argument. -/
def totalOf : Procedure where
  name := ⟨"shop", "total"⟩
  parameters := [⟨0, .returnValue, none, "decimal", some .decimal, false⟩,
    ⟨1, .input, some "id", "int", some .int, false⟩]

theorem hasOneReturn_totalOf : totalOf.HasOneReturn := by
  rw [HasOneReturn]
  decide

/-- Parameters for it, of which the one for the return value stands behind the argument. -/
def behind : Parameters := [⟨"@id", .int 7, none, none⟩, ⟨"id", .null, some .returnValue, none⟩]

/-- The same parameters the other way round. -/
def ahead : Parameters := [⟨"id", .null, some .returnValue, none⟩, ⟨"@id", .int 7, none, none⟩]

/-- The parameters of the function, with what a caller gives for it behind the return value. -/
theorem aligned_apart_iff_behind :
    totalOf.HasOneReturn ∧ IsApart totalOf behind ∧
      totalOf.align behind = .ok
        [⟨"id", .null, some .returnValue, some .decimal⟩, ⟨"@id", .int 7, some .input, some .int⟩] ∧
      ∀ draws, IsDrawn totalOf behind
          [⟨"id", .null, some .returnValue, some .decimal⟩, ⟨"@id", .int 7, some .input, some .int⟩]
          draws →
        (draws.map Prod.snd).Nodup ∧
          ∀ draw ∈ draws, draw.1.IsArgument → ¬ IsReturnAt behind draw.2 := by
  have done : totalOf.align behind = .ok
      [⟨"id", .null, some .returnValue, some .decimal⟩, ⟨"@id", .int 7, some .input, some .int⟩] := by
    decide +kernel
  have apart : IsApart totalOf behind := by
    refine ⟨by decide +kernel, ?_⟩
    intro d member argument before p after whole returned named
    match before, whole with
    | [], whole =>
      obtain ⟨rfl, -⟩ := List.cons.inj whole
      cases returned
    | [q], whole =>
      obtain ⟨rfl, rest⟩ := List.cons.inj whole
      obtain ⟨rfl, -⟩ := List.cons.inj rest
      exact ⟨_, List.mem_singleton_self _, named⟩
    | _ :: _ :: before, whole => simp [behind] at whole
  exact ⟨hasOneReturn_totalOf, apart, done, fun draws drawn =>
    ((aligned_apart_iff hasOneReturn_totalOf done).2 draws drawn).mpr apart⟩

/-- The argument of a function can be served by what is meant for its return value: the names of its
arguments differ, the alignment succeeds, one entry of the caller's serves twice, and the value that was
given for the argument is passed nowhere. -/
theorem aligned_twice :
    totalOf.HasOneReturn ∧
      (totalOf.parameters.Pairwise fun d e =>
        d.IsArgument → e.IsArgument → d.soughtName ≠ e.soughtName) ∧
      totalOf.align ahead = .ok
        [⟨"id", .null, some .returnValue, some .decimal⟩,
          ⟨"id", .null, some .returnValue, some .int⟩] ∧
      ∀ aligned draws, IsDrawn totalOf ahead aligned draws →
        ¬ (draws.map Prod.snd).Nodup ∧
          ∃ draw ∈ draws, draw.1.IsArgument ∧ IsReturnAt ahead draw.2 := by
  refine ⟨hasOneReturn_totalOf, by decide +kernel, by decide +kernel, ?_⟩
  rintro aligned draws ⟨described, served, -⟩
  obtain ⟨⟨r, i⟩, tail, rfl, rfl, tailed⟩ := List.map_eq_cons_iff.mp described
  obtain ⟨⟨d, j⟩, rest, rfl, rfl, ended⟩ := List.map_eq_cons_iff.mp tailed
  obtain rfl := List.map_eq_nil_iff.mp ended
  obtain ⟨first, others⟩ := List.forall_mem_cons.mp served
  have second := others _ (List.mem_singleton_self _)
  have front (d : ParameterDescription) (serves : Serves d ⟨"id", .null, some .returnValue, none⟩) :
      IsServedAt ahead d 0 := ⟨⟨_, rfl, serves⟩, by simp⟩
  obtain rfl : i = 0 := first.unique (front totalOf.parameters[0] (by decide +kernel))
  obtain rfl : j = 0 := second.unique (front totalOf.parameters[1] (by decide +kernel))
  exact ⟨by simp, _, List.mem_cons_of_mem _ (List.mem_singleton_self _), by decide, _, rfl, rfl⟩

end Procedure

end SqlWire
