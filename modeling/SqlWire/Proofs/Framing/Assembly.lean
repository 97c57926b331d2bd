import Mathlib.Data.List.ReduceOption
import SqlWire.Proofs.Framing.Packets

/-! # Payloads from bodies and back

The bodies of a payload are a run: some of the greatest length, and then a shorter one. Splitting a
payload gives the run of which it consists, and there is no other (`splitPayload_flatten`).

An assembler that starts without bodies answers the last body of each run with the payload of the run,
and every other body with nothing; what it has at the end are the bodies behind the last run
(`Assembler.pushAll_of_isCut`). Any bodies that packets can carry are cut into runs in one way
(`exists_isCut`, `IsCut.unique`), so that this says what an assembler does with all of them
(`Assembler.pushAll_runs`).
-/

namespace SqlWire

/-- Whether bodies are those of one payload. -/
def IsRun (bodies : List Bytes) : Prop :=
  ∃ full last, bodies = full ++ [last] ∧ (∀ body ∈ full, body.length = maxBody) ∧
    last.length < maxBody

theorem IsRun.single {body : Bytes} (short : body.length < maxBody) : IsRun [body] :=
  ⟨[], body, rfl, by simp, short⟩

theorem IsRun.cons {body : Bytes} {rest : List Bytes} (full : body.length = maxBody)
    (run : IsRun rest) : IsRun (body :: rest) := by
  obtain ⟨front, last, rfl, fulls, short⟩ := run
  exact ⟨body :: front, last, rfl, List.forall_mem_cons.mpr ⟨full, fulls⟩, short⟩

/-- A payload is split into a run, of which it consists. -/
theorem isRun_splitPayload (payload : Bytes) :
    IsRun (splitPayload payload) ∧ (splitPayload payload).flatten = payload := by
  fun_induction splitPayload payload with
  | case1 payload short => exact ⟨.single short, List.flatten_singleton⟩
  | case2 payload long parts ih =>
    have front : parts.1 = payload.take maxBody := by simp [parts]
    have rest : parts.2 = payload.drop maxBody := by simp [parts]
    refine ⟨.cons ?_ ih.1, ?_⟩
    · rw [front, List.length_take]
      omega
    · rw [List.flatten_cons, ih.2, front, rest, List.take_append_drop]

/-- The payload of a run is split into the run. -/
theorem splitPayload_flatten {bodies : List Bytes} (run : IsRun bodies) :
    splitPayload bodies.flatten = bodies := by
  obtain ⟨full, last, rfl, fulls, short⟩ := run
  induction full with
  | nil => rw [List.nil_append, List.flatten_singleton, splitPayload, dif_pos short]
  | cons body rest ih =>
    obtain ⟨first, others⟩ := List.forall_mem_cons.mp fulls
    rw [List.cons_append, List.flatten_cons, splitPayload, dif_neg]
    · simp only [List.splitAt_eq, List.take_left' first, List.drop_left' first, ih others]
    · rw [List.length_append]
      omega

/-- Bodies cut into runs, and the bodies behind the last of them. -/
structure IsCut (bodies : List Bytes) (runs : List (List Bytes)) (tail : List Bytes) : Prop where
  joined : runs.flatten ++ tail = bodies
  runs : ∀ run ∈ runs, IsRun run
  tail : ∀ body ∈ tail, body.length = maxBody

/-- Bodies that packets can carry can be cut into runs: one of the greatest length belongs to the run
behind it, if there is one. -/
theorem exists_isCut {bodies : List Bytes} (fits : ∀ body ∈ bodies, body.length ≤ maxBody) :
    ∃ runs tail, IsCut bodies runs tail := by
  induction bodies with
  | nil => exact ⟨[], [], rfl, by simp, by simp⟩
  | cons body rest ih =>
    obtain ⟨fit, others⟩ := List.forall_mem_cons.mp fits
    obtain ⟨runs, tail, rfl, isRun, full⟩ := ih others
    by_cases short : body.length < maxBody
    · exact ⟨[body] :: runs, tail, rfl, List.forall_mem_cons.mpr ⟨.single short, isRun⟩, full⟩
    · have longest : body.length = maxBody := by omega
      cases runs with
      | nil => exact ⟨[], body :: tail, rfl, isRun, List.forall_mem_cons.mpr ⟨longest, full⟩⟩
      | cons run runs =>
        obtain ⟨first, later⟩ := List.forall_mem_cons.mp isRun
        exact ⟨(body :: run) :: runs, tail, rfl,
          List.forall_mem_cons.mpr ⟨.cons longest first, later⟩, full⟩

namespace Assembler

/-- Takes in bodies one after the other; gives what each of them completes. -/
def pushAll (a : Assembler) : List Bytes → List (Option Bytes) × Assembler
  | [] => ([], a)
  | body :: rest =>
    let (payload, a) := a.push body
    let (payloads, a) := a.pushAll rest
    (payload :: payloads, a)

/-- Takes in a body; one that is a whole payload goes past what is kept. -/
def pushPast (a : Assembler) (body : Bytes) : Option Bytes × Assembler :=
  if a.count == 0 && body.length != maxBody then (some body, a)
  else
    let kept : Assembler := ⟨a.buffer ++ body, a.count + 1⟩
    if body.length == maxBody then (none, kept) else (some kept.buffer, ⟨[], 0⟩)

/-- To go past what is kept makes no difference where nothing is kept without a body. -/
theorem pushPast_eq {a : Assembler} (tidy : a.count = 0 → a.buffer = []) (body : Bytes) :
    a.pushPast body = a.push body := by
  obtain ⟨buffer, count⟩ := a
  unfold pushPast push
  cases full : body.length == maxBody with
  | true => simp [full, bne]
  | false =>
    cases count with
    | zero =>
      obtain rfl : buffer = [] := tidy rfl
      simp [full, bne, empty]
    | succ count => simp [full, bne, empty]

theorem push_full (a : Assembler) {body : Bytes} (full : body.length = maxBody) :
    a.push body = (none, ⟨a.buffer ++ body, a.count + 1⟩) := by
  simp [push, full]

theorem push_short (a : Assembler) {body : Bytes} (short : body.length < maxBody) :
    a.push body = (some (a.buffer ++ body), empty) := by
  have last : (body.length == maxBody) = false := by
    rw [beq_eq_false_iff_ne]
    omega
  simp [push, last]

theorem pushAll_append (a : Assembler) (first rest : List Bytes) :
    a.pushAll (first ++ rest) = ((a.pushAll first).1 ++ ((a.pushAll first).2.pushAll rest).1,
      ((a.pushAll first).2.pushAll rest).2) := by
  induction first generalizing a with
  | nil => rfl
  | cons body others ih => simp only [List.cons_append, pushAll, ih]

/-- Bodies of the greatest length complete nothing, and the assembler keeps them. -/
theorem pushAll_full (a : Assembler) {bodies : List Bytes}
    (full : ∀ body ∈ bodies, body.length = maxBody) :
    a.pushAll bodies = (List.replicate bodies.length none,
      ⟨a.buffer ++ bodies.flatten, a.count + bodies.length⟩) := by
  induction bodies generalizing a with
  | nil => simp [pushAll]
  | cons body rest ih =>
    obtain ⟨first, others⟩ := List.forall_mem_cons.mp full
    rw [pushAll, push_full a first]
    simp only [ih _ others, List.length_cons, List.replicate_succ, List.flatten_cons,
      List.append_assoc]
    rw [Nat.add_right_comm, Nat.add_assoc]

/-- What the bodies of a run complete: all but the last nothing, and the last the payload. -/
def answers (run : List Bytes) : List (Option Bytes) :=
  List.replicate (run.length - 1) none ++ [some run.flatten]

theorem reduceOption_answers (run : List Bytes) : (answers run).reduceOption = [run.flatten] := by
  simp [answers, List.reduceOption_append, List.reduceOption_replicate_none]

/-- The last body of a run completes its payload, and the assembler is empty again. -/
theorem pushAll_isRun {run : List Bytes} (isRun : IsRun run) :
    empty.pushAll run = (answers run, empty) := by
  obtain ⟨full, last, rfl, fulls, short⟩ := isRun
  rw [pushAll_append, pushAll_full empty fulls]
  simp only [pushAll, push_short _ short]
  simp [answers, empty]

/-- An assembler answers each run with its payload, and keeps the bodies behind the last run. -/
theorem pushAll_of_isCut {bodies : List Bytes} {runs : List (List Bytes)} {tail : List Bytes}
    (cut : IsCut bodies runs tail) :
    empty.pushAll bodies = (runs.flatMap answers ++ List.replicate tail.length none,
      ⟨tail.flatten, tail.length⟩) := by
  obtain ⟨rfl, isRun, full⟩ := cut
  induction runs with
  | nil =>
    rw [List.flatten_nil, List.nil_append, pushAll_full empty full]
    simp [empty]
  | cons run runs ih =>
    obtain ⟨first, later⟩ := List.forall_mem_cons.mp isRun
    rw [List.flatten_cons, List.append_assoc, pushAll_append, pushAll_isRun first, ih later]
    simp only [List.flatMap_cons, List.append_assoc]

/-- The payloads that an assembler gives are those of the runs. -/
theorem reduceOption_pushAll {bodies : List Bytes} {runs : List (List Bytes)} {tail : List Bytes}
    (cut : IsCut bodies runs tail) :
    (empty.pushAll bodies).1.reduceOption = runs.map List.flatten := by
  rw [pushAll_of_isCut cut]
  simp only [List.reduceOption_append, List.reduceOption_replicate_none, List.append_nil]
  clear cut
  induction runs with
  | nil => rfl
  | cons run runs ih =>
    rw [List.flatMap_cons, List.reduceOption_append, reduceOption_answers, ih]
    rfl

end Assembler

/-- The runs are what their payloads are split into. -/
theorem IsCut.map_splitPayload {bodies : List Bytes} {runs : List (List Bytes)} {tail : List Bytes}
    (cut : IsCut bodies runs tail) : (runs.map List.flatten).map splitPayload = runs := by
  rw [List.map_map]
  exact (List.map_congr_left fun run member => splitPayload_flatten (cut.runs run member)).trans
    (List.map_id _)

/-- Bodies are cut into runs in one way: the assembler tells the payloads, and these their runs. -/
theorem IsCut.unique {bodies : List Bytes} {runs others : List (List Bytes)} {tail rest : List Bytes}
    (cut : IsCut bodies runs tail) (other : IsCut bodies others rest) :
    others = runs ∧ rest = tail := by
  have payloads : others.map List.flatten = runs.map List.flatten := by
    rw [← Assembler.reduceOption_pushAll cut, Assembler.reduceOption_pushAll other]
  have same : others = runs := by
    rw [← other.map_splitPayload, payloads, cut.map_splitPayload]
  subst same
  exact ⟨rfl, List.append_cancel_left (other.joined.trans cut.joined.symm)⟩

namespace Assembler

/-- What an assembler makes of bodies that have been cut into runs. -/
structure Assembles (bodies : List Bytes) (runs : List (List Bytes)) (tail : List Bytes) : Prop where
  cut : IsCut bodies runs tail
  /-- There is no other way to cut them. -/
  unique : ∀ others rest, IsCut bodies others rest → others = runs ∧ rest = tail
  /-- The last body of each run is answered with the payload, and every other body with nothing. -/
  answers : (empty.pushAll bodies).1 = runs.flatMap answers ++ List.replicate tail.length none
  payloads : (empty.pushAll bodies).1.reduceOption = runs.map List.flatten
  buffer : (empty.pushAll bodies).2.buffer = tail.flatten
  count : (empty.pushAll bodies).2.count = tail.length
  isPartial : (empty.pushAll bodies).2.isPartial = true ↔ tail ≠ []
  /-- Each payload is split into the bodies that it came from. -/
  split : (empty.pushAll bodies).1.reduceOption.map splitPayload = runs
  /-- A next body may go past what is kept if it is a whole payload. -/
  past : ∀ body, (empty.pushAll bodies).2.pushPast body = (empty.pushAll bodies).2.push body

theorem assembles {bodies : List Bytes} {runs : List (List Bytes)} {tail : List Bytes}
    (cut : IsCut bodies runs tail) : Assembles bodies runs tail := by
  have pushed := pushAll_of_isCut cut
  have payloads := reduceOption_pushAll cut
  refine ⟨cut, fun _ _ other => cut.unique other, by rw [pushed], payloads, by rw [pushed],
    by rw [pushed], ?_, by rw [payloads, cut.map_splitPayload], ?_⟩
  · rw [pushed]
    simp [isPartial, List.length_pos_iff]
  · rw [pushed]
    refine pushPast_eq fun none => ?_
    rw [List.eq_nil_of_length_eq_zero none, List.flatten_nil]

/-- Splitting and assembling undo each other. A payload is split into bodies of the greatest length
and a shorter last one, of which it consists, and an assembler gives nothing for all of them but the
last, for which it gives the payload. And whatever bodies packets carry are the runs of some payloads
with the beginning of another one behind them: the assembler gives these payloads, each with its
last body, it has the bodies of the beginning at the end, and each payload is split into its run. -/
theorem pushAll_runs :
    (∀ payload : Bytes, (splitPayload payload).flatten = payload ∧ IsRun (splitPayload payload) ∧
      empty.pushAll (splitPayload payload) =
        (List.replicate ((splitPayload payload).length - 1) none ++ [some payload], empty)) ∧
    ∀ bodies : List Bytes, (∀ body ∈ bodies, body.length ≤ maxBody) →
      ∃ runs tail, Assembles bodies runs tail := by
  constructor
  · intro payload
    obtain ⟨isRun, joined⟩ := isRun_splitPayload payload
    refine ⟨joined, isRun, ?_⟩
    rw [pushAll_isRun isRun, answers, joined]
  · intro bodies fits
    obtain ⟨runs, tail, cut⟩ := exists_isCut fits
    exact ⟨runs, tail, assembles cut⟩

/-- A short payload, one in two bodies, and the first body of another. -/
theorem pushAll_runs_begun :
    let full : Bytes := List.replicate maxBody 7
    (∀ body ∈ [[1], full, [2], full], body.length ≤ maxBody) ∧
      (empty.pushAll [[1], full, [2], full]).1 = [some [1], none, some (full ++ [2]), none] ∧
      (empty.pushAll [[1], full, [2], full]).2.count = 1 ∧
      splitPayload (full ++ [2]) = [full, [2]] := by
  intro full
  have longest : full.length = maxBody := List.length_replicate
  generalize full = full at longest
  have one : ∀ b : UInt8, [b].length < maxBody := fun b => by simp [maxBody]
  have fits : ∀ body ∈ [[1], full, [2], full], body.length ≤ maxBody := by
    simp [longest, maxBody]
  have cut : IsCut [[1], full, [2], full] [[[1]], [full, [2]]] [full] :=
    ⟨rfl, by simp [IsRun.single (one _), IsRun.cons longest (.single (one _))], by simp [longest]⟩
  obtain ⟨runs, tail, made⟩ := pushAll_runs.2 _ fits
  obtain ⟨rfl, rfl⟩ := made.unique _ _ cut
  have split := made.split
  rw [made.payloads] at split
  simp only [List.map_cons, List.map_nil, List.flatten_cons, List.flatten_nil, List.append_nil,
    List.cons.injEq] at split
  refine ⟨fits, made.answers.trans ?_, made.count, split.2.1⟩
  simp [answers]

end Assembler

end SqlWire
