import SqlWire.Proofs.Session.Calls

/-! # Counting affected rows

A server tells with each result without a table how many rows a statement has affected, on a counter
of 64 bits. What an answer tells in all is read off its payloads, as what is owed is
(`Exchange.affected`), and it has no bound. A session adds the counters up on a counter of 64 bits
again: `Call.count_affected` says that this is the sum but for multiples of 2 ^ 64, and so the sum
itself just if it is below that; `execute_overflows` is an answer to which it is not.
-/

namespace SqlWire

namespace Owed

/-- How many rows a payload says have been affected, if it has a counter of them. -/
def counter? : Owed → Bytes → Option UInt64
  | result, header :: rest =>
    if header == Reply.okHeader then
      (OkReply.decode (header :: rest)).toOption.map OkReply.affectedRows
    else none
  | _, _ => none

/-- The counters of affected rows in the payloads of an answer. -/
def counters : Owed → List Bytes → List UInt64
  | _, [] => []
  | owed, payload :: rest =>
    (owed.counter? payload).toList ++ (owed.after? payload).elim [] fun next => next.counters rest

theorem counters_concat {owed next : Owed} {answer : List Bytes}
    (known : answer.foldlM after? owed = some next) (payload : Bytes) :
    owed.counters (answer ++ [payload]) = owed.counters answer ++ (next.counter? payload).toList := by
  induction answer generalizing owed with
  | nil =>
    cases known
    cases after : next.after? payload <;> simp [counters, after]
  | cons first rest ih =>
    obtain ⟨between, after, others⟩ := Option.bind_eq_some_iff.mp known
    simp only [List.cons_append, counters, after, Option.elim_some, ih others, List.append_assoc]

end Owed

/-- How many rows have been affected according to an answer. -/
def Exchange.affected (e : Exchange) : Nat :=
  (((Owed.ofCommand e.command).counters e.answer).map UInt64.toNat).sum

theorem Exchange.affected_heard {e : Exchange} {owed : Owed} (known : e.owed? = some owed)
    (payload : Bytes) : (e.heard payload).affected =
      e.affected + ((owed.counter? payload).toList.map UInt64.toNat).sum := by
  simp only [affected, heard, Owed.counters_concat known, List.map_append, List.sum_append]

namespace ResultSet

/-- How many rows some results say have been affected. -/
def affectedIn (results : List ResultSet) : Nat :=
  (results.map fun result => result.affectedRows.toNat).sum

theorem affectedIn_concat (results : List ResultSet) (result : ResultSet) :
    affectedIn (results ++ [result]) = affectedIn results + result.affectedRows.toNat := by
  simp [affectedIn]

/-- A counter of 64 bits starts anew after 2 ^ 64 rows. -/
theorem toNat_totalAffected (results : List ResultSet) :
    (totalAffected results).toNat = affectedIn results % 2 ^ 64 := by
  induction results using List.reverseRecOn with
  | nil => rfl
  | append_singleton results result ih =>
    rw [totalAffected, List.foldl_concat, UInt64.toNat_add, affectedIn_concat]
    rw [totalAffected] at ih
    omega

end ResultSet

namespace AnswerReader

open ResultSet

theorem results_finish (r : AnswerReader) (result : ResultSet) :
    (r.finish result).1.results = r.results ++ [result] := rfl

/-- A table counts nothing. -/
theorem affectedRows_tableResult {columns : List ColumnDefinition} {cells : List RawRow}
    {warnings : UInt16} {result : ResultSet}
    (made : tableResult columns cells warnings = .ok result) : result.affectedRows = 0 := by
  unfold tableResult at made
  cases read : cells.mapM (Row.ofCells columns) with
  | error cause =>
    rw [read] at made
    cases made
  | ok rows =>
    rw [read] at made
    cases made
    rfl

private theorem affectedIn_stepHead (r : AnswerReader) (payload : Bytes)
    (going : ∀ cause, (r.stepHead payload).2 ≠ .failed cause) :
    affectedIn (r.stepHead payload).1.results =
      affectedIn r.results + ((Owed.result.counter? payload).toList.map UInt64.toNat).sum := by
  fun_cases stepHead r payload with
  | case1 => simp [stepHead] at going
  | case2 header rest ok cause bad => simp [stepHead, ok, bad] at going
  | case3 header rest ok reply good =>
    simp [results_finish, affectedIn_concat, Owed.counter?, ok, good, Except.toOption, plainResult]
  | case4 header rest other error => simp [stepHead, other, error] at going
  | case5 header rest other noError file =>
    simp [Owed.counter?, other]
  | case6 header rest other noError noFile cause bad =>
    simp [stepHead, other, noError, noFile, bad] at going
  | case7 header rest other noError noFile count good =>
    simp [Owed.counter?, other, good]

private theorem affectedIn_stepRows (r : AnswerReader) (columns : List ColumnDefinition)
    (known : List RawRow) (payload : Bytes)
    (going : ∀ cause, (r.stepRows columns known payload).2 ≠ .failed cause) :
    affectedIn (r.stepRows columns known payload).1.results = affectedIn r.results := by
  fun_cases stepRows r columns known payload with
  | case1 ended cause bad => simp [stepRows, ended, bad] at going
  | case2 ended reply good told cause bad => simp_all [stepRows]
  | case3 ended reply good told result table =>
    rw [results_finish, affectedIn_concat, affectedRows_tableResult table]
    rfl
  | case4 noEnd error => simp [stepRows, noEnd, error] at going
  | case5 noEnd noError cause bad => simp [stepRows, noEnd, noError, bad] at going
  | case6 noEnd noError cells good => rfl

/-- The results that a reader has grow by what its payload counts. -/
theorem affectedIn_step (r : AnswerReader) (payload : Bytes)
    (going : ∀ cause, (r.step payload).2 ≠ .failed cause) :
    affectedIn (r.step payload).1.results =
      affectedIn r.results + ((r.place.owed.counter? payload).toList.map UInt64.toNat).sum := by
  unfold step at going ⊢
  cases place : r.place with
  | head => exact affectedIn_stepHead r payload (by simpa only [place] using going)
  | columns missing known =>
    have same : (r.stepColumns missing known payload).1.results = r.results := by
      fun_cases stepColumns r missing known payload <;> rfl
    rw [same]
    rfl
  | rows columns known =>
    exact affectedIn_stepRows r columns known payload (by simpa only [place] using going)

end AnswerReader

namespace Session

open ResultSet

/-- How a session that has sent a statement stands to the counters in the answer. -/
def Counting (log : List Exchange) : Session × Turn → Prop
  | (_, .command payload pending) => log = [] ∧ payload.head? = some Command.query.tag ∧
    ∃ status, pending = .answer (.start status)
  | (_, .reply _ pending) | (_, .wait pending) => ∃ e r, log = [e] ∧ pending = .answer r ∧
    e.owed? = some r.place.owed ∧ e.affected = affectedIn r.results
  | (_, .finished outcome) => ∀ results, outcome = .ok results →
    ∃ e, log = [e] ∧ e.IsComplete ∧ e.affected = affectedIn results

theorem counting_take {s : Session} {r : AnswerReader} {e : Exchange}
    (owed : e.owed? = some r.place.owed) (counted : e.affected = affectedIn r.results)
    (payload : Bytes) : Counting [e.heard payload] (s.take payload (.answer r)) := by
  have known := r.after?_step payload
  have grown := r.affectedIn_step payload
  rw [← Exchange.owed?_heard owed] at known
  rw [← counted, ← Exchange.affected_heard owed] at grown
  simp only [take]
  generalize r.step payload = taken at known grown ⊢
  obtain ⟨next, step⟩ := taken
  cases step with
  | more | decline => exact ⟨_, next, rfl, rfl, known rfl, (grown (by simp)).symm⟩
  | complete =>
    rintro results ⟨⟩
    exact ⟨_, rfl, known rfl, (grown (by simp)).symm⟩
  | failed cause =>
    intro _ failed
    cases failed

variable {ω : Type} [Network ω]

theorem follow_counting (turns : Nat) (x : Session × Turn) (w : ω) (log : List Exchange)
    (counting : Counting log x) :
    Counting (transcript turns x w log)
      ((follow turns x w).2.1, .finished (follow turns x w).1) := by
  refine follow_invariant ?sent ?replied ?told ?lost ?late ?closing turns x w log counting
  case sent =>
    rintro log s payload pending link ⟨rfl, tagged, status, rfl⟩
    refine ⟨_, _, rfl, rfl, ?_, rfl⟩
    simp [AnswerReader.start, AnswerPlace.owed, Owed.ofCommand, tagged]
  case replied =>
    intro _ _ _ _ _ counting
    exact counting
  case told =>
    rintro _ s pending payload link ⟨e, r, rfl, rfl, owed, counted⟩
    exact counting_take (s := { s with link }) owed counted payload
  case lost =>
    intro _ _ _ _ _ _ _ failed
    cases failed
  case late =>
    intro _ _ _ _ _ _ failed
    cases failed
  case closing =>
    intro _ _ _ counting
    exact counting

/-- How many rows a call says have been affected, if it is one that counts them. -/
def Call.count? (s : Session) (w : ω) : Call → Option (Except ClientError UInt64)
  | .execute sql => some (s.execute sql w).1
  | .executeWith sql ps => some (s.executeWith sql ps w).1
  | _ => none

/-- A call that counts rows asks for a statement and adds up what its results say. -/
theorem Call.asked_of_count {c : Call} {s : Session} {w : ω} {total : UInt64}
    (counted : c.count? s w = some (.ok total)) :
    ∃ payload results, c.request s = .ok (.statement payload) ∧
      payload.head? = some Command.query.tag ∧
      (s.ask (.statement payload) w).1 = .ok results ∧ totalAffected results = total := by
  have added (payload : Bytes)
      (given : (s.runPayload (.ok payload) (.ok ∘ totalAffected) w).1 = .ok total) :
      ∃ results, (s.ask (.statement payload) w).1 = .ok results ∧
        totalAffected results = total := by
    cases outcome : (s.ask (.statement payload) w).1 with
    | error cause => simp [runPayload, outcome, Except.bind] at given
    | ok results => exact ⟨results, rfl, by simpa [runPayload, outcome, Except.bind] using given⟩
  cases c with
  | execute sql =>
    obtain ⟨results, given, sum⟩ := added _ (Option.some.inj counted)
    exact ⟨_, results, rfl, rfl, given, sum⟩
  | executeWith sql ps =>
    cases made : s.bind sql ps with
    | error cause =>
      simp [count?, Session.executeWith, made, runPayload] at counted
    | ok payload =>
      obtain ⟨results, given, sum⟩ := added payload (by
        simpa only [count?, Session.executeWith, made, Option.some.injEq] using counted)
      exact ⟨payload, results, by simp [request, made, Except.map], head?_bind made, given, sum⟩
  | _ => cases counted

/-- A count of affected rows is the sum of the counters in the complete answer to the one statement
that was sent, but for multiples of 2 ^ 64; so it is the sum just if the sum is below that. -/
theorem Call.count_affected {c : Call} {s : Session} {w : ω} {total : UInt64}
    (counted : c.count? s w = some (.ok total)) :
    ∃ e, c.exchanges s w = [e] ∧ e.IsComplete ∧ total.toNat = e.affected % 2 ^ 64 ∧
      (total.toNat = e.affected ↔ e.affected < 2 ^ 64) := by
  obtain ⟨payload, results, asked, tagged, given, rfl⟩ := asked_of_count counted
  have start : Counting [] (s.begin (.statement payload)) := by
    by_cases idle : s.state = .connected
    · simp only [begin, command, idle]
      exact ⟨rfl, tagged, s.status, rfl⟩
    · rw [begin_refused idle]
      intro _ refused
      cases refused
  obtain ⟨e, exchanged, complete, affected⟩ :=
    follow_counting patience _ w [] start results given
  refine ⟨e, by simpa only [exchanges, asked] using exchanged, complete, ?_⟩
  rw [toNat_totalAffected, affected]
  omega

/-- An answer of two results without a table that tell how many rows each has affected. -/
def countedAnswer (first last : UInt64) : List Bytes :=
  [OkReply.encode ⟨first, 0, .union .autocommit .moreResults, 0, ""⟩,
    OkReply.encode ⟨last, 0, .autocommit, 0, ""⟩]

theorem count_affected_exact :
    (Call.execute "a;b").count? (fresh "8.0.36") (Scripted.ofAnswers [countedAnswer 5 7]) =
        some (.ok 12) ∧
      ∃ e, (Call.execute "a;b").exchanges (fresh "8.0.36")
        (Scripted.ofAnswers [countedAnswer 5 7]) = [e] ∧ e.IsComplete ∧
        (12 : UInt64).toNat = e.affected % 2 ^ 64 ∧
        ((12 : UInt64).toNat = e.affected ↔ e.affected < 2 ^ 64) := by
  have counted : (Call.execute "a;b").count? (fresh "8.0.36")
      (Scripted.ofAnswers [countedAnswer 5 7]) = some (.ok 12) := by decide +kernel
  exact ⟨counted, Call.count_affected counted⟩

/-- Two results of 2 ^ 64 - 1 rows and of one: the total is none. -/
theorem execute_overflows :
    ∃ (s : Session) (w : Scripted), (s.execute "a;b" w).1 = .ok 0 ∧
      ((Call.execute "a;b").exchanges s w).map Exchange.affected = [2 ^ 64] := by
  refine ⟨fresh "8.0.36", Scripted.ofAnswers [countedAnswer 0xffffffffffffffff 1], ?_, ?_⟩
  · decide +kernel
  · decide +kernel

end Session

end SqlWire
