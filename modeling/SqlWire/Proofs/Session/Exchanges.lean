import Mathlib.Data.List.Basic
import SqlWire.Proofs.Outcome
import SqlWire.Proofs.Wire.Fields
import SqlWire.Session.Challenge

/-! # Authentication exchanges

After a client has answered a challenge it only listens, until it is let in, turned away or asked for
another response. `Exchanged` is what can be said in the meantime, one constructor for each thing that
a payload can mean. `Guarded` is what that comes to for the password: every payload of the client is
the response to the challenge that the server has just made, a challenge that may not be answered ends
the exchange, and a client is let in by a reply that says so, with the challenge it answered last.
-/

namespace SqlWire

/-- What a client hears and what it sends. -/
inductive Said where
  | heard (payload : Bytes)
  | sent (payload : Bytes)
deriving DecidableEq

namespace Challenge

/-- The challenge that a payload makes, if it asks for another response. -/
def named? (payload : Bytes) : Option Challenge :=
  match AuthSwitch.decode payload with
  | .ok request => (ofName request.plugin request.nonce).toOption
  | .error _ => none

/-- The challenges that were made on the way. -/
def madeIn (said : List Said) : List Challenge :=
  said.filterMap fun
    | .heard payload => named? payload
    | .sent _ => none

/-- A challenge that is made later is made. -/
theorem madeIn_heard {c : Challenge} {first : Said} {said : List Said}
    (made : c ∈ madeIn said) : c ∈ madeIn (first :: said) := by
  rw [madeIn, List.mem_filterMap] at made ⊢
  obtain ⟨one, member, named⟩ := made
  exact ⟨one, List.mem_cons_of_mem _ member, named⟩

theorem mem_madeIn {c : Challenge} {payload : Bytes} {said : List Said}
    (named : named? payload = some c) : c ∈ madeIn (.heard payload :: said) := by
  rw [madeIn, List.mem_filterMap]
  exact ⟨.heard payload, List.mem_cons_self, named⟩

/-- Whether a name is that of the plugin which sends the password itself, or of none that is known. A
server without plugins gives no name. -/
def IsUnanswerable (name : String) : Prop :=
  name = AuthPlugin.clearPassword.name ∨ name ≠ "" ∧ ∀ plugin : AuthPlugin, plugin.name ≠ name

/-- Whether a payload asks for what must not be said on an open connection. -/
def IsRefused (payload : Bytes) : Prop :=
  (∃ request, AuthSwitch.decode payload = .ok request ∧ IsUnanswerable request.plugin) ∨
    ∃ rest, AuthMore.decode payload = .ok ⟨AuthMore.fullAuthentication :: rest⟩

theorem ofName_of_isUnanswerable {name : String} (refused : IsUnanswerable name) (nonce : Bytes) :
    ∃ cause, ofName name nonce = .error cause := by
  obtain rfl | ⟨some, unknown⟩ := refused
  · exact ⟨_, rfl⟩
  · have native := unknown .nativePassword
    have caching := unknown .cachingSha2Password
    have clear := unknown .clearPassword
    have none : AuthPlugin.ofName name = .error (.unsupportedPlugin name) := by
      simp [AuthPlugin.ofName, some, native.symm, caching.symm, clear.symm]
    exact ⟨_, by rw [ofName, none]⟩

theorem head?_of_switch {payload : Bytes} {request : AuthSwitch}
    (read : AuthSwitch.decode payload = .ok request) : payload.head? = some Reply.eofHeader :=
  Read.head?_of_expect read

theorem head?_of_more {payload : Bytes} {more : AuthMore}
    (read : AuthMore.decode payload = .ok more) : payload.head? = some Reply.authMoreHeader :=
  Read.head?_of_expect read

theorem named?_of_head {payload : Bytes} (other : payload.head? ≠ some Reply.eofHeader) :
    named? payload = none := by
  unfold named?
  split
  · next request read => exact (other (head?_of_switch read)).elim
  · rfl

/-- What a payload is that does not end an exchange in failure. -/
theorem verdict_cases {c : Challenge} {payload : Bytes} {verdict : Verdict}
    (told : c.verdict payload = .ok verdict) :
    (∃ reply, verdict = .accepted reply ∧ payload.head? = some Reply.okHeader ∧
      OkReply.decode payload = .ok reply) ∨
    (∃ request next, verdict = .again next ∧ AuthSwitch.decode payload = .ok request ∧
      ofName request.plugin request.nonce = .ok next) ∨
    (verdict = .pending ∧ ∃ more, AuthMore.decode payload = .ok more ∧
      more.data.head? = some AuthMore.fastSuccess) := by
  unfold Challenge.verdict at told
  split at told
  · cases told
  · next header rest =>
    split_ifs at told with ok error switch more
    · rw [map_eq_pure_bind] at told
      obtain ⟨reply, read, same⟩ := Outcome.of_read told
      cases same
      exact .inl ⟨reply, rfl, congrArg some (beq_iff_eq.mp ok), read⟩
    · obtain ⟨request, read, asked⟩ := Outcome.of_read told
      obtain ⟨next, named, same⟩ := Outcome.bind_eq_ok asked
      cases same
      exact .inr (.inl ⟨request, next, rfl, read, named⟩)
    · obtain ⟨more, read, asked⟩ := Outcome.of_read told
      refine .inr (.inr ?_)
      unfold dataVerdict at asked
      split at asked
      · next b rest data =>
        split_ifs at asked with fast
        · cases asked
          exact ⟨rfl, more, read, by rw [data, List.head?_cons, beq_iff_eq.mp fast]⟩
      · cases asked

/-- A client does not go on after what must not be said on an open connection. -/
theorem not_isRefused {c : Challenge} {payload : Bytes} {verdict : Verdict}
    (told : c.verdict payload = .ok verdict) : ¬ IsRefused payload := by
  intro refused
  obtain ⟨reply, -, ok, -⟩ | ⟨request, next, -, read, named⟩ | ⟨-, more, read, fast⟩ :=
    verdict_cases told
  · obtain ⟨request, read, -⟩ | ⟨rest, read⟩ := refused
    · exact absurd (ok.symm.trans (head?_of_switch read)) (by decide)
    · exact absurd (ok.symm.trans (head?_of_more read)) (by decide)
  · obtain ⟨request', read', unanswerable⟩ | ⟨rest, read'⟩ := refused
    · cases Except.ok.inj (read.symm.trans read')
      obtain ⟨cause, failed⟩ := ofName_of_isUnanswerable unanswerable request.nonce
      cases named.symm.trans failed
    · exact absurd ((head?_of_switch read).symm.trans (head?_of_more read')) (by decide)
  · obtain ⟨request, read', -⟩ | ⟨rest, read'⟩ := refused
    · exact absurd ((head?_of_switch read').symm.trans (head?_of_more read)) (by decide)
    · cases Except.ok.inj (read.symm.trans read')
      exact absurd (Option.some.inj fast) (by decide)

theorem of_accepted {c : Challenge} {payload : Bytes} {reply : OkReply}
    (told : c.verdict payload = .ok (.accepted reply)) :
    payload.head? = some Reply.okHeader ∧ OkReply.decode payload = .ok reply := by
  obtain ⟨_, same, ok, read⟩ | ⟨_, _, wrong, _⟩ | ⟨wrong, _⟩ := verdict_cases told
  · cases same
    exact ⟨ok, read⟩
  · cases wrong
  · cases wrong

theorem named?_of_again {c next : Challenge} {payload : Bytes}
    (told : c.verdict payload = .ok (.again next)) : named? payload = some next := by
  obtain ⟨_, wrong, _⟩ | ⟨request, _, same, read, named⟩ | ⟨wrong, _⟩ := verdict_cases told
  · cases wrong
  · cases same
    rw [named?, read]
    exact congrArg Except.toOption named
  · cases wrong

theorem named?_of_pending {c : Challenge} {payload : Bytes}
    (told : c.verdict payload = .ok .pending) : named? payload = none := by
  obtain ⟨_, wrong, _⟩ | ⟨_, _, wrong, _⟩ | ⟨_, more, read, _⟩ := verdict_cases told
  · cases wrong
  · cases wrong
  · apply named?_of_head
    rw [head?_of_more read]
    decide

end Challenge

/-! ## What is said in an exchange -/

/-- What can be said after a client has answered a challenge, and the challenge with which it is let
in if it is. -/
inductive Exchanged (password : String) : Challenge → List Said → Option Challenge → Prop where
  | silence (c : Challenge) : Exchanged password c [] none
  /-- A payload that the client does not go on after. -/
  | stopped (c : Challenge) (payload : Bytes) : Exchanged password c [.heard payload] none
  | accepted {c : Challenge} {payload : Bytes} {reply : OkReply}
    (told : c.verdict payload = .ok (.accepted reply)) :
    Exchanged password c [.heard payload] (some c)
  | pending {c : Challenge} {payload : Bytes} {rest : List Said} {result : Option Challenge}
    (told : c.verdict payload = .ok .pending) (others : Exchanged password c rest result) :
    Exchanged password c (.heard payload :: rest) result
  | again {c next : Challenge} {payload : Bytes} {rest : List Said} {result : Option Challenge}
    (told : c.verdict payload = .ok (.again next)) (others : Exchanged password next rest result) :
    Exchanged password c (.heard payload :: .sent (next.response password) :: rest) result

/-- What an exchange after a first response may show of a password. -/
structure Guarded (password : String) (first : Challenge) (said : List Said)
    (result : Option Challenge) : Prop where
  /-- What the client sends is the response to the challenge that it has just heard. -/
  responses : ∀ (i : Nat) (payload : Bytes), said[i]? = some (.sent payload) →
    ∃ j request c, i = j + 1 ∧ said[j]? = some (.heard request) ∧
      Challenge.named? request = some c ∧ payload = c.response password
  /-- What must not be said on an open connection is the end of the exchange and of the session. -/
  refusals : ∀ (i : Nat) (payload : Bytes), said[i]? = some (.heard payload) →
    Challenge.IsRefused payload → i + 1 = said.length ∧ result = none
  /-- The client is let in by the last payload, for its response to the last challenge. -/
  success : ∀ c, result = some c → c = (Challenge.madeIn said).getLastD first ∧
    ∃ payload reply, said.getLast? = some (.heard payload) ∧
      payload.head? = some Reply.okHeader ∧ OkReply.decode payload = .ok reply

/-- A payload that the client only hears changes nothing of what its exchange shows. -/
theorem Guarded.heard {password : String} {first : Challenge} {said : List Said}
    {result : Option Challenge} (guarded : Guarded password first said result) {payload : Bytes}
    (unnamed : Challenge.named? payload = none) (granted : ¬ Challenge.IsRefused payload) :
    Guarded password first (.heard payload :: said) result where
  responses i p sent := by
    cases i with
    | zero => simp at sent
    | succ i =>
      obtain ⟨j, request, c, rfl, heard, named, same⟩ := guarded.responses i p (by simpa using sent)
      exact ⟨j + 1, request, c, rfl, by simpa using heard, named, same⟩
  refusals i p heard refused := by
    cases i with
    | zero =>
      simp only [List.getElem?_cons_zero, Option.some.injEq, Said.heard.injEq] at heard
      exact (granted (heard ▸ refused)).elim
    | succ i =>
      obtain ⟨last, none⟩ := guarded.refusals i p (by simpa using heard) refused
      exact ⟨by simp [last], none⟩
  success c accepted := by
    obtain ⟨last, p, reply, final, ok, read⟩ := guarded.success c accepted
    refine ⟨?_, p, reply, by simp [List.getLast?_cons, final], ok, read⟩
    rw [last, Challenge.madeIn, Challenge.madeIn, List.filterMap_cons]
    simp only [unnamed]

/-- The response to a challenge that has just been made goes on with the exchange. -/
theorem Guarded.answered {password : String} {first next : Challenge} {said : List Said}
    {result : Option Challenge} (guarded : Guarded password next said result) {payload : Bytes}
    (named : Challenge.named? payload = some next) (granted : ¬ Challenge.IsRefused payload) :
    Guarded password first (.heard payload :: .sent (next.response password) :: said) result where
  responses i p sent := by
    match i with
    | 0 => simp at sent
    | 1 =>
      simp only [List.getElem?_cons_succ, List.getElem?_cons_zero, Option.some.injEq,
        Said.sent.injEq] at sent
      exact ⟨0, payload, next, rfl, rfl, named, sent.symm⟩
    | i + 2 =>
      obtain ⟨j, request, c, rfl, heard, named, same⟩ := guarded.responses i p (by simpa using sent)
      exact ⟨j + 2, request, c, rfl, by simpa using heard, named, same⟩
  refusals i p heard refused := by
    match i with
    | 0 =>
      simp only [List.getElem?_cons_zero, Option.some.injEq, Said.heard.injEq] at heard
      exact (granted (heard ▸ refused)).elim
    | 1 => simp at heard
    | i + 2 =>
      obtain ⟨last, none⟩ := guarded.refusals i p (by simpa using heard) refused
      exact ⟨by simp [← last], none⟩
  success c accepted := by
    obtain ⟨last, p, reply, final, ok, read⟩ := guarded.success c accepted
    refine ⟨?_, p, reply, by simp [List.getLast?_cons, final], ok, read⟩
    rw [last, Challenge.madeIn, Challenge.madeIn, List.filterMap_cons]
    simp only [named, List.filterMap_cons, List.getLastD_cons]

/-- Whatever is said in an exchange, the password is guarded. -/
theorem Exchanged.guarded {password : String} {first : Challenge} {said : List Said}
    {result : Option Challenge} (exchanged : Exchanged password first said result) :
    Guarded password first said result := by
  induction exchanged with
  | silence c => exact ⟨by simp, by simp, by simp⟩
  | stopped c payload =>
    refine ⟨?_, ?_, by simp⟩
    · intro i p sent
      cases i <;> simp at sent
    · intro i p heard _
      cases i with
      | zero => simp
      | succ i => simp at heard
  | @accepted c payload reply told =>
    obtain ⟨ok, read⟩ := Challenge.of_accepted told
    have unnamed : Challenge.named? payload = none := by
      apply Challenge.named?_of_head
      rw [ok]
      decide
    refine ⟨?_, ?_, ?_⟩
    · intro i p sent
      cases i <;> simp at sent
    · intro i p heard refused
      cases i with
      | zero =>
        simp only [List.getElem?_cons_zero, Option.some.injEq, Said.heard.injEq] at heard
        exact (Challenge.not_isRefused told (heard ▸ refused)).elim
      | succ i => simp at heard
    · intro _ same
      cases same
      refine ⟨?_, payload, reply, rfl, ok, read⟩
      simp [Challenge.madeIn, unnamed]
  | pending told others ih =>
    exact ih.heard (Challenge.named?_of_pending told) (Challenge.not_isRefused told)
  | again told others ih =>
    exact ih.answered (Challenge.named?_of_again told) (Challenge.not_isRefused told)

end SqlWire
