import SqlWire.Message.Column
import SqlWire.Message.Reply
import SqlWire.Message.Row

/-! # Whole replies to a statement

A reply to a statement is one or more results. A result is an OK, an error or a table, and its status
says whether another one follows: each status but the last one does, and behind an error there is nothing
(`Reply.IsWhole`). Since each result tells its own end, no reply is the beginning of another one
(`Reply.IsWhole.eq_of_append`): payloads that are whole replies in turn are that in one way.
-/

namespace SqlWire

namespace Reply

/-- Whether a payload begins a table of some number of columns. -/
structure IsColumnCount (payload : Bytes) (count : Nat) : Prop where
  columns : 0 < count
  not_ok : payload.head? ≠ some okHeader
  not_error : payload.head? ≠ some errorHeader
  not_file : payload.head? ≠ some localFileHeader
  counts : ∃ n, Read.length.decode payload = .ok n ∧ n.toNat = count

/-- Whether a payload stands among the rows of a table. -/
def isRow (payload : Bytes) : Bool := !isEof payload && !isError payload

/-- Whether a payload ends the rows of a table, with a status or with an error. -/
inductive EndsRows : Bytes → Option Status → Prop
  | eof {payload reply} : isEof payload = true → EofReply.decode payload = .ok reply →
      EndsRows payload (some reply.status)
  | error {payload reply} : isError payload = true → ErrorReply.decode payload = .ok reply →
      EndsRows payload none

/-- Whether payloads are one result, and the status at its end; an error has none. -/
inductive IsResult : List Bytes → Option Status → Prop
  | ok {payload reply} : payload.head? = some okHeader → OkReply.decode payload = .ok reply →
      IsResult [payload] (some reply.status)
  | error {payload reply} : isError payload = true → ErrorReply.decode payload = .ok reply →
      IsResult [payload] none
  | table {head definitions middle rows last count terminator ending} : IsColumnCount head count →
      definitions.length = count →
      (∀ payload ∈ definitions, ∃ definition, ColumnDefinition.decode payload = .ok definition) →
      isEof middle = true → EofReply.decode middle = .ok terminator →
      (∀ payload ∈ rows, isRow payload = true ∧ ∃ cells, RawRow.decode count payload = .ok cells) →
      EndsRows last ending →
      IsResult (head :: (definitions ++ middle :: (rows ++ [last]))) ending

/-- Whether payloads are one reply: each result that is followed by another one says so, and the last
one says that it is the last or is an error. -/
inductive IsWhole : List Bytes → Prop
  | last {payloads ending} : IsResult payloads ending →
      (∀ status ∈ ending, status.contains .moreResults = false) → IsWhole payloads
  | more {payloads status rest} : IsResult payloads (some status) →
      status.contains .moreResults = true → IsWhole rest → IsWhole (payloads ++ rest)

theorem EndsRows.isRow_eq {payload : Bytes} {ending : Option Status}
    (ends : EndsRows payload ending) : isRow payload = false := by
  cases ends with
  | eof short => simp [isRow, short]
  | error failed => simp [isRow, failed]

theorem isEof_of_isError {payload : Bytes} (failed : isError payload = true) :
    isEof payload = false := by
  rw [isError, beq_iff_eq] at failed
  simp [isEof, failed, errorHeader, eofHeader]

theorem EndsRows.ending_eq {payload : Bytes} {s t : Option Status} (first : EndsRows payload s)
    (second : EndsRows payload t) : s = t := by
  cases first with
  | eof short read =>
    cases second with
    | eof _ read' =>
      rw [read] at read'
      cases read'
      rfl
    | error failed =>
      rw [isEof_of_isError failed] at short
      cases short
  | error failed =>
    cases second with
    | eof short =>
      rw [isEof_of_isError failed] at short
      cases short
    | error => rfl

/-- Rows end at the first payload that is none. -/
theorem rows_eq_of_append {rows others : List Bytes} {last last' : Bytes} {x y : List Bytes}
    (each : ∀ payload ∈ rows, isRow payload = true) (stop : isRow last = false)
    (each' : ∀ payload ∈ others, isRow payload = true) (stop' : isRow last' = false)
    (same : rows ++ last :: x = others ++ last' :: y) : rows = others ∧ last = last' := by
  have cut {rows : List Bytes} {last : Bytes} (each : ∀ payload ∈ rows, isRow payload = true)
      (stop : isRow last = false) (x : List Bytes) :
      (rows ++ last :: x).takeWhile isRow = rows := by
    rw [List.takeWhile_append_of_pos each, List.takeWhile_cons_of_neg (by simp [stop]),
      List.append_nil]
  obtain rfl : rows = others := by rw [← cut each stop x, same, cut each' stop' y]
  have behind := List.append_cancel_left same
  exact ⟨rfl, (List.cons.inj behind).1⟩

theorem IsColumnCount.count_eq {payload : Bytes} {m n : Nat} (first : IsColumnCount payload m)
    (second : IsColumnCount payload n) : m = n := by
  obtain ⟨a, read, rfl⟩ := first.counts
  obtain ⟨b, read', rfl⟩ := second.counts
  rw [read] at read'
  cases read'
  rfl

/-- No result is the beginning of another one, and its end is told in one way: the first byte of the first
payload tells the three kinds of results apart. -/
theorem IsResult.eq_of_append {a b x y : List Bytes} {s t : Option Status} (first : IsResult a s)
    (second : IsResult b t) (same : a ++ x = b ++ y) : a = b ∧ s = t := by
  cases first with
  | ok head read =>
    cases second with
    | ok _ read' =>
      obtain ⟨rfl, -⟩ := List.cons.inj same
      rw [read] at read'
      cases read'
      exact ⟨rfl, rfl⟩
    | error failed =>
      obtain ⟨rfl, -⟩ := List.cons.inj same
      simp [isError, head, okHeader, errorHeader] at failed
    | table count =>
      obtain ⟨rfl, -⟩ := List.cons.inj same
      exact (count.not_ok head).elim
  | error failed =>
    cases second with
    | ok head =>
      obtain ⟨rfl, -⟩ := List.cons.inj same
      simp [isError, head, okHeader, errorHeader] at failed
    | error =>
      obtain ⟨rfl, -⟩ := List.cons.inj same
      exact ⟨rfl, rfl⟩
    | table count =>
      obtain ⟨rfl, -⟩ := List.cons.inj same
      exact (count.not_error (beq_iff_eq.mp failed)).elim
  | table count length _ _ _ each ends =>
    cases second with
    | ok head =>
      obtain ⟨rfl, -⟩ := List.cons.inj same
      exact (count.not_ok head).elim
    | error failed =>
      obtain ⟨rfl, -⟩ := List.cons.inj same
      exact (count.not_error (beq_iff_eq.mp failed)).elim
    | table count' length' _ _ _ each' ends' =>
      simp only [List.cons_append, List.append_assoc, List.nil_append] at same
      obtain ⟨rfl, afterHead⟩ := List.cons.inj same
      have lengths := length.trans ((count.count_eq count').trans length'.symm)
      obtain ⟨rfl, afterDefinitions⟩ := List.append_inj afterHead lengths
      obtain ⟨rfl, afterMiddle⟩ := List.cons.inj afterDefinitions
      obtain ⟨rfl, rfl⟩ := rows_eq_of_append (fun payload member => (each payload member).1)
        ends.isRow_eq (fun payload member => (each' payload member).1) ends'.isRow_eq afterMiddle
      exact ⟨rfl, ends.ending_eq ends'⟩

/-- No reply is the beginning of another one. -/
theorem IsWhole.eq_of_append {a b x y : List Bytes} (first : IsWhole a) (second : IsWhole b)
    (same : a ++ x = b ++ y) : a = b := by
  induction first generalizing b x with
  | last result final =>
    cases second with
    | last result' => exact (result.eq_of_append result' same).1
    | more result' more =>
      rw [List.append_assoc] at same
      obtain ⟨-, rfl⟩ := result.eq_of_append result' same
      rw [final _ rfl] at more
      cases more
  | more result more _ ih =>
    rw [List.append_assoc] at same
    cases second with
    | last result' final =>
      obtain ⟨-, rfl⟩ := result.eq_of_append result' same
      rw [final _ rfl] at more
      cases more
    | more result' _ rest' =>
      rw [List.append_assoc] at same
      obtain ⟨rfl, -⟩ := result.eq_of_append result' same
      rw [ih rest' (List.append_cancel_left same)]

theorem IsResult.ne_nil {payloads : List Bytes} {ending : Option Status}
    (result : IsResult payloads ending) : payloads ≠ [] := by
  cases result <;> exact List.cons_ne_nil _ _

theorem IsWhole.ne_nil {payloads : List Bytes} (whole : IsWhole payloads) : payloads ≠ [] := by
  cases whole with
  | last result => exact result.ne_nil
  | more result => exact List.append_ne_nil_of_left_ne_nil result.ne_nil _

theorem eq_nil_of_flatten {replies : List (List Bytes)} (each : ∀ reply ∈ replies, IsWhole reply)
    (nothing : replies.flatten = []) : replies = [] := by
  cases replies with
  | nil => rfl
  | cons reply rest =>
    obtain ⟨first, -⟩ := List.forall_mem_cons.mp each
    exact (first.ne_nil (List.append_eq_nil_iff.mp nothing).1).elim

/-- Whole replies in turn are one reply only if there is one of them. -/
theorem isWhole_flatten_iff {replies : List (List Bytes)} (each : ∀ reply ∈ replies, IsWhole reply) :
    IsWhole replies.flatten ↔ replies.length = 1 := by
  constructor
  · intro whole
    cases replies with
    | nil => exact (whole.ne_nil rfl).elim
    | cons reply rest =>
      obtain ⟨first, later⟩ := List.forall_mem_cons.mp each
      have same : (reply :: rest).flatten ++ [] = reply ++ rest.flatten := List.append_nil _
      have shorter := whole.eq_of_append first same
      rw [List.flatten_cons] at shorter
      rw [eq_nil_of_flatten later (List.append_right_eq_self.mp shorter), List.length_singleton]
  · intro one
    obtain ⟨reply, rfl⟩ := List.length_eq_one_iff.mp one
    rw [List.flatten_singleton]
    exact each reply (List.mem_singleton_self reply)

end Reply

end SqlWire
