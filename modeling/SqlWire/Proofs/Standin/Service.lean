import SqlWire.Proofs.Framing.Budget
import SqlWire.Standin.World

/-! # The stand-in at work

What a stand-in does on one connection while others do what they like. `Circuit.Waits` describes a
connection on which nothing has come in: it stays as it is whatever comes in elsewhere and however much
time passes (`World.Waits.atMoment`). `Circuit.Hears` describes one on which a payload is coming in,
in pieces that the client chooses; with the last piece the handler takes the payload, and what it
replies is on its way (`World.write_last`).
-/

namespace SqlWire

/-- The arrivals in which bodies reach a client: a single one, unless there are none. -/
def Arrival.burst (due : Duration) (next : UInt8) (bodies : List Bytes) : List Arrival :=
  if bodies = [] then [] else [⟨due, .zero, .data (Packet.stream next bodies)⟩]

namespace Standin

namespace Handler

variable (server : ServerConfig) (h : Handler)

theorem interrupts_letIn (username : String) (response : Bytes) :
    (letIn server h username response).interrupts = none := by
  unfold letIn
  split <;> rfl

theorem interrupts_takeLogin (freshNonce payload : Bytes) :
    (takeLogin server h freshNonce payload).interrupts = none := by
  unfold takeLogin
  split
  · rfl
  · split
    · rfl
    · exact interrupts_letIn ..

theorem interrupts_or_pause_answer (pausing : List UInt32) (sql : List Char) :
    (answer server h pausing sql).interrupts = none ∨ (answer server h pausing sql).pause = none := by
  unfold answer
  split
  · right
    unfold kill
    split <;> rfl
  · left
    split
    · unfold sleep
      split <;> rfl
    · dsimp only
      split <;> rfl

@[simp] theorem interrupts_noting (command : NotedCommand) (r : Reaction) :
    (noting command r).interrupts = r.interrupts := rfl

@[simp] theorem pause_noting (command : NotedCommand) (r : Reaction) :
    (noting command r).pause = r.pause := rfl

theorem interrupts_or_pause_takeCommand (pausing : List UInt32) (payload : Bytes) :
    (takeCommand server h pausing payload).interrupts = none ∨
      (takeCommand server h pausing payload).pause = none := by
  unfold takeCommand
  split
  · exact .inl rfl
  · split
    case h_7 =>
      rw [interrupts_noting, pause_noting]
      exact interrupts_or_pause_answer ..
    case h_6 =>
      left
      split
      · rfl
      · rw [interrupts_noting]
        split <;> rfl
    all_goals exact .inl rfl

/-- A reaction that interrupts a pause does not pause itself. -/
theorem interrupts_or_pause (freshNonce : Bytes) (pausing : List UInt32) (payload : Bytes) :
    (h.take server freshNonce pausing payload).interrupts = none ∨
      (h.take server freshNonce pausing payload).pause = none := by
  unfold take
  split
  · exact .inl (interrupts_takeLogin ..)
  · exact .inl (interrupts_letIn ..)
  · exact interrupts_or_pause_takeCommand ..
  all_goals exact .inl rfl

end Handler

/-- The number with which a handler goes on: each command starts with a new one. -/
def Handler.resume (h : Handler) (next : UInt8) : UInt8 := if h.stage = .serving then 0 else next

namespace Circuit

/-- A connection on which nothing of the next payload has come in: its handler, the number of the next
packet, what is on its way to the client, and its pause. -/
structure Waits (c : Circuit) (h : Handler) (next : UInt8) (arrivals : List Arrival)
    (pause : Option Pause) : Prop where
  handler : c.handler = h
  channel : c.channel.Holds [] []
  number : c.channel.sequencer.next = next
  arrivals : c.arrivals = arrivals
  pause : c.pause = pause
  stays : c.isLeft = false

/-- A connection on which a payload is coming in, of which some bytes are left, and the number of the
packet behind it. -/
structure Hears (c : Circuit) (h : Handler) (left payload : Bytes) (after : UInt8) : Prop where
  handler : c.handler = h
  channel : c.channel.Expects left payload [] after
  arrivals : c.arrivals = []
  pause : c.pause = none
  stays : c.isLeft = false

theorem pack_eq (channel : Channel) (outbox : channel.outbox = []) (budget : channel.budget = none)
    (payloads : List Bytes) (sent : Bytes) :
    pack channel payloads sent =
      (sent ++ Packet.stream channel.sequencer.next (payloads.flatMap splitPayload),
        channel.sent (payloads.flatMap splitPayload)) := by
  induction payloads generalizing channel sent with
  | nil =>
    have same : channel.sent [] = channel := by
      rw [Channel.sent, ← outbox]
      simp
    simp [pack, Packet.stream, same]
  | cons payload rest ih =>
    have first : channel.send (fun bytes sent => (.ok (), sent ++ bytes)) payload sent = _ :=
      Channel.send_push outbox budget payload sent
    have others := ih (channel.sent (splitPayload payload)) rfl budget
    simp only [pack, first, others, List.flatMap_cons, Packet.stream_append, List.append_assoc]
    simp [Channel.sent, UInt8.ofNat_add, UInt8.add_assoc]

/-- What is sent goes out behind what is on its way. -/
theorem deliver_eq {c : Circuit} (holds : c.channel.Holds [] []) (payloads : List Bytes)
    (due : Duration) :
    c.deliver payloads due = { c with
      channel := c.channel.sent (payloads.flatMap splitPayload)
      arrivals := c.arrivals ++
        Arrival.burst due c.channel.sequencer.next (payloads.flatMap splitPayload) } := by
  rw [deliver, pack_eq c.channel holds.calm.outbox holds.calm.budget, List.nil_append]
  cases payloads.flatMap splitPayload with
  | nil => simp [Packet.stream, Arrival.burst]
  | cons body rest =>
    obtain ⟨b, bytes, packets⟩ := List.exists_cons_of_ne_nil
      (Packet.stream_cons_ne_nil c.channel.sequencer.next body rest)
    simp [Arrival.burst, packets]

theorem waits_react {c : Circuit} (holds : c.channel.Holds [] []) (arrivals : c.arrivals = [])
    (stays : c.isLeft = false) (r : Reaction) (now : Duration) :
    (c.react r now).Waits r.handler
      (r.handler.resume (c.channel.sequencer.next +
        UInt8.ofNat (r.replies.flatMap splitPayload).length))
      (Arrival.burst ⟨now.nanos + (r.pause.getD .zero).nanos⟩ c.channel.sequencer.next
        (r.replies.flatMap splitPayload))
      (r.pause.map fun _ => ⟨⟨now.nanos + (r.pause.getD .zero).nanos⟩, c.channel.sequencer⟩) := by
  have delivered := deliver_eq (c := { c with handler := r.handler }) holds r.replies
    ⟨now.nanos + (r.pause.getD .zero).nanos⟩
  have sent := holds.sent (r.replies.flatMap splitPayload)
  have way : c.arrivals ++ Arrival.burst ⟨now.nanos + (r.pause.getD .zero).nanos⟩
      c.channel.sequencer.next (r.replies.flatMap splitPayload) =
        Arrival.burst ⟨now.nanos + (r.pause.getD .zero).nanos⟩ c.channel.sequencer.next
          (r.replies.flatMap splitPayload) := by
    rw [arrivals, List.nil_append]
  simp only [react, delivered]
  by_cases serving : r.handler.stage = .serving
  · simp only [Handler.resume, serving, if_true]
    exact ⟨rfl, ⟨{ sent.calm with }, rfl, sent.carried⟩, rfl, way, rfl, stays⟩
  · simp only [Handler.resume, serving, if_false]
    exact ⟨rfl, sent, rfl, way, rfl, stays⟩

/-- A connection whose pause is over. -/
theorem Waits.awake {c : Circuit} {h : Handler} {next : UInt8} {arrivals : List Arrival}
    {pause : Option Pause} (waits : c.Waits h next arrivals pause) {now : Duration}
    (past : ∀ p ∈ pause, p.ends.nanos ≤ now.nanos) : (c.awake now).Waits h next arrivals none := by
  unfold Circuit.awake
  split
  · exact { waits with pause := rfl }
  · next going =>
    cases pause with
    | none => exact waits
    | some p =>
      have ended := past p rfl
      simp [waits.pause, ended] at going

/-- Looking for a payload of which nothing has come in changes nothing. -/
theorem Waits.takePayload {c : Circuit} {h : Handler} {next : UInt8} {arrivals : List Arrival}
    {pause : Option Pause} (waits : c.Waits h next arrivals pause) :
    ∃ channel, c.channel.takePayload = (none, channel) ∧
      { c with channel }.Waits h next arrivals pause := by
  obtain ⟨readable, starved⟩ :=
    Channel.takePayload_empty { waits.channel.calm with budget := rfl } waits.channel.nil.1
  refine ⟨_, starved, { waits with channel := ⟨?_, waits.channel.assembler, waits.channel.carried⟩ }⟩
  exact { waits.channel.calm with paused := fun _ => by rw [waits.channel.nil.1]; rfl }

end Circuit

namespace World

/-- A state that payloads lead to: what the stand-in was told, the number of sessions and the moment are
the same. -/
structure Onward (w w' : World) : Prop where
  server : w'.server = w.server
  sessions : w'.sessions = w.sessions
  clock : w'.clock = w.clock

theorem Onward.refl (w : World) : w.Onward w := ⟨rfl, rfl, rfl⟩

theorem Onward.trans {w w' w'' : World} (first : w.Onward w') (later : w'.Onward w'') :
    w.Onward w'' where
  server := later.server.trans first.server
  sessions := later.sessions.trans first.sessions
  clock := later.clock.trans first.clock

theorem onward_put (w : World) (line : Nat) (c : Circuit) : w.Onward (w.put line c) := ⟨rfl, rfl, rfl⟩

theorem onward_take (w : World) (line : Nat) (c : Circuit) (payload : Bytes) :
    w.Onward (w.take line c payload) := by
  unfold take
  dsimp only
  split <;> exact ⟨rfl, rfl, rfl⟩

theorem onward_serve (line count : Nat) (w : World) : w.Onward (serve line count w) := by
  fun_induction serve line count w with
  | case4 w count c _ _ payload channel _ ih => exact (onward_take ..).trans ih
  | case5 | case6 => exact onward_put ..
  | _ => exact .refl _

theorem onward_serveAll (w : World) (line : Nat) : w.Onward (w.serveAll line) := by
  unfold serveAll
  split
  · exact onward_serve ..
  · exact .refl w

theorem onward_foldl_serveAll (lines : List Nat) (w : World) :
    w.Onward (lines.foldl serveAll w) := by
  induction lines generalizing w with
  | nil => exact .refl w
  | cons line rest ih => exact (onward_serveAll w line).trans (ih _)

theorem onward_atMoment (w : World) (now : Duration) :
    Onward { w with clock := now } (w.atMoment now) := by
  have awoken : Onward { w with clock := now }
      { w with clock := now, circuits := w.circuits.map fun c => c.awake now } := ⟨rfl, rfl, rfl⟩
  exact awoken.trans (onward_foldl_serveAll ..)

theorem onward_write (w : World) (line : Nat) (bytes : Bytes) : w.Onward (w.write line bytes) := by
  unfold write
  split
  · exact .refl w
  · exact (onward_put ..).trans (onward_serveAll ..)

theorem onward_leave (w : World) (line : Nat) : w.Onward (w.leave line) := by
  unfold leave
  split
  · exact .refl w
  · exact (onward_put ..).trans (onward_serveAll ..)

/-- Nothing of the next payload has come in on a connection. -/
def Waits (w : World) (line : Nat) (h : Handler) (next : UInt8) (arrivals : List Arrival)
    (pause : Option Pause) : Prop :=
  ∃ c, w.circuits[line]? = some c ∧ c.Waits h next arrivals pause

theorem circuits_interrupt {w : World} {line : Nat} {c : Circuit}
    (here : w.circuits[line]? = some c) (pause : c.pause = none) (target : UInt32) :
    (w.interrupt target).circuits[line]? = some c := by
  have same : c.interrupt w.clock = c := by rw [Circuit.interrupt, pause]
  simp [interrupt, here, same]

theorem circuits_put_self {w : World} {line : Nat} {c : Circuit} (here : w.circuits[line]? = some c)
    (d : Circuit) : (w.put line d).circuits[line]? = some d := by
  obtain ⟨inside, _⟩ := List.getElem?_eq_some_iff.mp here
  simp [put, inside]

theorem circuits_put_other {line other : Nat} (apart : other ≠ line) (w : World) (d : Circuit) :
    (w.put other d).circuits[line]? = w.circuits[line]? := by
  simp [put, apart]

/-- What a handler does about a payload is done on its connection. -/
theorem circuits_take {w : World} {line : Nat} {c : Circuit} (here : w.circuits[line]? = some c)
    (d : Circuit) (payload : Bytes) :
    (w.take line d payload).circuits[line]? = some
      (d.react (d.handler.take w.server (w.nonce w.nonces) w.pausing payload) w.clock) := by
  have put := circuits_put_self here
    (d.react (d.handler.take w.server (w.nonce w.nonces) w.pausing payload) w.clock)
  unfold take
  dsimp only
  split
  · next target interrupts =>
    apply circuits_interrupt put
    obtain none | none := Handler.interrupts_or_pause w.server d.handler (w.nonce w.nonces)
      w.pausing payload
    · cases none.symm.trans interrupts
    · simp [Circuit.react, none]
  · exact put

/-- What a reaction leaves on a connection: its replies on their way, numbered from some number on, and
maybe a pause until they arrive. -/
def Reacted (w : World) (line : Nat) (r : Reaction) (next : UInt8) : Prop :=
  ∃ due pause, due = Duration.mk (w.clock.nanos + (r.pause.getD .zero).nanos) ∧
    w.Waits line r.handler
      (r.handler.resume (next + UInt8.ofNat (r.replies.flatMap splitPayload).length))
      (Arrival.burst due next (r.replies.flatMap splitPayload)) pause ∧
    ∀ p ∈ pause, p.ends = due

/-- A payload that comes in on one connection does not touch another one that does not pause. -/
theorem circuits_take_other {w : World} {line other : Nat} (apart : other ≠ line) {c : Circuit}
    (here : w.circuits[line]? = some c) (pause : c.pause = none) (d : Circuit) (payload : Bytes) :
    (w.take other d payload).circuits[line]? = some c := by
  have put : (w.put other _).circuits[line]? = some c := (circuits_put_other apart w
    (d.react (d.handler.take w.server (w.nonce w.nonces) w.pausing payload) w.clock)).trans here
  unfold take
  dsimp only
  split
  · exact circuits_interrupt put pause _
  · exact put

theorem circuits_serve_other {line other : Nat} (apart : other ≠ line) (count : Nat) {w : World}
    {c : Circuit} (here : w.circuits[line]? = some c) (pause : c.pause = none) :
    (serve other count w).circuits[line]? = some c := by
  fun_induction serve other count w with
  | case4 w count d _ _ payload channel _ ih =>
    exact ih (circuits_take_other apart here pause _ payload)
  | case5 | case6 => exact (circuits_put_other apart _ _).trans here
  | _ => exact here

/-- The stand-in finds nothing on a connection on which nothing has come in. -/
theorem Waits.serve {w : World} {line : Nat} {h : Handler} {next : UInt8} {arrivals : List Arrival}
    {pause : Option Pause} (waits : w.Waits line h next arrivals pause) (count : Nat) :
    (serve line count w).Waits line h next arrivals pause := by
  obtain ⟨c, here, quiet⟩ := waits
  cases count with
  | zero => exact ⟨c, here, quiet⟩
  | succ count =>
    obtain ⟨channel, starved, still⟩ := quiet.takePayload
    have stays : ¬ c.isLeft = true := by simp [quiet.stays]
    simp only [World.serve, here, starved, if_neg stays]
    split
    · exact ⟨c, here, quiet⟩
    · exact ⟨_, circuits_put_self here _, still⟩

/-- A connection on which nothing has come in and which does not pause stays as it is, whatever comes in
elsewhere. -/
theorem Waits.serveAll {w : World} {line : Nat} {h : Handler} {next : UInt8}
    {arrivals : List Arrival} (waits : w.Waits line h next arrivals none) (other : Nat) :
    (w.serveAll other).Waits line h next arrivals none := by
  unfold World.serveAll
  split
  · by_cases same : other = line
    · rw [same]
      exact waits.serve _
    · obtain ⟨c, here, quiet⟩ := waits
      exact ⟨c, circuits_serve_other same _ here quiet.pause, quiet⟩
  · exact waits

/-- A connection whose pause is over at some moment is found as it is then. -/
theorem Waits.atMoment {w : World} {line : Nat} {h : Handler} {next : UInt8}
    {arrivals : List Arrival} {pause : Option Pause} (waits : w.Waits line h next arrivals pause)
    {now : Duration} (past : ∀ p ∈ pause, p.ends.nanos ≤ now.nanos) :
    (w.atMoment now).Waits line h next arrivals none := by
  obtain ⟨c, here, quiet⟩ := waits
  have served (lines : List Nat) (v : World) (waits : v.Waits line h next arrivals none) :
      (lines.foldl World.serveAll v).Waits line h next arrivals none := by
    induction lines generalizing v with
    | nil => exact waits
    | cons other rest ih => exact ih _ (waits.serveAll other)
  exact served _ _ ⟨c.awake now, by simp [here], quiet.awake past⟩

/-- Bytes that come in are taken in before the stand-in looks for a payload. -/
theorem write_eq {w : World} {line : Nat} {c : Circuit} (here : w.circuits[line]? = some c)
    {h : Handler} {chunk left payload : Bytes} {after : UInt8} (nonempty : chunk ≠ [])
    (hears : c.Hears h (chunk ++ left) payload after) :
    ∃ d : Circuit, w.write line chunk = World.serve line (d.channel.inbox.length + 1) (w.put line d) ∧
      d.Hears h left payload after := by
  obtain ⟨b, bytes, rfl⟩ := List.exists_cons_of_ne_nil nonempty
  obtain ⟨channel, arrived, expects⟩ := hears.channel.arrive
  refine ⟨{ c with channel }, ?_, { hears with channel := expects }⟩
  simp only [write, here, arrived, World.serveAll, circuits_put_self here]

/-- The stand-in waits for the bytes that are left of a payload. -/
theorem write_part {w : World} {line : Nat} {c : Circuit} (here : w.circuits[line]? = some c)
    {h : Handler} {chunk left payload : Bytes} {after : UInt8} (nonempty : chunk ≠ [])
    (more : left ≠ []) (hears : c.Hears h (chunk ++ left) payload after) :
    ∃ d, (w.write line chunk).circuits[line]? = some d ∧ d.Hears h left payload after := by
  obtain ⟨d, written, hears⟩ := write_eq here nonempty hears
  rw [written]
  have put := circuits_put_self here d
  obtain ⟨_, _, holds, _⟩ | ⟨channel, starved, expects, _⟩ := hears.channel.takePayload
  · exact (more holds.nil.2).elim
  · have stays : ¬ d.isLeft = true := by simp [hears.stays]
    simp only [World.serve, put, starved, if_neg stays]
    split
    · exact ⟨d, put, hears⟩
    · exact ⟨_, circuits_put_self put _, { hears with channel := expects }⟩

/-- What a handler does about a payload is left on its connection. -/
theorem reacted_take {w : World} {line : Nat} {c d : Circuit} (here : w.circuits[line]? = some c)
    (holds : d.channel.Holds [] []) (arrivals : d.arrivals = []) (stays : d.isLeft = false)
    (payload : Bytes) :
    (w.take line d payload).Reacted line
      (d.handler.take w.server (w.nonce w.nonces) w.pausing payload) d.channel.sequencer.next := by
  have waits := Circuit.waits_react holds arrivals stays
    (d.handler.take w.server (w.nonce w.nonces) w.pausing payload) w.clock
  have moment : (w.take line d payload).clock = w.clock := (onward_take ..).clock
  refine ⟨_, _, ?_, ⟨_, circuits_take here d payload, waits⟩, ?_⟩
  · rw [moment]
  · intro p member
    obtain ⟨_, _, rfl⟩ := Option.map_eq_some_iff.mp member
    rfl

theorem Reacted.serve {w : World} {line : Nat} {r : Reaction} {next : UInt8}
    (reacted : w.Reacted line r next) (count : Nat) :
    (World.serve line count w).Reacted line r next := by
  have moment : (World.serve line count w).clock = w.clock := (onward_serve ..).clock
  obtain ⟨due, pause, same, waits, ends⟩ := reacted
  exact ⟨due, pause, by rw [moment, same], waits.serve count, ends⟩

/-- With the last bytes of a payload its handler takes it, and what it replies is on its way. -/
theorem write_last {w : World} {line : Nat} {c : Circuit} (here : w.circuits[line]? = some c)
    {h : Handler} {chunk payload : Bytes} {after : UInt8} (nonempty : chunk ≠ [])
    (present : h.stage.isOver = false) (hears : c.Hears h chunk payload after) :
    ∃ freshNonce pausing,
      (w.write line chunk).Reacted line (h.take w.server freshNonce pausing payload) after := by
  obtain ⟨d, written, hears⟩ := write_eq here nonempty (by rwa [List.append_nil])
  obtain rfl : d.handler = h := hears.handler
  have put := circuits_put_self here d
  obtain ⟨channel, taken, holds, rfl⟩ | ⟨_, _, _, more⟩ := hears.channel.takePayload
  · have attentive : d.isAttentive = true := by simp [Circuit.isAttentive, hears.pause, present]
    have reacted := reacted_take (d := { d with channel }) put holds hears.arrivals hears.stays
      payload
    refine ⟨w.nonce w.nonces, (w.put line d).pausing, ?_⟩
    simp only [written, World.serve, put, taken, attentive, Bool.not_true, Bool.false_eq_true,
      if_false]
    exact reacted.serve _
  · exact (more rfl).elim

end World

end Standin

end SqlWire
