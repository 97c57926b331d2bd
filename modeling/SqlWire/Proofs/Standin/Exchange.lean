import SqlWire.Proofs.Session.Results
import SqlWire.Proofs.Standin.Service

/-! # Exchanges with a stand-in

A client sends a payload to a stand-in and receives what it replies. `Link.Brings` is the invariant on
the way: which payloads are still to be received, and which handler stands at the other end with what
number. A link on which nothing is to be received is ready for the next payload
(`Link.Brings.exchange`).
-/

namespace SqlWire

open Standin

/-- What is on its way to a channel: nothing, as the payloads have come in, or one arrival with all of
them, which is in time. A pause of the stand-in is over when it arrives. -/
inductive Channel.Gets (c : Channel) (now : Duration) (payloads : List Bytes) :
    List Arrival → Option Pause → Prop where
  | whole (holds : (c.withBudget none).Holds [] (payloads.flatMap splitPayload)) :
    Gets c now payloads [] none
  | burst {bytes : Bytes} {due : Duration} {pause : Option Pause} (nonempty : payloads ≠ [])
    (empty : c.inbox = []) (holds : (c.withBudget none).Holds bytes (payloads.flatMap splitPayload))
    (inTime : ∀ left ∈ c.budget, max now.nanos due.nanos < now.nanos + left.nanos)
    (past : ∀ p ∈ pause, p.ends.nanos ≤ due.nanos) :
    Gets c now payloads [⟨due, .zero, .data bytes⟩] pause

/-- Whether something is replied before a time is over. -/
def Standin.Reaction.IsPrompt (r : Reaction) (budget : Option Duration) : Prop :=
  r.replies ≠ [] ∧ ∀ left ∈ budget, (r.pause.getD .zero).nanos < left.nanos

namespace Link

/-- On a line to a stand-in, some payloads are to be received and nothing is on its way back. Behind
them the stand-in goes on with some handler. -/
structure Brings (l : Link) (w : World) (server : ServerConfig) (h : Handler)
    (payloads : List Bytes) : Prop where
  server : w.server = server
  peer : ∃ arrivals pause, w.Waits l.line h (h.resume (l.channel.sequencer.next +
    UInt8.ofNat (payloads.flatMap splitPayload).length)) arrivals pause ∧
      l.channel.Gets w.clock payloads arrivals pause
  inTime : ∀ left ∈ l.channel.budget, 0 < left.nanos

variable {l : Link} {w : World} {server : ServerConfig} {h : Handler}

/-- A reader that leaves nothing of what arrives, and waits until a pause is over. -/
theorem waits_advance {line : Nat} {next : UInt8} {arrivals : List Arrival} {pause : Option Pause}
    (waits : w.Waits line h next arrivals pause) (now : Duration)
    (past : ∀ p ∈ pause, p.ends.nanos ≤ now.nanos) (ended : Bool) :
    (Network.advance line ⟨[], ended⟩ now w).Waits line h next [] none ∧
      (Network.advance line ⟨[], ended⟩ now w).server = w.server := by
  obtain ⟨c, here, quiet⟩ := waits
  have left : (w.put line { c with arrivals := [] }).Waits line h next [] pause :=
    ⟨_, World.circuits_put_self here _, { quiet with arrivals := rfl }⟩
  have onward := World.onward_atMoment (w.put line { c with arrivals := [] }) now
  simp only [Network.advance, here]
  exact ⟨left.atMoment past, onward.server⟩

/-- The payloads are received one by one. -/
theorem Brings.receive {payload : Bytes} {others : List Bytes}
    (brings : l.Brings w server h (payload :: others)) :
    ∃ l' w', l.receive w = (.ok payload, l', w') ∧ l'.Brings w' server h others := by
  obtain ⟨same, ⟨arrivals, pause, waits, gets⟩, inTime⟩ := brings
  obtain ⟨c, here, quiet⟩ := id waits
  have incoming : Network.incoming l.line w = ⟨arrivals, c.handler.stage.isOver⟩ := by
    simp only [Network.incoming, here, quiet.arrivals]
  have count : UInt8.ofNat ((payload :: others).flatMap splitPayload).length =
      UInt8.ofNat (splitPayload payload).length +
        UInt8.ofNat (others.flatMap splitPayload).length := by
    simp [UInt8.ofNat_add]
  rw [count, ← UInt8.add_assoc] at waits
  cases gets with
  | whole holds =>
    rw [List.flatMap_cons] at holds
    obtain ⟨channel, got, behind, number, left⟩ :=
      Channel.read_whole holds inTime w.clock (c.handler.stage.isOver)
    rw [← number] at waits
    obtain ⟨later, kept⟩ := waits_advance waits w.clock nofun (c.handler.stage.isOver)
    refine ⟨{ l with channel }, _, ?_, kept.trans same, ⟨[], none, later, .whole behind⟩, left⟩
    simp only [Link.receive, incoming, Network.now, got]
  | @burst bytes due _ nonempty empty holds before past =>
    rw [List.flatMap_cons] at holds
    obtain ⟨channel, got, behind, number, left⟩ :=
      Channel.read_burst holds empty before (c.handler.stage.isOver)
    rw [← number] at waits
    have ended : ∀ p ∈ pause, p.ends.nanos ≤ max w.clock.nanos due.nanos :=
      fun p member => (past p member).trans (Nat.le_max_right ..)
    obtain ⟨later, kept⟩ :=
      waits_advance waits ⟨max w.clock.nanos due.nanos⟩ ended (c.handler.stage.isOver)
    refine ⟨{ l with channel }, _, ?_, kept.trans same, ⟨[], none, later, .whole behind⟩, left⟩
    simp only [Link.receive, incoming, Network.now, got]

/-- All payloads are received. -/
theorem Brings.receives {payloads : List Bytes} (brings : l.Brings w server h payloads) :
    ∃ l' w', l.Receives w payloads l' w' ∧ l'.Brings w' server h [] := by
  induction payloads generalizing l w with
  | nil => exact ⟨l, w, .none l w, brings⟩
  | cons payload others ih =>
    obtain ⟨l₁, w₁, got, brings⟩ := brings.receive
    obtain ⟨l₂, w₂, received, rests⟩ := ih brings
    exact ⟨l₂, w₂, .more got received, rests⟩

/-- How far a payload has come that a client writes: some bytes of it are left, or the stand-in has
taken it and replied. -/
def Arriving (server : ServerConfig) (line : Nat) (h : Handler) (payload : Bytes) (after : UInt8)
    (left : Bytes) (w : World) : Prop :=
  w.server = server ∧
    if left = [] then
      ∃ freshNonce pausing, w.Reacted line (h.take server freshNonce pausing payload) after
    else ∃ c, w.circuits[line]? = some c ∧ c.Hears h left payload after

theorem arriving_write {line : Nat} {payload : Bytes} {after : UInt8} (present : h.stage.isOver = false)
    (chunk left : Bytes) (w : World) (nonempty : chunk ≠ [])
    (arriving : Arriving server line h payload after (chunk ++ left) w) :
    ∃ w', Network.write line chunk w = (.ok (), w') ∧
      Arriving server line h payload after left w' := by
  obtain ⟨same, progress⟩ := arriving
  rw [if_neg (by simp [nonempty])] at progress
  obtain ⟨c, here, hears⟩ := progress
  refine ⟨w.write line chunk, rfl, (World.onward_write ..).server.trans same, ?_⟩
  by_cases last : left = []
  · rw [last, List.append_nil] at hears
    rw [if_pos last, ← same]
    exact World.write_last here nonempty present hears
  · rw [if_neg last]
    exact World.write_part here nonempty last hears

/-- The handler at the other end is ready for the packets of the next payload. -/
theorem Brings.hears (rests : l.Brings w server h [])
    (level : h.stage = .serving → l.channel.sequencer.next = 0) (payload : Bytes) :
    ∃ c, w.circuits[l.line]? = some c ∧
      c.Hears h (Packet.stream l.channel.sequencer.next (splitPayload payload)) payload
        (l.channel.sequencer.next + UInt8.ofNat (splitPayload payload).length) := by
  obtain ⟨_, ⟨arrivals, pause, ⟨c, here, quiet⟩, gets⟩, _⟩ := rests
  cases gets with
  | burst nonempty => exact (nonempty rfl).elim
  | whole holds =>
    have number : c.channel.sequencer.next = l.channel.sequencer.next := by
      rw [quiet.number, Handler.resume]
      split
      · next serving => rw [level serving]
      · simp
    have coming : c.channel.Holds (Packet.stream l.channel.sequencer.next (splitPayload payload))
        (splitPayload payload ++ []) := by
      refine ⟨quiet.channel.calm, quiet.channel.assembler, ?_⟩
      rw [quiet.channel.nil.1, number, List.nil_append, List.append_nil]
    rw [← number] at coming ⊢
    exact ⟨c, here, quiet.handler, coming.expects, quiet.arrivals, quiet.pause, quiet.stays⟩

/-- A client that has nothing to receive sends a payload, and the stand-in takes it and replies. -/
theorem Brings.send (rests : l.Brings w server h []) (present : h.stage.isOver = false)
    (level : h.stage = .serving → l.channel.sequencer.next = 0) (payload : Bytes)
    (prompt : ∀ freshNonce pausing,
      (h.take server freshNonce pausing payload).IsPrompt l.channel.budget) :
    ∃ freshNonce pausing l' w', l.send payload w = (.ok (), l', w') ∧
      l'.Brings w' server (h.take server freshNonce pausing payload).handler
        (h.take server freshNonce pausing payload).replies := by
  obtain ⟨arrivals, pause, waits, gets⟩ := rests.peer
  have arriving : Arriving server l.line h payload
      (l.channel.sequencer.next + UInt8.ofNat (splitPayload payload).length)
      (Packet.stream l.channel.sequencer.next (splitPayload payload)) w := by
    refine ⟨rests.server, ?_⟩
    rw [if_neg (by simpa using Packet.stream_splitPayload_ne_nil _ payload [])]
    exact rests.hears level payload
  cases gets with
  | burst nonempty => exact (nonempty rfl).elim
  | whole holds =>
    have outbox : l.channel.outbox = [] := holds.calm.outbox
    obtain ⟨w', sent, same, freshNonce, pausing, due, pause, rfl, waits, ends⟩ :=
      Channel.send_writes (arriving_write present) outbox rests.inTime payload arriving
    obtain ⟨nonempty, before⟩ := prompt freshNonce pausing
    refine ⟨freshNonce, pausing, { l with channel := l.channel.sent (splitPayload payload) }, w',
      by simp only [Link.send, sent], same, ⟨_, _, waits, ?_⟩, rests.inTime⟩
    have some : (h.take server freshNonce pausing payload).replies.flatMap splitPayload ≠ [] := by
      obtain ⟨reply, others, replies⟩ := List.exists_cons_of_ne_nil nonempty
      simp [replies, splitPayload_ne_nil]
    have sent := holds.sent (splitPayload payload)
    rw [Arrival.burst, if_neg some]
    refine .burst nonempty sent.nil.1 ⟨sent.calm, sent.assembler, ?_⟩ ?_ ?_
    · exact congrArg (· ++ _) sent.nil.1
    · intro left member
      have enough := before left member
      have later := rests.inTime left member
      dsimp only
      omega
    · intro p member
      rw [ends p member]

/-- A client sends a payload and receives all that the stand-in replies. -/
theorem Brings.exchange (rests : l.Brings w server h []) (present : h.stage.isOver = false)
    (level : h.stage = .serving → l.channel.sequencer.next = 0) (payload : Bytes)
    (prompt : ∀ freshNonce pausing,
      (h.take server freshNonce pausing payload).IsPrompt l.channel.budget) :
    ∃ freshNonce pausing l₁ w₁ l₂ w₂, l.send payload w = (.ok (), l₁, w₁) ∧
      l₁.Receives w₁ (h.take server freshNonce pausing payload).replies l₂ w₂ ∧
      l₂.Brings w₂ server (h.take server freshNonce pausing payload).handler [] := by
  obtain ⟨freshNonce, pausing, l₁, w₁, sent, brings⟩ := rests.send present level payload prompt
  obtain ⟨l₂, w₂, received, rests⟩ := brings.receives
  exact ⟨freshNonce, pausing, l₁, w₁, l₂, w₂, sent, received, rests⟩

/-- At the start of a command the client starts its numbers and its time again. -/
theorem Brings.restart (rests : l.Brings w server h []) (serving : h.stage = .serving)
    {budget : Option Duration} (inTime : ∀ left ∈ budget, 0 < left.nanos) :
    Brings { l with channel := (l.channel.withBudget budget).reset } w server h [] := by
  obtain ⟨same, ⟨arrivals, pause, waits, gets⟩, _⟩ := rests
  rw [Handler.resume, if_pos serving] at waits
  cases gets with
  | burst nonempty => exact (nonempty rfl).elim
  | whole holds =>
    refine ⟨same, ⟨[], none, ?_, .whole ⟨{ holds.calm with }, rfl, holds.carried⟩⟩, inTime⟩
    rwa [Handler.resume, if_pos serving]

/-- A client sends a command and receives all that the stand-in replies. -/
theorem Brings.command (rests : l.Brings w server h []) (serving : h.stage = .serving)
    {budget : Option Duration} (inTime : ∀ left ∈ budget, 0 < left.nanos) (payload : Bytes)
    (prompt : ∀ pausing, (h.takeCommand server pausing payload).IsPrompt budget) :
    ∃ pausing l₁ w₁ l₂ w₂, (l.withBudget budget).command payload w = (.ok (), l₁, w₁) ∧
      l₁.Receives w₁ (h.takeCommand server pausing payload).replies l₂ w₂ ∧
      l₂.Brings w₂ server (h.takeCommand server pausing payload).handler [] := by
  have command (freshNonce : Bytes) (pausing : List UInt32) :
      h.take server freshNonce pausing payload = h.takeCommand server pausing payload := by
    simp only [Handler.take, serving]
  obtain ⟨freshNonce, pausing, exchanged⟩ := (rests.restart serving inTime).exchange
    (by rw [serving]; rfl) (fun _ => rfl) payload fun freshNonce pausing => by
      rw [command]
      exact prompt pausing
  simp only [command] at exchanged
  exact ⟨pausing, exchanged⟩

/-- Nothing changes for a client that has nothing to receive while time passes. -/
theorem Brings.wait (rests : l.Brings w server h []) (time : Duration) :
    l.Brings (Network.wait time w) server h [] := by
  obtain ⟨same, ⟨arrivals, pause, waits, gets⟩, inTime⟩ := rests
  cases gets with
  | burst nonempty => exact (nonempty rfl).elim
  | whole holds =>
    have onward := World.onward_atMoment w ⟨w.clock.nanos + time.nanos⟩
    exact ⟨onward.server.trans same, ⟨[], none, waits.atMoment nofun, .whole holds⟩, inTime⟩

/-- A client that has nothing to receive can take any time. -/
theorem Brings.withBudget (rests : l.Brings w server h []) {budget : Option Duration}
    (inTime : ∀ left ∈ budget, 0 < left.nanos) : (l.withBudget budget).Brings w server h [] := by
  obtain ⟨same, ⟨arrivals, pause, waits, gets⟩, _⟩ := rests
  cases gets with
  | burst nonempty => exact (nonempty rfl).elim
  | whole holds => exact ⟨same, ⟨[], none, waits, .whole holds⟩, inTime⟩

theorem Brings.withoutBudget (rests : l.Brings w server h []) :
    (l.withBudget none).Brings w server h [] := by
  refine rests.withBudget ?_
  rintro _ ⟨⟩

end Link

end SqlWire
