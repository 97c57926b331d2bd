import SqlWire.Proofs.Session.Use
import SqlWire.Proofs.Standin.Service
import SqlWire.Session.Unreachable

/-! # Numbers of sessions

A network numbers the sessions that are opened on it and gives no number twice. Other numbers may be
used up at any moment, since others open sessions too; none is ever taken back. `NumberedNetwork`
asks this of each operation of a network, and the lemmas here carry it to all that sessions do.

A session that has just been opened has a number that was not given before (`connectNew_ok`).
-/

namespace SqlWire

/-- A network that gives no number twice. -/
class NumberedNetwork (ω : Type) [Network ω] where
  /-- The numbers from here on have not been given yet. -/
  issued : ω → Nat
  issued_le_wait (time : Duration) (w : ω) : issued w ≤ issued (Network.wait time w)
  issued_le_freshId (w : ω) : issued w ≤ (Network.freshId w).1
  freshId_lt (w : ω) : (Network.freshId w).1 < issued (Network.freshId w).2
  issued_le_shuffle (hosts : List String) (w : ω) : issued w ≤ issued (Network.shuffle hosts w).2
  issued_le_dial (host : String) (port : UInt16) (deadline : Option Duration) (w : ω) :
    issued w ≤ issued (Network.dial host port deadline w).2
  issued_le_write (line : Nat) (bytes : Bytes) (w : ω) :
    issued w ≤ issued (Network.write line bytes w).2
  issued_le_advance (line : Nat) (incoming : Incoming) (now : Duration) (w : ω) :
    issued w ≤ issued (Network.advance line incoming now w)
  issued_le_hangUp (line : Nat) (w : ω) : issued w ≤ issued (Network.hangUp line w)

open NumberedNetwork

instance : NumberedNetwork Unreachable where
  issued w := w.sessions + 1
  issued_le_wait _ _ := Nat.le_refl _
  issued_le_freshId _ := Nat.le_refl _
  freshId_lt _ := Nat.lt_succ_self _
  issued_le_shuffle _ _ := Nat.le_refl _
  issued_le_dial _ _ _ _ := Nat.le_refl _
  issued_le_write _ _ _ := Nat.le_refl _
  issued_le_advance _ _ _ _ := Nat.le_refl _
  issued_le_hangUp _ _ := Nat.le_refl _

namespace Standin.World

instance : NumberedNetwork World where
  issued w := w.sessions + 1
  issued_le_wait time w :=
    Nat.le_of_eq (congrArg (· + 1) (onward_atMoment w ⟨w.clock.nanos + time.nanos⟩).sessions.symm)
  issued_le_freshId _ := Nat.le_refl _
  freshId_lt _ := Nat.lt_succ_self _
  issued_le_shuffle _ _ := Nat.le_refl _
  issued_le_dial host port _ w := by
    simp only [Network.dial]
    split <;> exact Nat.le_refl _
  issued_le_write line bytes w := Nat.le_of_eq (congrArg (· + 1) (onward_write w line bytes).sessions.symm)
  issued_le_advance line incoming now w := by
    simp only [Network.advance]
    split
    · next c _ =>
      have onward := onward_atMoment (w.put line { c with arrivals := incoming.arrivals }) now
      exact Nat.le_of_eq (congrArg (· + 1) onward.sessions.symm)
    · exact Nat.le_of_eq (congrArg (· + 1) (onward_atMoment w now).sessions.symm)
  issued_le_hangUp line w := Nat.le_of_eq (congrArg (· + 1) (onward_leave w line).sessions.symm)

end Standin.World

variable {ω : Type} [Network ω] [NumberedNetwork ω]

namespace Channel

theorem issued_le_flush (line : Nat) (c : Channel) (w : ω) :
    issued w ≤ issued (flush (Network.write line) c w).2.2 := by
  have written := issued_le_write line c.outbox w
  unfold flush
  split
  · exact Nat.le_refl _
  · split
    · next w' sent => rwa [sent] at written
    · next cause w' lost => rwa [lost] at written

theorem issued_le_feed (line : Nat) (bodies : List Bytes) (c : Channel) (w : ω) :
    issued w ≤ issued (feed (Network.write line) bodies c w).2.2 := by
  induction bodies generalizing c w with
  | nil => exact issued_le_flush line c w
  | cons body rest ih =>
    unfold feed
    split
    next room c' w' made =>
    have roomy : issued w ≤ issued w' := by
      split at made
      · have flushed := issued_le_flush line c w
        rwa [made] at flushed
      · cases made
        exact Nat.le_refl _
    split
    · exact roomy
    · split
      · exact roomy
      · exact roomy.trans (ih ..)

theorem issued_le_timed {action : Channel → ω → Except ChannelError Unit × Channel × ω}
    (grows : ∀ c w, issued w ≤ issued (action c w).2.2) (c : Channel) (w : ω) :
    issued w ≤ issued (timed action c w).2.2 := by
  unfold timed
  split
  · split
    · exact Nat.le_refl _
    · exact grows c w
  · exact grows c w

theorem issued_le_send (line : Nat) (payload : Bytes) (c : Channel) (w : ω) :
    issued w ≤ issued (c.send (Network.write line) payload w).2.2 :=
  issued_le_timed (issued_le_feed line _) c w

end Channel

namespace Link

theorem issued_le_send (l : Link) (payload : Bytes) (w : ω) :
    issued w ≤ issued (l.send payload w).2.2 :=
  Channel.issued_le_send l.line payload l.channel w

theorem issued_le_command (l : Link) (payload : Bytes) (w : ω) :
    issued w ≤ issued (l.command payload w).2.2 :=
  Channel.issued_le_send l.line payload l.channel.reset w

theorem issued_le_receive (l : Link) (w : ω) : issued w ≤ issued (l.receive w).2.2 :=
  issued_le_advance ..

theorem issued_le_close (l : Link) (w : ω) : issued w ≤ issued (l.close w).2.2 :=
  (Channel.issued_le_timed (Channel.issued_le_flush l.line) l.channel w).trans (issued_le_hangUp ..)

end Link

namespace Session

theorem issued_le_turn (x : Session × Turn) (w : ω) : issued w ≤ issued (turn x w).2 := by
  obtain ⟨s, turn⟩ := x
  cases turn with
  | finished outcome => exact Nat.le_refl _
  | command payload pending =>
    have sent := (s.link.withBudget s.config.commandTimeout.nonZero?).issued_le_command payload w
    simp only [Session.turn]
    split <;> next made => rwa [made] at sent
  | reply payload pending =>
    have sent := s.link.issued_le_send payload w
    simp only [Session.turn]
    split <;> next made => rwa [made] at sent
  | wait pending => exact s.link.issued_le_receive w

theorem issued_le_pursue (turns : Nat) (x : Session × Turn) (w : ω) :
    issued w ≤ issued (pursue turns x w).2 := by
  induction turns generalizing x w with
  | zero => exact Nat.le_refl _
  | succ turns ih => exact (issued_le_turn x w).trans (ih ..)

theorem issued_le_ask (s : Session) (r : Request) (w : ω) : issued w ≤ issued (s.ask r w).2.2 := by
  rw [ask, network_follow]
  exact issued_le_pursue ..

theorem issued_le_ping (s : Session) (w : ω) : issued w ≤ issued (s.ping w).2.2 :=
  issued_le_ask s .ping w

theorem issued_le_reset (s : Session) (w : ω) : issued w ≤ issued (s.reset w).2.2 :=
  issued_le_ask s .reset w

theorem issued_le_dispose (s : Session) (w : ω) : issued w ≤ issued (s.dispose w).2.2 := by
  unfold dispose
  split
  · exact (Link.issued_le_command ..).trans (Link.issued_le_close ..)
  · exact Link.issued_le_close ..

theorem Call.issued_le_run (c : Call) (s : Session) (w : ω) :
    issued w ≤ issued (c.run s w).2.2 := by
  cases asked : c.request s with
  | error cause => rw [run_error asked]
  | ok r =>
    rw [(run_ok asked w).1]
    exact issued_le_ask ..

theorem issued_le_sendByHand (s : Session) (payload : Bytes) (w : ω) :
    issued w ≤ issued (s.send payload w).2.2 := by
  unfold send
  split
  · exact Nat.le_refl _
  · exact Link.issued_le_command ..

theorem Use.issued_le_run (u : Use) (s : Session) (w : ω) : issued w ≤ issued (u.run s w).2 := by
  cases u with
  | call c => exact c.issued_le_run s w
  | abandon r turns link => exact issued_le_pursue ..
  | send payload => exact issued_le_sendByHand s payload w
  | receive => exact s.link.issued_le_receive w
  | settle | revoke => exact Nat.le_refl _
  | dispose => exact issued_le_dispose s w

theorem issued_le_followOpening (config : Config) (turns : Nat) (opening : Opening) (l : Link)
    (w : ω) : issued w ≤ issued (followOpening config turns opening l w).2.2 := by
  induction turns generalizing opening l w with
  | zero => exact Nat.le_refl _
  | succ turns ih =>
    have received := l.issued_le_receive w
    unfold followOpening
    split
    · next told =>
      rw [told] at received
      exact received
    · next payload l' w' told =>
      rw [told] at received
      split
      · exact received
      · exact received
      · exact received.trans (ih ..)
      · next reply next' _ =>
        have sent := received.trans (l'.issued_le_send reply w')
        split
        · next lost =>
          rw [lost] at sent
          exact sent
        · next done =>
          rw [done] at sent
          exact sent.trans (ih ..)

theorem issued_le_dialAny (port : UInt16) (deadline : Option Duration) (hosts : List String)
    (last : Option IoError) (w : ω) : issued w ≤ issued (dialAny port deadline hosts last w).2 := by
  induction hosts generalizing last w with
  | nil => exact Nat.le_refl _
  | cons host rest ih =>
    have dialled := issued_le_dial host port deadline w
    unfold dialAny
    split
    · next made => rwa [made] at dialled
    · next made =>
      rw [made] at dialled
      exact dialled.trans (ih ..)
    · next made => rwa [made] at dialled

theorem issued_le_hostOrder (config : Config) (w : ω) :
    issued w ≤ issued (hostOrder config w).2 := by
  unfold hostOrder
  split
  · exact Nat.le_refl _
  · exact issued_le_shuffle ..

/-- What is known of a session that has just been opened. -/
structure IsNew (s : Session) (id generation : Nat) : Prop where
  id : s.id = id
  generation : s.generation = generation
  lease : s.lease = 0
  state : s.state = .connected
  databaseOverride : s.databaseOverride = none

theorem openOn_spec (config : Config) (id generation : Nat) (deadline : Option Duration)
    (host : String) (line : Nat) (w : ω) :
    issued w ≤ issued (openOn config id generation deadline host line w).2 ∧
      ∀ s, (openOn config id generation deadline host line w).1 = .ok s →
        s.IsNew id generation := by
  unfold openOn
  dsimp only
  generalize deadline.map _ = budget
  generalize patience = turns
  have opened := issued_le_followOpening config turns .start
    ⟨line, (Channel.start .start).withBudget budget⟩ w
  split
  · next made =>
    rw [made] at opened
    refine ⟨opened, ?_⟩
    intro s same
    cases same
    exact ⟨rfl, rfl, rfl, rfl, rfl⟩
  · next made =>
    rw [made] at opened
    refine ⟨opened.trans (issued_le_hangUp ..), ?_⟩
    intro s same
    cases same

theorem connect_spec (config : Config) (id generation : Nat) (w : ω) :
    issued w ≤ issued (connect config id generation w).2 ∧
      ∀ s, (connect config id generation w).1 = .ok s → s.IsNew id generation := by
  have failed (cause : ClientError) (s : Session) :
      (.error cause : Except ClientError Session) = .ok s → s.IsNew id generation := by
    rintro ⟨⟩
  unfold connect
  split
  · exact ⟨Nat.le_refl _, failed _⟩
  · split
    · exact ⟨Nat.le_refl _, failed _⟩
    · next deadline _ =>
      have dialled := (issued_le_hostOrder config w).trans
        (issued_le_dialAny config.port deadline (hostOrder config w).1 none (hostOrder config w).2)
      dsimp only
      split
      · next made =>
        rw [made] at dialled
        exact ⟨dialled, failed _⟩
      · next host line w' made =>
        rw [made] at dialled
        obtain ⟨grows, new⟩ := openOn_spec config id generation deadline host line w'
        exact ⟨dialled.trans grows, new⟩

theorem issued_le_connectNew (config : Config) (generation : Nat) (w : ω) :
    issued w ≤ issued (connectNew config generation w).2 :=
  ((issued_le_freshId w).trans (freshId_lt w).le).trans (connect_spec ..).1

/-- A session that has been opened is new, and so is its number. -/
theorem connectNew_ok {config : Config} {generation : Nat} {w : ω} {s : Session}
    (opened : (connectNew config generation w).1 = .ok s) :
    s.IsNew s.id generation ∧ issued w ≤ s.id ∧
      s.id < issued (connectNew config generation w).2 := by
  obtain ⟨grows, new⟩ :=
    connect_spec config (Network.freshId w).1 generation (Network.freshId w).2
  have numbered := new s opened
  rw [numbered.id]
  exact ⟨numbered, issued_le_freshId w, (freshId_lt w).trans_le grows⟩

end Session

namespace CancelHandle

theorem issued_le_tell (h : CancelHandle) (s killer : Session) (w : ω) :
    issued w ≤ issued (h.tell s killer w).2 := by
  unfold tell
  split
  next result killer' w' told =>
  refine Nat.le_trans ?_ (Session.issued_le_dispose killer' w')
  split at told
  · cases told
    exact Session.Call.issued_le_run (.execute h.killStatement) killer w
  · cases told
    exact Nat.le_refl _

theorem issued_le_perform (h : CancelHandle) (s : Session) (w : ω) :
    issued w ≤ issued (h.perform s w).2 := by
  have connected := Session.issued_le_connectNew h.killerConfig 0 w
  unfold perform
  split
  · split
    · next refused => rwa [refused] at connected
    · next opened =>
      rw [opened] at connected
      exact connected.trans (issued_le_tell ..)
  · exact Nat.le_refl _

theorem issued_le_cancel (h : CancelHandle) (s : Session) (w : ω) :
    issued w ≤ issued (h.cancel s w).2.2 := by
  unfold cancel
  split
  · exact Nat.le_refl _
  · next t _ =>
    have performed := h.issued_le_perform t w
    split <;> next made => rwa [made] at performed

end CancelHandle

end SqlWire
