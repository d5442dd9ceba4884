import PagedResults.Proofs.Session.Deeds

/-! # Closing a session is final

A session is marked as closed before it says goodbye, so that this is done once; whatever comes of it, the
connection is closed when `close` returns, and whoever still waits is told. From then on every operation fails
without a request, and closing again does nothing.
-/

namespace PagedResults

/-- A client that has not begun to close a connection closes it. -/
theorem Link.close_closes {π : Type} {link : Link π} (unclosing : link.calls.closing = false) :
    link.close.calls.standing ≠ .live := by
  have shuts (status : Status) : (status.shut none).1 ≠ .live := by
    rw [Status.shut]
    split
    · simp
    · next standing =>
      rw [standing]
      simp
  have status := status_close link
  rw [closeSigns, if_neg (Bool.eq_false_iff.mp unclosing), List.foldl_cons, List.foldl_append] at status
  exact fun live => shuts _ ((congrArg Prod.fst status).symm.trans live)

namespace Link

variable {π : Type} [Peer π] {link : Link π}

private theorem submit_returns (thread : Thread) (shape : Shape) (request : Request) (link : Link π) (reason : Halt) :
    (link.submit thread shape request).1 ≠ Outcome.halt reason := by
  rw [submit_eq]
  rcases link.register shape with ⟨cause | id, next⟩
  · exact nofun
  · unfold transmit
    dsimp only
    split <;> exact nofun

omit [Peer π] in
/-- Only waiting without a limit may take for ever. -/
theorem await_halts {thread : Thread} {id : UInt64} {limit : Duration} {reason : Halt}
    (halts : (link.await thread id limit).1 = Outcome.halt reason) : limit.isZero = true := by
  unfold await at halts
  split at halts
  · cases halts
  · cases halts
  · split at halts
    · assumption
    · cases halts

end Link

namespace Session

variable {π : Type} [Peer π] {session : Session π}

/-! ## Closed sessions -/

private theorem call_of_closed (closed : session.closed = true) (request : Request) (limit : Duration) :
    call request limit session = (Outcome.fail .connectionClosed, session) :=
  Op.bind_of_error (checkOpen_of_closed closed) _

private theorem callOk_of_closed (closed : session.closed = true) (request : Request) (limit : Duration) :
    callOk request limit session = (Outcome.fail .connectionClosed, session) :=
  Op.bind_of_error (call_of_closed closed request limit) _

/-- A closed session fails in every operation without a request; it may forget a statement. -/
theorem run_of_closed (closed : session.closed = true) (deed : Deed) :
    ∃ arities, deed.run session = (Outcome.fail .connectionClosed, { session with arities }) := by
  cases deed with
  | ping => exact ⟨_, (Op.bind_of_ok (Op.get_apply _)).trans (Op.bind_of_error (call_of_closed closed ..) _)⟩
  | prepare sql =>
    have prepared : prepare sql session = (Outcome.fail .connectionClosed, session) :=
      (Op.bind_of_ok (Op.get_apply _)).trans (Op.bind_of_error (call_of_closed closed ..) _)
    exact ⟨_, Op.bind_of_error prepared _⟩
  | execute statement parameters options =>
    have executed : OpenResult.execute statement parameters options session =
        (Outcome.fail .connectionClosed, session) := Op.bind_of_error (call_of_closed closed ..) _
    exact ⟨_, Op.bind_of_error executed _⟩
  | query sql options =>
    have asked : OpenResult.query sql options session = (Outcome.fail .connectionClosed, session) :=
      Op.bind_of_error (call_of_closed closed ..) _
    exact ⟨_, Op.bind_of_error asked _⟩
  | stream sql fetchSize =>
    have asked : RowStream.query sql fetchSize session = (Outcome.fail .connectionClosed, session) :=
      Op.bind_of_error (checkOpen_of_closed closed) _
    exact ⟨_, Op.bind_of_error asked _⟩
  | fetch statement offset fetchSize limit =>
    have fetched : fetch statement offset fetchSize limit session = (Outcome.fail .connectionClosed, session) :=
      Op.bind_of_error (call_of_closed closed ..) _
    exact ⟨_, Op.bind_of_error fetched _⟩
  | commit => exact ⟨_, (Op.bind_of_ok (Op.get_apply _)).trans (callOk_of_closed closed ..)⟩
  | rollback => exact ⟨_, (Op.bind_of_ok (Op.get_apply _)).trans (callOk_of_closed closed ..)⟩
  | closeResult statement limit => exact ⟨_, callOk_of_closed closed ..⟩
  | closeStatement statement limit =>
    have still : (forgetArity statement session).closed = true := closed
    exact ⟨_, (Op.bind_of_ok (Op.modify_apply ..)).trans (callOk_of_closed still ..)⟩

/-- Closing a closed session does nothing. -/
theorem close_of_closed (closed : session.closed = true) : close session = (.ok (), session) := by
  rw [close, Op.bind_apply, Op.get_apply]
  dsimp only
  rw [closed]
  rfl

/-! ## Closing while others use the session -/

/-- Say goodbye; others use the session until the answer is waited for. -/
def goodbye (limit : Duration) (waiting : List Move) : Op Error (Session π) Response := do
  let id ← onLink (Link.submit .caller .unary .closeConnection)
  modify (after waiting)
  onLink (Link.await .caller id limit)

/-- Close a session that others use meanwhile: before the goodbye, until its answer is waited for, and before the
connection is closed. -/
def closeAmid (early waiting late : List Move) : Op Error (Session π) Unit := do
  let session ← get
  if session.closed then return
  set (after early { session with closed := true })
  let answer ← (goodbye session.options.callTimeout waiting).attempt
  modify fun session =>
    let session := after late session
    { session with link := session.link.close }
  note .caller (.connectionClosed session.connection)
  match answer with
  | .ok .ok => return
  | .ok other => Op.fail (unexpected "close_connection" other)
  | .error cause => Op.fail cause

theorem goodbye_nil (limit : Duration) :
    goodbye limit [] = (onLink (Link.call .caller .closeConnection limit) : Op Error (Session π) Response) := by
  funext session
  rw [goodbye, Op.bind_apply, onLink_apply, onLink_apply, Link.call, Op.bind_apply]
  generalize Link.submit .caller .unary .closeConnection session.link = result
  obtain ⟨failure | id, link⟩ := result <;> rfl

/-- Where nobody else uses the session meanwhile, this is closing it. -/
theorem closeAmid_nil : closeAmid [] [] [] = (close : Op Error (Session π) Unit) := by
  unfold closeAmid close
  simp only [goodbye_nil]
  rfl

/-- What is left to do once the goodbye is answered, or will not be. -/
def farewell (connection : UInt64) (session : Session π) : Session π :=
  { session with link := session.link.close.note .caller (.connectionClosed connection) }

/-- Closing an open session says goodbye, and closes the connection whatever comes of it. -/
theorem closeAmid_of_open (isOpen : session.closed = false) (early waiting late : List Move) :
    closeAmid early waiting late session =
      match goodbye session.options.callTimeout waiting (after early { session with closed := true }) with
      | (.ok .ok, next) => (.ok (), farewell session.connection (after late next))
      | (.ok other, next) =>
        (Outcome.fail (unexpected "close_connection" other), farewell session.connection (after late next))
      | (.error (.error cause), next) => (Outcome.fail cause, farewell session.connection (after late next))
      | (.error (.halt reason), next) => (Outcome.halt reason, next) := by
  have begun : closeAmid early waiting late session = (do
      let answer ← (goodbye session.options.callTimeout waiting).attempt
      modify fun session =>
        let session := after late session
        { session with link := session.link.close }
      note .caller (.connectionClosed session.connection)
      match answer with
      | .ok .ok => return
      | .ok other => Op.fail (unexpected "close_connection" other)
      | .error cause => Op.fail cause : Op Error (Session π) Unit) (after early { session with closed := true }) := by
    rw [closeAmid, Op.bind_apply, Op.get_apply]
    simp only [isOpen, Bool.false_eq_true, if_false]
    rfl
  rw [begun, Op.bind_apply, Op.attempt]
  rcases goodbye session.options.callTimeout waiting (after early { session with closed := true }) with
    ⟨(cause | reason) | response, link⟩
  · rfl
  · rfl
  · cases response <;> rfl

/-- Only an answer that is waited for without a limit may never come. -/
theorem goodbye_halts {limit : Duration} {waiting : List Move} {reason : Halt}
    (halts : (goodbye limit waiting session).1 = Outcome.halt reason) : limit.isZero = true := by
  have submitted := Link.submit_returns .caller .unary .closeConnection session.link
  rw [goodbye, Op.bind_apply, onLink_apply] at halts
  generalize Link.submit .caller .unary .closeConnection session.link = result at submitted halts
  obtain ⟨failure | id, link⟩ := result
  · obtain rfl : failure = .halt reason := Except.error.inj halts
    exact absurd rfl (submitted reason)
  · exact Link.await_halts halts

private theorem closeAmid_halts {early waiting late : List Move} {reason : Halt} (isOpen : session.closed = false)
    (halts : (closeAmid early waiting late session).1 = Outcome.halt reason) :
    session.options.callTimeout.isZero = true := by
  rw [closeAmid_of_open isOpen] at halts
  rcases said : goodbye session.options.callTimeout waiting (after early { session with closed := true }) with
    ⟨(cause | stuck) | response, next⟩
  · rw [said] at halts
    cases halts
  · exact goodbye_halts (congrArg Prod.fst said)
  · rw [said] at halts
    cases response <;> cases halts

/-- On a closed session nothing says goodbye any more. -/
theorem Holds.after_of_closed {P : Link π → Prop} (kept : Link.Kept P) (holds : Holds P true session)
    (moves : List Move) : Holds P true (session.after moves) := by
  induction moves generalizing session with
  | nil => exact holds
  | cons move moves ih =>
    refine ih ?_
    by_cases closes : move = .close
    · rw [closes, Session.play, close_of_closed holds.closed_eq]
      exact holds
    · exact holds.play kept closes

end Session

namespace Link

variable {π : Type} [Peer π] {P Q : Link π → Prop} {start link : Link (Overheard π)}

private theorem Kept.and (left : Kept P) (right : Kept Q) : Kept fun link => P link ∧ Q link where
  turn turn stays both := ⟨left.turn turn stays both.1, right.turn turn stays both.2⟩

private theorem kept_unclosing : Kept fun link : Link π => link.calls.closing = false where
  turn turn _ unclosing := turn.closing_eq.trans unclosing

private theorem kept_silent (peer : π) (written : ByteArray) : Kept (Silent peer written) where
  turn turn _ silent := silent.turn turn

private theorem kept_sound (new : start.New) (goodbyes : Nat) : Kept (Sound start goodbyes) where
  turn {link next envelopes} turn stays sound := by
    have silent : envelopes.countP RequestEnvelope.isGoodbye ≤ 0 := by
      rw [Nat.le_zero, List.countP_eq_zero]
      intro envelope member goodbye
      exact stays envelope member (of_decide_eq_true goodbye)
    exact sound.turn new turn silent

/-- A connection in order that the client has not begun to close. -/
def Ready (start : Link (Overheard π)) (goodbyes : Nat) (link : Link (Overheard π)) : Prop :=
  Sound start goodbyes link ∧ link.calls.closing = false

private theorem kept_ready (new : start.New) (goodbyes : Nat) : Kept (Ready start goodbyes) :=
  (kept_sound new goodbyes).and kept_unclosing

end Link

namespace Session

variable {π : Type} [Peer π] {start : Link (Overheard π)} {session : Session (Overheard π)}

/-- Saying goodbye is one request at most. -/
theorem Holds.goodbye (holds : Holds (Link.Ready start 0) true session) (new : start.New) (limit : Duration)
    (waiting : List Move) : Op.Leaves (Holds (Link.Ready start 1) true) (Session.goodbye limit waiting session) := by
  have submitted : Op.Leaves (Holds (Link.Ready start 1) true)
      (Session.onLink (Link.submit .caller .unary .closeConnection) session) := by
    obtain ⟨sound, unclosing⟩ := holds.link
    obtain ⟨envelopes, turn, few, -⟩ := Link.Turn.submit .caller .unary .closeConnection session.link
    exact ⟨holds.closed_eq, sound.turn new turn (List.countP_le_length.trans few), turn.closing_eq.trans unclosing⟩
  have kept := Link.kept_ready new 1
  refine submitted.bind fun id next holds => ?_
  have used : Op.Leaves (Holds (Link.Ready start 1) true)
      ((modify (Session.after waiting) : Op Error (Session (Overheard π)) PUnit) next) :=
    holds.after_of_closed kept waiting
  exact used.bind fun _ _ holds => holds.onLink (kept.await .caller id limit)

/-- Closing a session: it says goodbye once at most, and when it returns the connection is closed. -/
theorem Holds.close (holds : Holds (Link.Ready start 0) false session) (new : start.New)
    (early waiting late : List Move) :
    Holds (Link.Sound start 1) true (closeAmid early waiting late session).2 ∧
      ((∀ reason, (closeAmid early waiting late session).1 ≠ Outcome.halt reason) →
        (closeAmid early waiting late session).2.link.calls.standing ≠ .live) := by
  have marked : Holds (Link.Ready start 0) true { session with closed := true } := ⟨rfl, holds.link⟩
  have begun := marked.after_of_closed (Link.kept_ready new 0) early
  have said := begun.goodbye new session.options.callTimeout waiting
  have left (next : Session (Overheard π)) (kept : Holds (Link.Ready start 1) true next) :
      Holds (Link.Sound start 1) true (farewell session.connection (next.after late)) ∧
        (farewell session.connection (next.after late)).link.calls.standing ≠ .live := by
    obtain ⟨closed_eq, sound, unclosing⟩ := kept.after_of_closed (Link.kept_ready new 1) late
    have closed := sound.aside new (.close (next.after late).link)
    exact ⟨⟨closed_eq, (Link.kept_sound new 1).quiet (.note ..) closed⟩, Link.close_closes unclosing⟩
  rw [closeAmid_of_open holds.closed_eq]
  generalize Session.goodbye session.options.callTimeout waiting
    (Session.after early { session with closed := true }) = result at said ⊢
  obtain ⟨(cause | reason) | response, next⟩ := result
  · obtain ⟨sound, closed⟩ := left next said
    exact ⟨sound, fun _ => closed⟩
  · exact ⟨⟨said.closed_eq, said.link.1⟩, fun returns => absurd rfl (returns reason)⟩
  · obtain ⟨sound, closed⟩ := left next said
    cases response <;> exact ⟨sound, fun _ => closed⟩

/-- A session over a new connection that was just started. -/
theorem start_holds {options : ConnectionOptions} {connection : UInt64} (new : start.New)
    (unheard : start.peer.heard = []) (unwritten : start.outbound.written = .empty)
    (started : Session.start options start = (.ok connection, session)) :
    Holds (Link.Ready start 0) false session := by
  have kept := Link.kept_ready new 0
  have ready : Link.Ready start 0 start := ⟨.of_new new unheard unwritten, by rw [new.calls_eq]⟩
  have shaken : Op.Leaves (Link.Ready start 0) (handshake options start) := by
    refine (kept.call .caller (.openConnection ..) nofun _ ready).bind fun response after holds => ?_
    split
    · exact kept.quiet (.note ..) holds
    · exact holds
  rw [Session.start] at started
  generalize handshake options start = result at shaken started
  obtain ⟨failure | other, link⟩ := result
  · cases started
  · obtain ⟨-, rfl⟩ := Prod.mk.inj started
    exact ⟨rfl, shaken⟩

/-- What closing an open session comes to, whatever others do with the session meanwhile and later, and whatever the
goodbye is answered. -/
structure Final (start : Link (Overheard π)) (opened : Session (Overheard π)) (early waiting late later : List Move) :
    Prop where
  /-- Where nobody uses the session meanwhile, this is `close` itself. -/
  alone : early = [] → waiting = [] → late = [] → closeAmid early waiting late opened = close opened
  /-- All that was written are frames of requests. None says goodbye before, and one at most ever does. -/
  goodbyes : (∃ envelopes, opened.link.Writes envelopes ∧ envelopes.countP RequestEnvelope.isGoodbye = 0) ∧
    ∃ envelopes, (after later (closeAmid early waiting late opened).2).link.Writes envelopes ∧
      envelopes.countP RequestEnvelope.isGoodbye ≤ 1
  /-- From then on all operations fail, and they leave the connection as it is. -/
  refuses : ∀ deed : Deed, ∃ arities, deed.run (after later (closeAmid early waiting late opened).2) =
    (Outcome.fail .connectionClosed, { after later (closeAmid early waiting late opened).2 with arities })
  /-- Closing the session again succeeds and does nothing. -/
  again : close (after later (closeAmid early waiting late opened).2) =
    (.ok (), after later (closeAmid early waiting late opened).2)
  /-- Closing returns, unless the options set no limit to the wait for the answer. -/
  returns : opened.options.callTimeout.isZero = false →
    ∀ reason, (closeAmid early waiting late opened).1 ≠ Outcome.halt reason
  /-- When it has returned, the connection is closed and nobody waits for anything. Whoever was still waiting at the
  moment of closing has got one error and nothing behind it. Nothing is written any more. -/
  closed : (∀ reason, (closeAmid early waiting late opened).1 ≠ Outcome.halt reason) →
    let last := after later (closeAmid early waiting late opened).2
    last.isOpen = false ∧ last.link.isOpen = false ∧ last.link.calls.pending = [] ∧
      (last.link.peer.heard.length + 1 < UInt64.size → Link.Parted start last.link) ∧
      last.link.written = (closeAmid early waiting late opened).2.link.written

/-- Whatever is done with a session before, closing it is final. -/
theorem close_final {options : ConnectionOptions} {connection : UInt64} (calls_eq : start.calls = {})
    (channels_eq : start.channels = []) (unheard : start.peer.heard = [])
    (unwritten : start.outbound.written = .empty)
    (started : Session.start options start = (.ok connection, session)) (before : List Move)
    (unclosed : .close ∉ before) (early waiting late later : List Move) :
    Final start (after before session) early waiting late later := by
  have new : start.New := ⟨calls_eq, channels_eq⟩
  have ready : Holds (Link.Ready start 0) false (after before session) :=
    (start_holds new unheard unwritten started).after (Link.kept_ready new 0) unclosed
  obtain ⟨sound, closed⟩ := ready.close new early waiting late
  have last : Holds (Link.Sound start 1) true (after later (closeAmid early waiting late (after before session)).2) :=
    sound.after_of_closed (Link.kept_sound new 1) later
  refine ⟨?_, ⟨?_, last.link.writes⟩, run_of_closed last.closed_eq, close_of_closed last.closed_eq, ?_, ?_⟩
  · rintro rfl rfl rfl
    rw [closeAmid_nil]
  · obtain ⟨envelopes, writes, none_yet⟩ := ready.link.1.writes
    exact ⟨envelopes, writes, Nat.le_zero.mp none_yet⟩
  · intro limited reason halts
    have endless := closeAmid_halts ready.closed_eq halts
    rw [limited] at endless
    contradiction
  · intro returns
    have silent := Holds.after_of_closed (Link.kept_silent _ _) ⟨sound.closed_eq, closed returns, rfl, rfl⟩ later
    refine ⟨?_, Link.isOpen_eq_false.mpr silent.link.closed, last.link.vacant silent.link.closed, fun few => ?_, ?_⟩
    · rw [isOpen, last.closed_eq]
      rfl
    · exact (last.link.explained few).parted new few silent.link.closed
    · rw [Link.written, Link.written, silent.link.peer_eq, silent.link.written_eq]

/-- A server that lets the client in, streams nothing yet, and refuses the goodbye. -/
def reluctant : Link (Overheard ScriptedPeer) :=
  { peer := { peer := { script := [[.reply none true (.connected 7)], [],
      [.reply none true (.error ⟨3, "busy", none⟩)]] } } }

/-- The goodbye is refused, and still the session is closed, and an open stream is told. -/
theorem close_final_reluctant :
    let session := (Session.start { address := .v4 [127, 0, 0, 1] 7400 } reluctant).2
    let opened := after [.perform (.stream "numbers" 2)] session
    let last := after [.perform .ping, .close] (closeAmid [.close] [] [.perform .commit] opened).2
    (Session.start { address := .v4 [127, 0, 0, 1] 7400 } reluctant).1 = .ok 7 ∧
      (opened.link.calls.pending = [(2, .stream)] ∧
        (closeAmid [.close] [] [.perform .commit] opened).1 = Outcome.fail (.service ⟨3, "busy", none⟩) ∧
        last.link.channel? 2 = some { queue := [.failure .connectionClosed] }) ∧
      Final reluctant opened [.close] [] [.perform .commit] [.perform .ping, .close] := by
  intro session opened last
  have started : (Session.start { address := .v4 [127, 0, 0, 1] 7400 } reluctant).1 = .ok 7 := by decide +kernel
  have unclosed : .close ∉ [Move.perform (.stream "numbers" 2)] := by simp
  refine ⟨started, by decide +kernel, ?_⟩
  exact close_final rfl rfl rfl rfl (Prod.ext started rfl) _ unclosed _ _ _ _

end Session

end PagedResults
