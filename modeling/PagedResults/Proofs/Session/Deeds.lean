import PagedResults.Proofs.Cursor.Kept
import PagedResults.Proofs.Session.Books
import PagedResults.Proofs.SessionSource
import PagedResults.Session.OpenResult

/-! # What is done with a session

A session is used through its own operations, and through the cursors and streams that were opened over it. All of
them use the one connection of the session, turn by turn, and none but `close` says goodbye. What every other turn
keeps of a connection is therefore kept by whatever else is done with a session.
-/

namespace PagedResults

namespace Link

variable {π : Type} [Peer π] {P : Link π → Prop} {link : Link π}

/-- A property of connections that every turn keeps in which the client says no goodbye. -/
structure Kept (P : Link π → Prop) : Prop where
  turn : ∀ {link next : Link π} {envelopes : List RequestEnvelope}, Turn link envelopes next →
    (∀ envelope ∈ envelopes, envelope.request ≠ .closeConnection) → P link → P next

/-- A turn in which nothing is said. -/
theorem Kept.quiet (kept : Kept P) {next : Link π} (turn : Turn link [] next) (holds : P link) : P next :=
  kept.turn turn nofun holds

theorem Kept.submit (kept : Kept P) (thread : Thread) (shape : Shape) (request : Request)
    (stays : request ≠ .closeConnection) (holds : P link) : Op.Leaves P (link.submit thread shape request) := by
  obtain ⟨envelopes, turn, -, said⟩ := Turn.submit thread shape request link
  exact kept.turn turn (fun envelope member => (said envelope member).symm ▸ stays) holds

theorem Kept.await (kept : Kept P) (thread : Thread) (id : UInt64) (limit : Duration) (holds : P link) :
    Op.Leaves P (link.await thread id limit) :=
  kept.quiet (.await thread id limit link) holds

theorem Kept.call (kept : Kept P) (thread : Thread) (request : Request) (stays : request ≠ .closeConnection)
    (limit : Duration) (holds : P link) : Op.Leaves P (link.call thread request limit) :=
  (kept.submit thread .unary request stays holds).bind fun id _ holds => kept.await thread id limit holds

end Link

namespace Session

variable {π : Type} {P : Link π → Prop} {shut : Bool} {session : Session π}

/-- The session is closed or not, and its connection has a property. -/
structure Holds (P : Link π → Prop) (shut : Bool) (session : Session π) : Prop where
  closed_eq : session.closed = shut
  link : P session.link

namespace Holds

theorem onLink {α : Type} {operation : Op Error (Link π) α} (holds : Holds P shut session)
    (keeps : P session.link → Op.Leaves P (operation session.link)) :
    Op.Leaves (Holds P shut) (Session.onLink operation session) :=
  ⟨holds.closed_eq, keeps holds.link⟩

theorem checkOpen (holds : Holds P shut session) : Op.Leaves (Holds P shut) (Session.checkOpen session) := by
  refine Op.Leaves.get_bind ?_
  split
  · exact holds
  · exact holds

theorem readPage (holds : Holds P shut session) (statement : UInt64) (response : Response) :
    Op.Leaves (Holds P shut) (Session.readPage statement response session) := by
  unfold Session.readPage
  split
  · refine Op.Leaves.get_bind ?_
    generalize session.arities.lookup statement = arity
    cases arity <;> exact holds
  · exact holds

variable [Peer π]

theorem note (kept : Link.Kept P) (holds : Holds P shut session) (thread : Thread) (event : Event) :
    Op.Leaves (Holds P shut) (Session.note thread event session) :=
  ⟨holds.closed_eq, kept.quiet (.note thread event session.link) holds.link⟩

theorem call (kept : Link.Kept P) (holds : Holds P shut session) (request : Request)
    (stays : request ≠ .closeConnection) (limit : Duration) :
    Op.Leaves (Holds P shut) (Session.call request limit session) :=
  holds.checkOpen.bind fun _ _ holds => holds.onLink (kept.call .caller request stays limit)

theorem callOk (kept : Link.Kept P) (holds : Holds P shut session) (request : Request)
    (stays : request ≠ .closeConnection) (limit : Duration) :
    Op.Leaves (Holds P shut) (Session.callOk request limit session) := by
  refine (holds.call kept request stays limit).bind fun response after holds => ?_
  unfold Session.confirmed
  split
  · exact holds
  · exact holds

theorem awaitPage (kept : Link.Kept P) (holds : Holds P shut session) (id : UInt64) (request : PageRequest) :
    Op.Leaves (Holds P shut) (Session.awaitPage id request session) :=
  (holds.onLink (kept.await .fetch id request.limit)).bind fun response _ holds =>
    holds.readPage request.statement response

theorem askPage (kept : Link.Kept P) (holds : Holds P shut session) (request : PageRequest) :
    Op.Leaves (Holds P shut) (Session.askPage request session) :=
  holds.checkOpen.bind fun _ _ holds => holds.onLink (kept.submit .fetch .unary (.fetch ..) nofun)

theorem startFetch (kept : Link.Kept P) (holds : Holds P shut session) (request : PageRequest) :
    Op.Leaves (Holds P shut) (Session.startFetch request session) := by
  refine (holds.askPage kept request).bind fun id after holds => ?_
  refine Op.Leaves.get_bind ?_
  generalize after.link.reply? id = reply
  cases reply with
  | some reply => exact ((holds.awaitPage kept id request).map _).map _
  | none => exact holds

theorem closeStatement (kept : Link.Kept P) (holds : Holds P shut session) (statement : UInt64)
    (limit : Duration) : Op.Leaves (Holds P shut) (Session.closeStatement statement limit session) := by
  have forgotten : Holds P shut (forgetArity statement session) := ⟨holds.closed_eq, holds.link⟩
  exact forgotten.callOk kept (.closeStatement statement) nofun limit

end Holds

variable [Peer π]

/-- What a turn keeps, a session keeps as a page source. -/
theorem keeps (kept : Link.Kept P) (shut : Bool) : PageSource.Keeps (Holds P shut) where
  start := by
    intro session request holds
    have started := holds.startFetch kept request
    simp only [PageSource.start]
    generalize startFetch request session = result at started ⊢
    obtain ⟨failure | ticket, after⟩ := result <;> exact started
  finish ticket holds := by
    cases ticket with
    | settled outcome => exact holds
    | waiting id request => exact holds.awaitPage kept id request
  closeResult statement limit holds := holds.callOk kept (.closeResult statement) nofun limit
  closeStatement statement limit holds := holds.closeStatement kept statement limit
  note thread event holds := Holds.note kept holds thread event

/-! ## Operations of a session -/

/-- What can be asked of a session, apart from closing it. -/
inductive Deed where
  | ping
  | prepare (sql : String)
  | execute (statement : UInt64) (parameters : List Value) (options : FetchOptions)
  | query (sql : String) (options : FetchOptions)
  | stream (sql : String) (fetchSize : UInt32)
  | fetch (statement offset : UInt64) (fetchSize : UInt32) (limit : Duration)
  | commit
  | rollback
  | closeResult (statement : UInt64) (limit : Duration)
  | closeStatement (statement : UInt64) (limit : Duration)

/-- Do it, whatever it gives. -/
def Deed.run : Deed → Op Error (Session π) Unit
  | ping => Session.ping
  | prepare sql => do let _ ← Session.prepare sql
  | execute statement parameters options => do let _ ← OpenResult.execute statement parameters options
  | query sql options => do let _ ← OpenResult.query sql options
  | stream sql fetchSize => do let _ ← RowStream.query sql fetchSize
  | fetch statement offset fetchSize limit => do let _ ← Session.fetch statement offset fetchSize limit
  | commit => Session.commit
  | rollback => Session.rollback
  | closeResult statement limit => Session.closeResult statement limit
  | closeStatement statement limit => Session.closeStatement statement limit

namespace Holds

theorem ofResponse (kept : Link.Kept P) (holds : Holds P shut session) (operation : String)
    (response : Response) (options : FetchOptions) (ownsStatement : Bool) :
    Op.Leaves (Holds P shut) (OpenResult.ofResponse operation response options ownsStatement session) := by
  unfold OpenResult.ofResponse
  split
  · next statement columns first =>
    have learned : Op.Leaves (Holds P shut)
        ((modify (learnArity statement columns.length) : Op Error (Session π) PUnit) session) :=
      ⟨holds.closed_eq, holds.link⟩
    refine learned.bind fun _ middle holds => ?_
    have read : Op.Leaves (Holds P shut)
        ((Op.ofOutcome (Page.ofWire columns.length first) : Op Error (Session π) Page) middle) := holds
    refine read.bind fun page _ holds => (holds.note kept .caller _).bind fun _ after holds => ?_
    have opened : Op.Leaves (Holds P shut) (Cursor.open statement page options ownsStatement after) :=
      (keeps kept shut).ofFirst statement page options ownsStatement holds
    exact Op.Leaves.bind opened fun _ _ holds => holds
  · exact holds

/-- What every turn keeps that says no goodbye, every operation of a session but `close` keeps. -/
theorem run (kept : Link.Kept P) (holds : Holds P shut session) (deed : Deed) :
    Op.Leaves (Holds P shut) (deed.run session) := by
  cases deed with
  | ping =>
    refine Op.Leaves.get_bind ((holds.call kept .ping nofun _).bind fun response _ holds => ?_)
    split
    · exact holds
    · exact holds
  | prepare sql =>
    have prepared : Op.Leaves (Holds P shut) (Session.prepare sql session) := by
      refine Op.Leaves.get_bind ((holds.call kept (.prepare sql) nofun _).bind fun response _ holds => ?_)
      split
      · exact ⟨holds.closed_eq, holds.link⟩
      · exact holds
    exact prepared.bind fun _ _ holds => holds
  | execute statement parameters options =>
    have opened : Op.Leaves (Holds P shut) (OpenResult.execute statement parameters options session) :=
      (holds.call kept (.execute ..) nofun _).bind fun response _ holds => holds.ofResponse kept _ response options _
    exact opened.bind fun _ _ holds => holds
  | query sql options =>
    have opened : Op.Leaves (Holds P shut) (OpenResult.query sql options session) :=
      (holds.call kept (.prepareAndExecute ..) nofun _).bind fun response _ holds =>
        holds.ofResponse kept _ response options _
    exact opened.bind fun _ _ holds => holds
  | stream sql fetchSize =>
    have asked : Op.Leaves (Holds P shut) (RowStream.query sql fetchSize session) :=
      holds.checkOpen.bind fun _ _ holds =>
        (holds.onLink (kept.submit .caller .stream (.executeStream sql fetchSize) nofun)).bind fun _ _ holds => holds
    exact asked.bind fun _ _ holds => holds
  | fetch statement offset fetchSize limit =>
    have fetched : Op.Leaves (Holds P shut) (Session.fetch statement offset fetchSize limit session) :=
      (holds.call kept (.fetch ..) nofun _).bind fun response _ holds => holds.readPage statement response
    exact fetched.bind fun _ _ holds => holds
  | commit => exact Op.Leaves.get_bind (holds.callOk kept .commit nofun _)
  | rollback => exact Op.Leaves.get_bind (holds.callOk kept .rollback nofun _)
  | closeResult statement limit => exact holds.callOk kept (.closeResult statement) nofun limit
  | closeStatement statement limit => exact holds.closeStatement kept statement limit

end Holds

/-! ## Lives of a session -/

/-- What is done with a session, or happens to it. A cursor and a stream may stand in any place. An operation of
another thread may also be seen in part: it found the session open before, and submits its call or waits now. -/
inductive Move where
  | perform (deed : Deed)
  | close
  | submit (thread : Thread) (shape : Shape) (request : Request) (stays : request ≠ .closeConnection)
  | await (thread : Thread) (id : UInt64) (limit : Duration)
  | call (cursor : Cursor Ticket) (call : CursorCall)
  /-- Nobody uses a cursor any more. -/
  | drop (cursor : Cursor Ticket)
  /-- A stream is asked for its next row. -/
  | row (stream : RowStream)
  | cancel (stream : RowStream)
  /-- Bytes, interruptions, failures or the end of the stream come from the other end. -/
  | accept (thread : Thread) (reaction : Reaction)
  /-- From now on other bytes, or none, are accepted by the sending side. -/
  | refit (outbound : Outbound)

/-- The session after a move. -/
def play (session : Session π) : Move → Session π
  | .perform deed => (deed.run session).2
  | .close => (close session).2
  | .submit thread shape request _ => { session with link := (session.link.submit thread shape request).2 }
  | .await thread id limit => { session with link := (session.link.await thread id limit).2 }
  | .call cursor call => (Cursor.perform call (cursor, session)).2.2
  | .drop cursor => (Cursor.drop cursor session).2
  | .row stream => (RowStream.next (stream, session)).2.2
  | .cancel stream => (RowStream.cancel (stream, session)).2.2
  | .accept thread reaction => { session with link := session.link.accept thread reaction }
  | .refit outbound =>
      let outbound := { outbound with written := session.link.outbound.written }
      { session with link := { session.link with outbound } }

/-- The session after some moves. -/
def after (moves : List Move) (session : Session π) : Session π := moves.foldl play session

/-- What every turn keeps that says no goodbye, every move but `close` keeps. -/
theorem Holds.play (kept : Link.Kept P) (holds : Holds P shut session) {move : Move} (stays : move ≠ .close) :
    Holds P shut (session.play move) := by
  cases move with
  | perform deed => exact holds.run kept deed
  | close => exact absurd rfl stays
  | submit thread shape request other => exact ⟨holds.closed_eq, kept.submit thread shape request other holds.link⟩
  | await thread id limit => exact ⟨holds.closed_eq, kept.await thread id limit holds.link⟩
  | call cursor call => exact (keeps kept shut).perform call cursor holds
  | drop cursor => exact (keeps kept shut).drop cursor holds
  | row stream => exact ⟨holds.closed_eq, kept.quiet (.take stream session.options.callTimeout) holds.link⟩
  | cancel stream => exact ⟨holds.closed_eq, kept.quiet (.cancel stream.id session.link) holds.link⟩
  | accept thread reaction => exact ⟨holds.closed_eq, kept.quiet (.accept thread reaction session.link) holds.link⟩
  | refit outbound =>
    have aside : Link.Aside session.link (session.play (.refit outbound)).link := .of_eq rfl rfl rfl rfl
    exact ⟨holds.closed_eq, kept.quiet (.aside aside rfl) holds.link⟩

theorem Holds.after (kept : Link.Kept P) (holds : Holds P shut session) {moves : List Move}
    (stays : .close ∉ moves) : Holds P shut (session.after moves) := by
  induction moves generalizing session with
  | nil => exact holds
  | cons move moves ih =>
    obtain ⟨other, later⟩ := List.ne_and_not_mem_of_not_mem_cons stays
    exact ih (holds.play kept other.symm) later

end Session

end PagedResults
