import PagedResults.Proofs.ReadingThread
import PagedResults.Script.Peer

/-! # How a connection closes

Three parties close a connection: the thread that reads, whoever cannot write a request, and the client
itself, which first announces it and then does it. They meet at the table of pending calls in any order.
`Sign` is what they bring there: a failure, or one of the two steps of closing on purpose. The first sign
decides with which error a connection is closed, and no later one changes it.

A sequence of moves of any threads is followed here together with the signs that it meets. The signs are
read off the stream and the requests alone: where a stream ends or fails, which frames carry no response,
which requests cannot be written.
-/

namespace PagedResults

/-! ## Signs -/

/-- What ends a connection. -/
inductive Sign where
  /-- The stream ended or failed, or a request could not be written. -/
  | failed (reason : String)
  /-- The client begins to close the connection. -/
  | closing
  /-- The client closes the connection. -/
  | closed
deriving DecidableEq, Repr

/-- How a connection stands, and whether it is being closed on purpose. -/
abbrev Status := Standing × Bool

/-- The end of a live connection; a closed one stays as it is. -/
def Status.shut (cause : Option Error) (status : Status) : Status :=
  match status.1 with
  | .live => (.closed (if status.2 then none else cause), status.2)
  | .closed _ => status

namespace Sign

/-- What a sign does to a connection. -/
def meet (status : Status) : Sign → Status
  | failed reason => status.shut (some (.transport reason))
  | closing => (status.1, true)
  | closed => status.shut none

/-- The error of a connection that met some signs, if they closed it. The first sign decides: a failure is
that error, unless the client had begun to close the connection. -/
def verdict : List Sign → Option Error
  | [] => none
  | failed reason :: _ => some (.transport reason)
  | closing :: rest => if rest.all (· = closing) then none else some .connectionClosed
  | closed :: _ => some .connectionClosed

private theorem meetAll_closed (signs : List Sign) {status : Status} {cause : Option Error}
    (ended : status.1 = .closed cause) : (signs.foldl meet status).1 = .closed cause := by
  induction signs generalizing status with
  | nil => exact ended
  | cons sign rest ih =>
    apply ih
    cases sign <;> simp [meet, Status.shut, ended]

/-- Nothing but the end of closing on purpose comes of a failure that is met meanwhile. -/
theorem meetAll_closing (signs : List Sign) : (signs.foldl meet (.live, true)).1 =
    if signs.all (· = closing) then .live else .closed none := by
  induction signs with
  | nil => rfl
  | cons sign rest ih =>
    cases sign with
    | closing => exact ih
    | failed reason => exact meetAll_closed rest rfl
    | closed => exact meetAll_closed rest rfl

/-- What all signs together come to on a connection that is new. -/
theorem meetAll_new (signs : List Sign) :
    (signs.foldl meet (.live, false)).1.error? = verdict signs := by
  cases signs with
  | nil => rfl
  | cons sign rest =>
    rw [List.foldl_cons, verdict.eq_def]
    cases sign with
    | failed reason =>
      have ended : (meet (.live, false) (failed reason)).1 = .closed (some (.transport reason)) := rfl
      rw [meetAll_closed rest ended]
      rfl
    | closing =>
      change (rest.foldl meet (.live, true)).1.error? = _
      rw [meetAll_closing]
      dsimp only
      split <;> rfl
    | closed =>
      have ended : (meet (.live, false) closed).1 = .closed none := rfl
      rw [meetAll_closed rest ended]
      rfl

end Sign

namespace Framing

/-- What reading a stream to its pause comes to. -/
def signs (inbound : Inbound) : List Sign :=
  match fault? (receiveAll inbound).1, (receiveAll inbound).2.1 with
  | some (.error cause), _ => [.failed cause.message]
  | some (.halt _), _ | none, .waiting => []
  | none, .failed cause => [.failed cause.message]
  | none, .ended => [.failed "server closed the connection"]

end Framing

namespace Link

variable {π : Type} {link : Link π}

/-! ## What the parts of an operation do to the standing -/

/-- How a connection stands. -/
def status (link : Link π) : Status := (link.calls.standing, link.calls.closing)

theorem status_settle (thread : Thread) (step : Calls × List Effect) :
    (link.settle thread step).status = (step.1.standing, step.1.closing) := by
  rw [status, calls_settle]

private theorem status_shut (thread : Thread) (cause : Option Error) :
    (link.shut thread cause).status = link.status.shut cause := by
  rw [Link.shut, status_settle, Status.shut, status]
  cases standing : link.calls.standing with
  | live => rw [Calls.shut, standing]
  | closed first => rw [Calls.shut_closed standing, standing]

theorem status_arrive (thread : Thread) (envelope : ResponseEnvelope) :
    (link.arrive thread envelope).status = link.status := by
  rw [Link.arrive, status_settle, status]
  cases known : link.calls.shape? envelope.id with
  | none => rw [Calls.arrive_unknown known]
  | some shape =>
    rw [Calls.arrive_known known]
    dsimp only
    split <;> rfl

theorem status_cancel (id : UInt64) : (link.cancel id).2.status = link.status := by
  rw [Link.cancel, status_settle, status]
  cases known : link.calls.shape? id with
  | none => rw [Calls.cancel_unknown known]
  | some shape => rw [Calls.cancel_known known]; rfl

theorem status_register (shape : Shape) : (link.register shape).2.status = link.status := by
  cases standing : link.calls.standing with
  | live => rw [register_live standing, Calls.register_live standing]; rfl
  | closed cause => rw [register_closed standing, Calls.register_closed standing]; rfl

private theorem status_stopReading (cause : WireError) :
    (link.stopReading cause).status = Sign.meet link.status (.failed cause.message) := by
  unfold stopReading
  split
  · exact status_shut .reader _
  · exact status_shut .reader _

/-- Responses change nothing; the first frame that carries none may be a failure. -/
theorem status_deliverFrames (payloads : List ByteArray) (link : Link π) :
    (deliverFrames payloads link).status =
      match Framing.fault? payloads with
      | some (.error cause) => Sign.meet link.status (.failed cause.message)
      | some (.halt _) | none => link.status := by
  induction payloads generalizing link with
  | nil => rfl
  | cons payload rest ih =>
    rw [deliverFrames, Framing.fault?]
    rcases ResponseEnvelope.codec.decode (Bytes.ofBuffer payload) with (cause | reason) | envelope
    · exact status_stopReading cause
    · rfl
    · dsimp only
      rw [ih, status_arrive]
      rfl

/-- The signs that the reading thread meets when it reads what there is. -/
def readSigns (link : Link π) : List Sign :=
  if link.reader = .reading then Framing.signs link.inbound else []

/-- Reading brings what the stream says to the table, and nothing once the thread has ended. -/
theorem status_read (link : Link π) : link.read.status = link.readSigns.foldl Sign.meet link.status := by
  rw [read, readSigns]
  by_cases reading : link.reader = .reading
  · rw [if_neg (not_not_intro reading), if_pos reading, Framing.signs]
    rcases Framing.receiveAll link.inbound with ⟨payloads, pause, inbound⟩
    dsimp only
    have status_eq := status_deliverFrames payloads { link with inbound }
    obtain ⟨mid, -, reader_eq, delivered⟩ := deliverFrames_eq payloads { link with inbound }
    rcases fault : Framing.fault? payloads with _ | (cause | reason)
    · rw [fault] at status_eq delivered
      dsimp only at status_eq delivered
      rw [if_neg (not_not_intro (by rw [delivered, reader_eq]; exact reading))]
      cases pause with
      | waiting => exact status_eq
      | failed cause =>
        exact (status_stopReading cause).trans (congrArg (Sign.meet · (.failed cause.message)) status_eq)
      | ended =>
        refine (status_shut .reader _).trans ?_
        exact congrArg (Sign.meet · (.failed "server closed the connection")) status_eq
    · rw [fault] at status_eq delivered
      rw [if_pos]
      · exact status_eq
      · rw [delivered]
        intro still
        cases still
    · rw [fault] at status_eq delivered
      rw [if_pos]
      · exact status_eq
      · rw [delivered]
        intro still
        cases still
  · rw [if_pos reading, if_neg reading]
    rfl

/-- Noting events changes nothing else. -/
theorem noteAll_journal (thread : Thread) (events : List Event) (link : Link π) :
    ∃ journal, link.noteAll thread events = { link with journal } := by
  unfold noteAll
  induction events generalizing link with
  | nil => exact ⟨_, rfl⟩
  | cons event rest ih => exact ih _

/-- The signs that are met when the receiving side is given its end. -/
def finishSigns (link : Link π) : List Sign :=
  ({ link with inbound := link.inbound.finish } : Link π).readSigns

private theorem status_readOut (link : Link π) :
    link.readOut.status = link.finishSigns.foldl Sign.meet link.status := by
  have read := status_read { link with inbound := link.inbound.finish }
  unfold readOut
  dsimp only
  split
  · exact read
  · exact read

/-- The signs of closing a connection on purpose, which is done once. -/
def closeSigns (link : Link π) : List Sign :=
  if link.calls.closing then []
  else .closing :: ((if link.canShutDown then link.finishSigns else []) ++ [.closed])

theorem status_close (link : Link π) : link.close.status = link.closeSigns.foldl Sign.meet link.status := by
  unfold close closeSigns
  split
  · rfl
  · have same : link.beginClosing.canShutDown = link.canShutDown := rfl
    dsimp only
    rw [status_shut, List.foldl_cons, List.foldl_append, same]
    cases link.canShutDown with
    | true => exact congrArg (Status.shut none) (status_readOut link.beginClosing)
    | false => rfl

/-- The signs that are met when something comes from the other end. -/
def acceptSigns (reaction : Reaction) (link : Link π) : List Sign :=
  ({ link with inbound := link.inbound.push reaction.events } : Link π).readSigns

private theorem status_accept (thread : Thread) (reaction : Reaction) (link : Link π) :
    (link.accept thread reaction).status = (link.acceptSigns reaction).foldl Sign.meet link.status := by
  obtain ⟨journal, noted⟩ := noteAll_journal thread reaction.notes link
  rw [accept, noted, status_read]
  rfl

variable [Peer π]

/-- Send the request of a call that was registered. A request that cannot be sent closes the connection. -/
def transmit (thread : Thread) (id : UInt64) (request : Request) : Op Error (Link π) UInt64 := fun link =>
  let payload := (RequestEnvelope.codec.encode ⟨id, request⟩).toBuffer
  match Framing.send payload link.outbound with
  | (.error cause, outbound) =>
      let link := { link with outbound }.forget id
      (Outcome.fail (.ofWire cause), link.shut thread (some (.ofWire cause)))
  | (.ok (), outbound) =>
      let link := ({ link with outbound }).exchange thread
      let link := link.note thread (.frameSent payload.size)
      (.ok id, link.note thread (.requestSent request.name id))

/-- A call is registered first, which a closed connection refuses, and then sent. -/
theorem submit_eq (thread : Thread) (shape : Shape) (request : Request) (link : Link π) :
    submit thread shape request link =
      match link.register shape with
      | (.error cause, link) => (Outcome.fail cause, link)
      | (.ok id, link) => transmit thread id request link := rfl

/-- The signs that are met when a request is sent: it cannot be written, or the other end reacts. -/
def transmitSigns (id : UInt64) (request : Request) (link : Link π) : List Sign :=
  match Framing.send (RequestEnvelope.codec.encode ⟨id, request⟩).toBuffer link.outbound with
  | (.error cause, _) => [.failed cause.message]
  | (.ok (), outbound) => link.acceptSigns (Peer.react outbound.take.1 link.peer).1

private theorem status_transmit (thread : Thread) (id : UInt64) (request : Request) (link : Link π) :
    (transmit thread id request link).2.status =
      (link.transmitSigns id request).foldl Sign.meet link.status := by
  rw [transmit, transmitSigns]
  rcases Framing.send _ link.outbound with ⟨cause | ⟨⟩, outbound⟩
  · exact status_shut thread _
  · exact status_accept thread _ _

/-! ## Moves -/

/-- What any thread does to a connection at one go. Of the two things that it takes to submit a call, and
of the three that it takes to close the connection, each is a move, so that those of others come between. -/
inductive Move where
  | submit (thread : Thread) (shape : Shape) (request : Request)
  | register (shape : Shape)
  | transmit (thread : Thread) (id : UInt64) (request : Request)
  | await (thread : Thread) (id : UInt64) (limit : Duration)
  | cancel (id : UInt64)
  /-- Bytes, interruptions, failures or the end of the stream come from the other end. -/
  | accept (thread : Thread) (reaction : Reaction)
  | close
  | beginClosing
  | readOut
  | endClosing
  /-- The receiver of a call takes from its channel. -/
  | receive (id : UInt64) (operation : Channel → Channel)
  | release (id : UInt64)
  /-- From now on other bytes, or none, are accepted by the sending side. -/
  | refit (outbound : Outbound)

namespace Move

/-- The connection after a move. -/
def perform (link : Link π) : Move → Link π
  | submit thread shape request => (link.submit thread shape request).2
  | register shape => (link.register shape).2
  | transmit thread id request => (link.transmit thread id request).2
  | await thread id limit => (link.await thread id limit).2
  | cancel id => (link.cancel id).2
  | accept thread reaction => link.accept thread reaction
  | close => link.close
  | beginClosing => link.beginClosing
  | readOut => link.readOut
  | endClosing => link.shut .caller none
  | receive id operation => (link.onChannel id fun channel => ((), operation channel)).2
  | release id => link.dropChannel id
  | refit outbound => { link with outbound }

/-- The signs that a move meets. -/
def signs (link : Link π) : Move → List Sign
  | submit _ shape request =>
      match link.register shape with
      | (.error _, _) => []
      | (.ok id, link) => link.transmitSigns id request
  | transmit _ id request => link.transmitSigns id request
  | accept _ reaction => link.acceptSigns reaction
  | close => link.closeSigns
  | beginClosing => [.closing]
  | readOut => link.finishSigns
  | endClosing => [.closed]
  | register _ | await _ _ _ | cancel _ | receive _ _ | release _ | refit _ => []

/-- Nothing but the signs that it meets changes how a connection stands. -/
theorem status_perform (link : Link π) (move : Move) :
    (move.perform link).status = (move.signs link).foldl Sign.meet link.status := by
  cases move with
  | submit thread shape request =>
    rw [perform, signs, submit_eq]
    have registered : (link.register shape).2.status = link.status := status_register shape
    generalize link.register shape = result at registered ⊢
    obtain ⟨cause | id, next⟩ := result
    · exact registered
    · rw [← registered]
      exact status_transmit thread id request next
  | register shape => exact status_register shape
  | transmit thread id request => exact status_transmit thread id request link
  | await thread id limit =>
    rw [perform, Link.await]
    split
    · rfl
    · rfl
    · split <;> rfl
  | cancel id => exact status_cancel id
  | accept thread reaction => exact status_accept thread reaction link
  | close => exact status_close link
  | beginClosing => rfl
  | readOut => exact status_readOut link
  | endClosing => exact status_shut .caller none
  | receive id operation => rfl
  | release id => rfl
  | refit outbound => rfl

end Move

/-- The connection after some moves. -/
def after (moves : List Move) (link : Link π) : Link π := moves.foldl Move.perform link

/-- The signs that some moves meet. -/
def signs : List Move → Link π → List Sign
  | [], _ => []
  | move :: rest, link => move.signs link ++ signs rest (move.perform link)

private theorem status_after (moves : List Move) (link : Link π) :
    (after moves link).status = (signs moves link).foldl Sign.meet link.status := by
  induction moves generalizing link with
  | nil => rfl
  | cons move rest ih =>
    rw [signs, List.foldl_append, ← Move.status_perform]
    exact ih (move.perform link)

omit [Peer π] in
private theorem standing_of_error {error : Error} (failed : link.calls.standing.error? = some error) :
    ∃ cause, link.calls.standing = .closed cause ∧ error = cause.getD .connectionClosed := by
  cases standing : link.calls.standing with
  | live =>
    rw [standing] at failed
    contradiction
  | closed cause =>
    rw [standing] at failed
    exact ⟨cause, rfl, (Option.some.inj failed).symm⟩

/-- A closed connection stays closed, with the same error. -/
theorem after_closed {error : Error} (failed : link.calls.standing.error? = some error) (moves : List Move) :
    (after moves link).calls.standing.error? = some error := by
  obtain ⟨cause, closed, rfl⟩ := standing_of_error failed
  have still : (after moves link).calls.standing = .closed cause :=
    (congrArg Prod.fst (status_after moves link)).trans (Sign.meetAll_closed _ closed)
  rw [still]
  rfl

/-- A closed connection refuses every call: an id is used up, and that is all. -/
theorem submit_closed {error : Error} (failed : link.calls.standing.error? = some error) (thread : Thread)
    (shape : Shape) (request : Request) :
    submit thread shape request link = (Outcome.fail error,
      { link with calls := { link.calls with nextId := link.calls.nextId + 1 } }) := by
  obtain ⟨cause, closed, rfl⟩ := standing_of_error failed
  rw [submit_eq, register_closed closed, Calls.register_closed closed]

theorem call_closed {error : Error} (failed : link.calls.standing.error? = some error) (thread : Thread)
    (request : Request) (limit : Duration) :
    call thread request limit link = (Outcome.fail error,
      { link with calls := { link.calls with nextId := link.calls.nextId + 1 } }) := by
  rw [call, Op.bind_apply, submit_closed failed]
  rfl

/-- Whatever any threads do on a new connection, in whatever order: the first sign that they meet decides
with which error it is closed. Once it is closed it stays closed with this error, and every later call and
stream fails with it, without an entry, a channel or a byte that is written. -/
theorem closed_for_good {start : Link π} (calls_eq : start.calls = {}) (moves : List Move) :
    (after moves start).calls.standing.error? = Sign.verdict (signs moves start) ∧
    ∀ error, (after moves start).calls.standing.error? = some error → ∀ later,
      let last := after later (after moves start)
      last.calls.standing.error? = some error ∧
      (∀ thread shape request, submit thread shape request last = (Outcome.fail error,
        { last with calls := { last.calls with nextId := last.calls.nextId + 1 } })) ∧
      ∀ thread request limit, call thread request limit last = (Outcome.fail error,
        { last with calls := { last.calls with nextId := last.calls.nextId + 1 } }) := by
  constructor
  · have fresh : start.status = (.live, false) := by rw [status, calls_eq]
    have met := status_after moves start
    rw [fresh] at met
    exact (congrArg (fun status => Standing.error? (Prod.fst status)) met).trans (Sign.meetAll_new _)
  · intro error failed later
    have still := after_closed failed later
    exact ⟨still, submit_closed still, call_closed still⟩

/-- A connection whose stream is reset before, or after, the client begins to close it. -/
theorem closed_for_good_reset :
    let start : Link ScriptedPeer := { peer := {} }
    let reset : Move := .accept .reader { events := [.failure "reset"] }
    start.calls = {} ∧
    (after [reset, .beginClosing, .endClosing] start).calls.standing.error? =
      some (.transport "Transport IO Error: reset") ∧
    (after [.beginClosing, reset, .endClosing] start).calls.standing.error? = some .connectionClosed := by
  intro start reset
  have received : Framing.receiveAll { events := [.failure "reset"] } =
      ([], .failed (.stream "reset"), {}) := Framing.receiveAll_failed rfl
  have failed : Framing.signs { events := [.failure "reset"] } = [.failed "Transport IO Error: reset"] := by
    rw [Framing.signs, received]
    rfl
  have before : signs [reset, .beginClosing, .endClosing] start = _ :=
    congrArg (· ++ [Sign.closing, Sign.closed]) failed
  have behind : signs [.beginClosing, reset, .endClosing] start = _ :=
    congrArg (fun signs => Sign.closing :: (signs ++ [Sign.closed])) failed
  refine ⟨rfl, ?_, ?_⟩
  · obtain ⟨ended, -⟩ := @closed_for_good _ _ start rfl [reset, .beginClosing, .endClosing]
    rw [ended, before]
    rfl
  · obtain ⟨ended, -⟩ := @closed_for_good _ _ start rfl [.beginClosing, reset, .endClosing]
    rw [ended, behind]
    rfl

end Link

end PagedResults
