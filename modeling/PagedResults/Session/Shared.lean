import PagedResults.Link.Remote
import PagedResults.Session

/-! # A session with requests under way

Pages are requested on threads of their own. While such a thread is at work, the calling thread goes on, with
the same result or with another one, so that any number of requests may be under way at once, and each of
them may be sent, served and answered at any moment. A plan says what happens meanwhile, each time that the
calling thread does something that others can notice, and while it waits.

Time itself is left out: whoever waits for a reply gets it if it comes at all.
-/

namespace PagedResults

/-- A request that is under way. -/
inductive Errand where
  /-- The thread of a page has not sent its request yet. -/
  | begun (request : PageRequest)
  /-- Waiting for the reply to a call, for a page or, if there is none, for the calling thread. -/
  | waiting (page? : Option PageRequest) (id : UInt64)
  /-- The reply is there. -/
  | answered (page? : Option PageRequest) (reply : Outcome Error Response)
  /-- The thread of a page has come to its end. -/
  | settled (request : PageRequest) (outcome : Outcome Error Page)

namespace Errand

variable {π : Type}

/-- The page that is fetched, unless the calling thread waits itself. -/
def page? : Errand → Option PageRequest
  | begun request => some request
  | waiting page? _ => page?
  | answered page? _ => page?
  | settled request _ => some request

/-- Whoever waits for a reply takes it, if it is there. -/
def wake (errand : Errand) (session : Session π) : Errand × Session π :=
  match errand with
  | waiting page? id =>
      match session.link.reply? id with
      | some reply => (answered page? (reply.mapError .error), { session with link := session.link.dropChannel id })
      | none => (errand, session)
  | _ => (errand, session)

/-- The thread of a page goes on until it has touched something that others can see. -/
def step [Peer π] (errand : Errand) (session : Session π) : Errand × Session π :=
  match errand with
  | begun request =>
      match session.askPage request with
      | (.ok id, session) => (waiting (some request) id, session)
      | (.error failure, session) => (settled request (.error failure), session)
  | answered (some request) reply =>
      let (outcome, session) := (Op.ofOutcome reply >>= Session.readPage request.statement) session
      (settled request outcome, session)
  | _ => errand.wake session

end Errand

/-- What may happen at any time. -/
inductive Shared.Move where
  /-- A message arrives at the server. -/
  | serve
  /-- What the server sent arrives at the client, and whoever waits for it goes on. -/
  | deliver
  /-- The thread of an errand goes on. -/
  | step (number : Nat)
deriving DecidableEq, Repr

/-- A session over a connection to a remote `π`, shared by the calling thread with those that fetch pages. -/
structure Shared (π : Type) where
  session : Session (Remote π)
  /-- The requests under way, by number. -/
  errands : List (Nat × Errand) := []
  /-- The number of the next request. -/
  spawned : Nat := 0
  /-- What happens meanwhile, each time. -/
  plan : List (List Shared.Move) := []

namespace Shared

variable {π : Type}

/-- All errands that wait for a reply take it, if it is there. -/
def wakeAll : List (Nat × Errand) → Session (Remote π) → List (Nat × Errand) × Session (Remote π)
  | [], session => ([], session)
  | (number, errand) :: rest, session =>
      let (errand, session) := errand.wake session
      let (rest, session) := wakeAll rest session
      ((number, errand) :: rest, session)

/-- Begin an errand. -/
def spawn (errand : Errand) (shared : Shared π) : Nat × Shared π :=
  (shared.spawned, { shared with
    errands := shared.errands ++ [(shared.spawned, errand)]
    spawned := shared.spawned + 1 })

/-- Replace an errand. -/
def setErrand (number : Nat) (errand : Errand) (shared : Shared π) : Shared π :=
  { shared with
    errands := shared.errands.map fun entry => if entry.1 = number then (number, errand) else entry }

/-- The end of an errand. -/
def dismiss (number : Nat) (shared : Shared π) : Shared π :=
  { shared with errands := shared.errands.filter (·.1 ≠ number) }

/-- Run an operation of the session. -/
def onSession {α : Type} (operation : Op Error (Session (Remote π)) α) : Op Error (Shared π) α :=
  operation.onPart (·.session) fun session shared => { shared with session }

variable [Peer π]

/-- Something happens. -/
def perform (shared : Shared π) : Move → Shared π
  | .serve => { shared with session := { shared.session with link := shared.session.link.serve } }
  | .deliver =>
      let (errands, session) := wakeAll shared.errands
        { shared.session with link := shared.session.link.deliver }
      { shared with session, errands }
  | .step number =>
      match shared.errands.lookup number with
      | some errand =>
          let (errand, session) := errand.step shared.session
          { shared with session }.setErrand number errand
      | none => shared

/-- Several things happen, one after the other. -/
def run (shared : Shared π) (moves : List Move) : Shared π := moves.foldl perform shared

/-- What was planned happens. -/
def pause (shared : Shared π) : Shared π :=
  match shared.plan with
  | [] => shared
  | moves :: plan => { shared with plan }.run moves

/-- Everything that is on its way arrives. -/
def arriveAll (shared : Shared π) : Shared π :=
  let shared := shared.run (List.replicate shared.session.link.peer.outward.length .serve)
  shared.run (List.replicate shared.session.link.peer.inward.length .deliver)

/-- Wait until an errand has its reply. What was planned happens first; it may be the reply itself. -/
def await (number : Nat) (shared : Shared π) : Shared π :=
  match shared.pause.errands.lookup number with
  | some (.waiting _ _) => shared.pause.arriveAll
  | _ => shared.pause

/-- Send a request and wait for its reply. -/
def call (request : Request) (limit : Duration) : Op Error (Shared π) Response := do
  modify pause
  onSession Session.checkOpen
  let id ← onSession (Session.onLink (Link.submit .caller .unary request))
  fun shared =>
    let (number, shared) := shared.spawn (.waiting none id)
    let shared := shared.await number
    match shared.errands.lookup number with
    | some (.answered _ reply) => (reply, shared.dismiss number)
    | _ => onSession (Session.onLink (Link.await .caller id limit)) (shared.dismiss number)

/-- Send a request that is only confirmed. -/
def callOk (request : Request) (limit : Duration) : Op Error (Shared π) Unit := do
  Session.confirmed request (← call request limit)

/-- Wait for a page. -/
def finish (number : Nat) : Op Error (Shared π) Page := fun shared =>
  let shared := ((shared.pause.perform (.step number)).await number).perform (.step number)
  match shared.errands.lookup number with
  | some (.settled _ outcome) => (outcome, shared.dismiss number)
  | some (.waiting (some request) id) => onSession (Session.awaitPage id request) (shared.dismiss number)
  | _ => (Outcome.halt .endlessWait, shared)

instance : Client (Shared π) Nat where
  start request shared :=
    let (number, shared) := shared.spawn (.begun request)
    (number, shared.pause)
  finish := finish
  closeResult statement limit := callOk (.closeResult statement) limit
  closeStatement statement limit := do
    onSession (modify (Session.forgetArity statement))
    callOk (.closeStatement statement) limit
  note thread event := fun shared =>
    { shared with session := { shared.session with link := shared.session.link.note thread event } }
  call := call
  learnArity statement arity shared := { shared with session := shared.session.learnArity statement arity }

end Shared

namespace Session

/-- A session with nothing on its way, shared from now on. -/
def shared {π : Type} (session : Session π) (plan : List (List Shared.Move)) : Shared π where
  session := { session with link := { session.link with peer := { peer := session.link.peer } } }
  plan := plan

end Session

end PagedResults
