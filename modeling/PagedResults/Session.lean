import PagedResults.Cursor
import PagedResults.Link
import PagedResults.Message.Description

/-! # Sessions

A session is the client's view of one connection: it turns each operation into a request, waits for the
response and takes it apart. It remembers how many columns every statement has, because a page in
transit does not say so. A session is a page source for the cursors of its results. Once it is closed,
every operation fails without a request.
-/

namespace PagedResults

/-- A statement that the server has prepared. -/
structure PreparedStatement where
  id : UInt64
  columns : List Column
deriving DecidableEq, Repr

/-- A session over a connection to `π`. -/
structure Session (π : Type) where
  link : Link π
  options : ConnectionOptions
  connection : UInt64 := 0
  /-- The number of columns of every statement whose columns are known. -/
  arities : List (UInt64 × Nat) := []
  closed : Bool := false

/-- A page that was requested. -/
inductive Ticket where
  /-- The request came to an end at once. -/
  | settled (outcome : Outcome Error Page)
  /-- The request waits for the reply to a call. -/
  | waiting (id : UInt64) (request : PageRequest)

/-- A page source over which results are opened. Here `σ` is the state of the source and `ρ` a request under
way. -/
class Client (σ : Type) (ρ : outParam Type) extends PageSource σ ρ where
  /-- Send a request and wait for its reply. -/
  call : Request → (limit : Duration) → Op Error σ Response
  /-- Remember the number of columns of a statement. -/
  learnArity : (statement : UInt64) → (arity : Nat) → σ → σ

namespace Session

variable {π : Type}

/-- Nobody listens at the address. -/
def refused (address : Address) : Error :=
  .transport s!"connect to {address.toText}: Connection refused (os error 111)"

/-- The response does not answer the request. -/
def unexpected (operation : String) (response : Response) : Error :=
  .protocol s!"unexpected reply to {operation}: {response.description}"

/-- The reply to a request that is only confirmed. -/
def confirmed {σ : Type} (request : Request) : Response → Op Error σ Unit
  | .ok => return
  | other => Op.fail (unexpected request.name other)

def isOpen (session : Session π) : Bool := !session.closed && session.link.isOpen

/-- Note an event. -/
def note (thread : Thread) (event : Event) : Op Error (Session π) Unit :=
  modify fun session => { session with link := session.link.note thread event }

/-- Remember the number of columns of a statement. -/
def learnArity (statement : UInt64) (arity : Nat) (session : Session π) : Session π :=
  { session with
    arities := (statement, arity) :: session.arities.filter (·.1 ≠ statement) }

/-- Forget the number of columns of a statement. -/
def forgetArity (statement : UInt64) (session : Session π) : Session π :=
  { session with arities := session.arities.filter (·.1 ≠ statement) }

/-- Read a page, for which the number of columns must be known. -/
def readPage (statement : UInt64) (response : Response) : Op Error (Session π) Page := do
  match response with
  | .page page =>
      match (← get).arities.lookup statement with
      | some arity => Op.ofOutcome (Page.ofWire arity page)
      | none => Op.fail (.protocol s!"no column count known for statement {statement}")
  | other => Op.fail (unexpected "fetch" other)

variable [Peer π]

/-- Run an operation of the connection. -/
def onLink {α : Type} (operation : Op Error (Link π) α) : Op Error (Session π) α :=
  operation.onPart (·.link) fun link session => { session with link }

/-- Fail once the session is closed. -/
def checkOpen : Op Error (Session π) Unit := do
  if (← get).closed then Op.fail .connectionClosed

/-- Send a request and wait for its reply. -/
def call (request : Request) (limit : Duration) : Op Error (Session π) Response := do
  checkOpen
  onLink (Link.call .caller request limit)

/-- Send a request that is only confirmed. -/
def callOk (request : Request) (limit : Duration) : Op Error (Session π) Unit := do
  confirmed request (← call request limit)

/-- Open the connection with the credentials of the options. -/
def handshake (options : ConnectionOptions) : Op Error (Link π) UInt64 := do
  let request := .openConnection options.user options.password options.properties
  match ← Link.call .caller request options.callTimeout with
  | .connected connection =>
      modify (Link.note .caller (.connected options.address connection))
      return connection
  | other => Op.fail (unexpected "open_connection" other)

/-- Start a session with the server at the other end. If the server does not let the client in, the
connection is closed again. -/
def start (options : ConnectionOptions) (link : Link π) : Outcome Error UInt64 × Session π :=
  match handshake options link with
  | (.ok connection, link) => (.ok connection, { link, options, connection })
  | (.error failure, link) =>
      (.error failure, { link := link.close, options, closed := true })

/-! ## Pages -/

/-- Wait for a page that was requested on a thread. -/
def awaitPage (id : UInt64) (request : PageRequest) : Op Error (Session π) Page := do
  let response ← onLink (Link.await .fetch id request.limit)
  readPage request.statement response

/-- Send the request for a page. -/
def askPage (request : PageRequest) : Op Error (Session π) UInt64 := do
  checkOpen
  onLink <| Link.submit .fetch .unary (.fetch request.statement request.offset request.size)

/-- Request a page in the background. The thread goes as far as it can at once: if the reply is there, the page
is read. Any other course of the thread is one of a session that is shared. -/
def startFetch (request : PageRequest) : Op Error (Session π) Ticket := do
  let id ← askPage request
  match (← get).link.reply? id with
  | some _ => .settled <$> (.ok <$> awaitPage id request)
  | none => return .waiting id request

/-- Release the result of a statement. -/
def closeResult (statement : UInt64) (limit : Duration) : Op Error (Session π) Unit :=
  callOk (.closeResult statement) limit

/-- Release a statement. -/
def closeStatement (statement : UInt64) (limit : Duration) : Op Error (Session π) Unit := do
  modify (forgetArity statement)
  callOk (.closeStatement statement) limit

instance : Client (Session π) Ticket where
  start request session :=
    match startFetch request session with
    | (.ok ticket, session) => (ticket, session)
    | (.error failure, session) => (.settled (.error failure), session)
  finish
    | .settled outcome => Op.ofOutcome outcome
    | .waiting id request => awaitPage id request
  closeResult := closeResult
  closeStatement := closeStatement
  note thread event session := { session with link := session.link.note thread event }
  call := call
  learnArity := learnArity

/-- Request a page and wait for it. -/
def fetch (statement offset : UInt64) (fetchSize : UInt32) (limit : Duration) :
    Op Error (Session π) Page := do
  let response ← call (.fetch statement offset fetchSize) limit
  readPage statement response

/-! ## Statements -/

def ping : Op Error (Session π) Unit := do
  match ← call .ping (← get).options.callTimeout with
  | .pong => return
  | other => Op.fail (unexpected "ping" other)

def commit : Op Error (Session π) Unit := do callOk .commit (← get).options.callTimeout

def rollback : Op Error (Session π) Unit := do callOk .rollback (← get).options.callTimeout

/-- Have the server prepare a statement. -/
def prepare (sql : String) : Op Error (Session π) PreparedStatement := do
  match ← call (.prepare sql) (← get).options.callTimeout with
  | .prepared statement columns =>
      modify (learnArity statement columns.length)
      return ⟨statement, columns⟩
  | other => Op.fail (unexpected "prepare" other)

/-- Say goodbye and close the connection. Closing again does nothing. -/
def close : Op Error (Session π) Unit := do
  let session ← get
  if session.closed then return
  set { session with closed := true }
  let goodbye ←
    (onLink (Link.call .caller .closeConnection session.options.callTimeout)).attempt
  modify fun session => { session with link := session.link.close }
  note .caller (.connectionClosed session.connection)
  match goodbye with
  | .ok .ok => return
  | .ok other => Op.fail (unexpected "close_connection" other)
  | .error cause => Op.fail cause

/-- Close the connection of a session that nobody uses any more. -/
def drop (session : Session π) : Session π := { session with link := session.link.close }

end Session

end PagedResults
