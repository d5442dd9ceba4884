import PagedResults.Failure
import PagedResults.Message
import PagedResults.Server.Catalog

/-! # Conversations

A conversation is what the server remembers of one connection: the statements that are open, each with
its text and its result if it has one, and the id of the latest statement. Ids are never used twice.
Every request is answered under its id by a block of responses, of which the last one is marked: a
single response, or all pages of a result that is streamed.
-/

namespace PagedResults

/-- A statement that is open on the server. -/
structure Statement where
  sql : String
  result : Option Table := none
deriving Repr

/-- What the server knows of one connection. -/
structure Conversation where
  statements : List (UInt64 × Statement) := []
  latest : UInt64 := 0
  /-- The connection id that is given out next. -/
  nextConnection : UInt64 := 1
  /-- The statements put to the data set so far. -/
  asked : List (String × List Value) := []
deriving Repr

/-- The place behind a page. -/
def WirePage.next (page : WirePage) : UInt64 := page.offset + UInt64.ofNat page.rows.length

/-- The responses to one request. -/
structure Block where
  responses : List (Bool × Response)
  /-- The connection ends behind the block. -/
  ends : Bool := false
deriving Repr

namespace Block

/-- A single response. -/
def one (response : Response) : Block := ⟨[(true, response)], false⟩

/-- A single response, or the error in its place. -/
def ofResult : Except ServiceError Response → Block
  | .ok response => one response
  | .error detail => one (.error detail)

/-- The first page of a result and the pages behind it. -/
def ofPages (statement : UInt64) (columns : List Column) (first : WirePage) (rest : List WirePage) :
    Block :=
  ⟨(first.isLast, .resultSet statement columns first)
    :: rest.map fun page => (page.isLast, .page page), false⟩

/-- The block as it is sent. -/
def envelopes (id : UInt64) (block : Block) : List ResponseEnvelope :=
  block.responses.map fun (last, response) => ⟨id, last, response⟩

end Block

namespace Conversation

def unknownStatement (id : UInt64) : ServiceError := ⟨3, s!"unknown statement {id}", some "HY010"⟩

def noOpenResult (id : UInt64) : ServiceError :=
  ⟨4, s!"statement {id} has no open result", some "24000"⟩

def badParameter (cause : CellError) : ServiceError := ⟨5, s!"bad parameter: {cause.message}", none⟩

/-- A statement that is open. -/
def statement? (id : UInt64) (conversation : Conversation) : Option Statement :=
  conversation.statements.lookup id

/-- Replace a statement that is open. -/
def setStatement (id : UInt64) (statement : Statement) (conversation : Conversation) :
    Conversation :=
  { conversation with
    statements := conversation.statements.map fun entry =>
      if entry.1 = id then (id, statement) else entry }

/-- Close a statement. -/
def dropStatement (id : UInt64) (conversation : Conversation) : Conversation :=
  { conversation with statements := conversation.statements.filter (·.1 ≠ id) }

/-- Open a statement under a new id. -/
def openStatement (sql : String) (conversation : Conversation) : UInt64 × Conversation :=
  let id := conversation.latest + 1
  (id, { conversation with
    latest := id
    statements := conversation.statements ++ [(id, { sql })] })

/-- Put a statement to the data set. -/
def ask (data : Dataset) (sql : String) (parameters : List Value) (conversation : Conversation) :
    Except ServiceError Table × Conversation :=
  (data sql parameters, { conversation with asked := conversation.asked ++ [(sql, parameters)] })

/-- Run a statement; its result replaces the one it had. -/
def runStatement (data : Dataset) (id : UInt64) (parameters : List Value) (maxRows : UInt64)
    (conversation : Conversation) : Except ServiceError Table × Conversation :=
  match conversation.statement? id with
  | none => (.error (unknownStatement id), conversation)
  | some statement =>
      match conversation.ask data statement.sql parameters with
      | (.error detail, conversation) => (.error detail, conversation)
      | (.ok table, conversation) =>
          let table := table.cut maxRows
          (.ok table, conversation.setStatement id { statement with result := some table })

/-- The response to running a statement: the first page of its result. -/
def firstPage (id : UInt64) (fetchSize : UInt32) (table : Table) : Response :=
  .resultSet id table.columns (table.page 0 fetchSize)

/-- The page of a result. -/
def fetch (id offset : UInt64) (fetchSize : UInt32) (conversation : Conversation) :
    Except ServiceError Response :=
  match conversation.statement? id with
  | none => .error (unknownStatement id)
  | some { result := none, .. } => .error (noOpenResult id)
  | some { result := some table, .. } => .ok (.page (table.page offset fetchSize))

/-- The pages behind one that was sent, each fetched where the page before it ends, up to the last one or
the first that cannot be fetched. -/
def pagesBehind (id : UInt64) (fetchSize : UInt32) (conversation : Conversation) (sent : WirePage) :
    List WirePage :=
  if sent.isLast then []
  else
    match conversation.fetch id sent.next fetchSize with
    | .ok (.page page) =>
        -- No table has more rows than there are offsets: only the last page can fail to go on.
        if sent.next < page.next then page :: pagesBehind id fetchSize conversation page else [page]
    | _ => []
termination_by UInt64.size - sent.next.toNat
decreasing_by
  have farther : sent.next.toNat < page.next.toNat := UInt64.lt_iff_toNat_lt.mp ‹_›
  have inside := page.next.toNat_lt
  unfold UInt64.size
  omega

/-- The values of parameters in transit. -/
def parametersOf : List Cell → Outcome CellError (List Value)
  | [] => .ok []
  | cell :: rest => do
      let value ← Value.ofCell cell
      let values ← parametersOf rest
      return value :: values

/-- Answer a request. A parameter that cannot be set aside halts the thread of the connection. -/
def answer (data : Dataset) (request : Request) (conversation : Conversation) :
    Except Halt (Block × Conversation) :=
  match request with
  | .closeConnection => .ok (⟨[(true, .ok)], true⟩, conversation)
  | .openConnection .. =>
      .ok (.one (.connected conversation.nextConnection),
        { conversation with nextConnection := conversation.nextConnection + 1 })
  | .prepare sql =>
      match conversation.ask data sql [] with
      | (.error detail, conversation) => .ok (.one (.error detail), conversation)
      | (.ok table, conversation) =>
          let (id, conversation) := conversation.openStatement sql
          .ok (.one (.prepared id table.columns), conversation)
  | .execute id parameters fetchSize maxRows =>
      match parametersOf parameters with
      | .error (.halt reason) => .error reason
      | .error (.error cause) => .ok (.one (.error (badParameter cause)), conversation)
      | .ok parameters =>
          let (result, conversation) := conversation.runStatement data id parameters maxRows
          .ok (.ofResult (result.map (firstPage id fetchSize)), conversation)
  | .prepareAndExecute sql fetchSize maxRows =>
      let (id, conversation) := conversation.openStatement sql
      match conversation.runStatement data id [] maxRows with
      | (.error detail, conversation) =>
          .ok (.one (.error detail), conversation.dropStatement id)
      | (.ok table, conversation) => .ok (.one (firstPage id fetchSize table), conversation)
  | .fetch id offset fetchSize =>
      .ok (.ofResult (conversation.fetch id offset fetchSize), conversation)
  | .executeStream sql fetchSize =>
      let (id, conversation) := conversation.openStatement sql
      let (result, conversation) := conversation.runStatement data id [] 0
      let block := match result with
        | .error detail => Block.one (.error detail)
        | .ok table =>
            let first := table.page 0 fetchSize
            .ofPages id table.columns first (conversation.pagesBehind id fetchSize first)
      .ok (block, conversation.dropStatement id)
  | .closeResult id =>
      let closed := match conversation.statement? id with
        | some statement => conversation.setStatement id { statement with result := none }
        | none => conversation
      .ok (.one .ok, closed)
  | .closeStatement id => .ok (.one .ok, conversation.dropStatement id)
  | .commit | .rollback => .ok (.one .ok, conversation)
  | .ping => .ok (.one .pong, conversation)

end Conversation

end PagedResults
