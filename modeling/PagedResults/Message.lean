import PagedResults.Row

/-! # Requests and responses

The client sends requests, each under an id of its own; the server answers under the same id with one
response or, for a streamed statement, with several, of which the last is marked.
-/

namespace PagedResults

/-- What a client asks for. -/
inductive Request where
  | openConnection (user password : String) (properties : List (String × String))
  | closeConnection
  | prepare (sql : String)
  | execute (statement : UInt64) (parameters : List Cell) (fetchSize : UInt32) (maxRows : UInt64)
  | prepareAndExecute (sql : String) (fetchSize : UInt32) (maxRows : UInt64)
  | fetch (statement : UInt64) (offset : UInt64) (fetchSize : UInt32)
  /-- Run a statement and send every page of its result without further requests. -/
  | executeStream (sql : String) (fetchSize : UInt32)
  | closeResult (statement : UInt64)
  | closeStatement (statement : UInt64)
  | commit
  | rollback
  | ping
deriving DecidableEq, Repr

/-- The name of a request. -/
def Request.name : Request → String
  | .openConnection .. => "open_connection"
  | .closeConnection => "close_connection"
  | .prepare .. => "prepare"
  | .execute .. => "execute"
  | .prepareAndExecute .. => "prepare_and_execute"
  | .fetch .. => "fetch"
  | .executeStream .. => "execute_stream"
  | .closeResult .. => "close_result"
  | .closeStatement .. => "close_statement"
  | .commit => "commit"
  | .rollback => "rollback"
  | .ping => "ping"

/-- What a server answers. -/
inductive Response where
  | ok
  | pong
  | connected (connection : UInt64)
  | prepared (statement : UInt64) (columns : List Column)
  /-- The first page of a result. -/
  | resultSet (statement : UInt64) (columns : List Column) (first : WirePage)
  | page (page : WirePage)
  | error (detail : ServiceError)
deriving DecidableEq, Repr

/-- A request under its id. -/
structure RequestEnvelope where
  id : UInt64
  request : Request
deriving DecidableEq, Repr

/-- A response to the request with an id. -/
structure ResponseEnvelope where
  id : UInt64
  /-- No further response follows for this id. -/
  last : Bool
  response : Response
deriving DecidableEq, Repr

end PagedResults
