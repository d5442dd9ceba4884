import PagedResults.Codec
import PagedResults.Duration

/-! # Errors of a connection and of its calls

A `WireError` concerns one message: its bytes do not decode, its frame is too long or cut short, or the
stream fails. An `Error` is what a call on a connection returns. Four kinds of it are usually told
apart: a connection that is gone, a deadline that passed, an error that the server reports for one
call, and a page that was requested in the background and never came.
-/

namespace PagedResults

/-- The longest payload of a frame in either direction. -/
def maxFrameLength : Nat := 64 * 1024 * 1024

/-- Why a message could not be sent or received. -/
inductive WireError where
  | undecodable (cause : DecodeError)
  | frameTooLong (length : Nat)
  | truncated (read expected : Nat)
  | stream (reason : String)
deriving DecidableEq, Repr

/-- The error in words. -/
def WireError.message : WireError → String
  | .undecodable cause => s!"failed to decode message: {cause.message}"
  | .frameTooLong length => s!"frame of {length} bytes exceeds the {maxFrameLength} byte limit"
  | .truncated read expected => s!"stream ended after {read} of {expected} bytes"
  | .stream reason => s!"Transport IO Error: {reason}"

/-- An error that the server reports for one call. -/
structure ServiceError where
  code : Int32
  message : String
  sqlState : Option String
deriving DecidableEq, Repr

/-- Why a call failed. -/
inductive Error where
  | transport (reason : String)
  | connectionClosed
  | timeout (id : UInt64) (limit : Duration)
  | service (detail : ServiceError)
  | interrupted (reason : String)
  /-- A row, counted from the start of the result, has a defect in a column. -/
  | malformed (row : UInt64) (column : Nat) (reason : String)
  | unsupported (operation : String)
  | resultClosed
  | protocol (reason : String)
deriving DecidableEq, Repr

namespace Error

/-- What a failure to send or receive means for a call. -/
def ofWire (error : WireError) : Error := .transport error.message

/-- The error in words. -/
def message : Error → String
  | transport reason => s!"transport error: {reason}"
  | connectionClosed => "connection is closed"
  | timeout id limit => s!"request {id} timed out after {limit.text}"
  | service detail => s!"server error {detail.code.toInt}: {detail.message}"
  | interrupted reason => s!"background fetch interrupted: {reason}"
  | malformed row column reason => s!"malformed value at row {row}, column {column}: {reason}"
  | unsupported operation => s!"unsupported operation '{operation}'"
  | resultClosed => "result is closed"
  | protocol reason => s!"protocol error: {reason}"

/-- The error with the names of its parts. -/
def description : Error → String
  | transport reason => s!"Transport({Text.quoted reason})"
  | connectionClosed => "ConnectionClosed"
  | timeout id limit => s!"Timeout \x7b id: {id}, timeout: {limit.text} \x7d"
  | service detail =>
      s!"Service \x7b code: {detail.code.toInt}, message: {Text.quoted detail.message}, sql_state: {Text.quotedOption detail.sqlState} \x7d"
  | interrupted reason => s!"Interrupted({Text.quoted reason})"
  | malformed row column reason =>
      s!"DataFormat \x7b row: {row}, column: {column}, reason: {Text.quoted reason} \x7d"
  | unsupported operation => s!"Unsupported({Text.quoted operation})"
  | resultClosed => "ResultClosed"
  | protocol reason => s!"Protocol({Text.quoted reason})"

/-- The connection is gone. -/
def isTransport : Error → Bool
  | transport _ | connectionClosed => true
  | _ => false

/-- A deadline passed. -/
def isTimeout : Error → Bool
  | timeout _ _ => true
  | _ => false

/-- The server refused one call. -/
def isService : Error → Bool
  | service _ => true
  | _ => false

/-- A background request came to nothing. -/
def isInterrupted : Error → Bool
  | interrupted _ => true
  | _ => false

end Error

end PagedResults
