import PagedResults.Address
import PagedResults.Error

/-! # The journal

What happens on a connection is noted in the order in which it happens, by thread: the thread that
calls, the thread that reads responses, and the threads that fetch pages in the background. Each note
has a level and a text.
-/

namespace PagedResults

inductive Level where
  | trace | debug | info | warn
deriving DecidableEq, Repr

/-- The name of a level. -/
def Level.name : Level → String
  | .trace => "TRACE" | .debug => "DEBUG" | .info => "INFO" | .warn => "WARN"

/-- Where something happens. -/
inductive Thread where
  | caller
  | reader
  | fetch
  /-- Any other thread that makes calls. -/
  | other
deriving DecidableEq, Repr

/-- What can be noted. -/
inductive Event where
  | frameSent (length : Nat)
  | frameReceived (length : Nat)
  | requestSent (name : String) (id : UInt64)
  | responseDelivered (id : UInt64) (last : Bool)
  | responseDropped (id : UInt64)
  | requestTimedOut (id : UInt64) (limit : Duration)
  | connectionFailed (cause : Error)
  | connectionClosing
  | shutdownMissing
  | readerHalted
  | serverGone
  | readerStopped (cause : WireError)
  | connected (address : Address) (connection : UInt64)
  | connectionClosed (connection : UInt64)
  | firstPage (statement : UInt64) (rows : Nat) (isLast : Bool)
  | fetching (statement offset : UInt64)
  | prefetching (statement offset : UInt64)
  | offsetMismatch (statement expected found : UInt64)
  | emptyPage (statement offset : UInt64)
  | fetchDiscarded (cause : Error)
  | resultClosed (statement : UInt64)
  | closeFailed (statement : UInt64) (cause : Error)
  | allRowsRead (rows : Nat)
  | workerStopping (worker : Nat)
  | workerHalted (worker : Nat)
deriving DecidableEq, Repr

namespace Event

/-- How important a note is. -/
def level : Event → Level
  | frameSent _ | frameReceived _ | requestSent .. | responseDelivered .. | fetching .. => .trace
  | requestTimedOut .. | shutdownMissing | serverGone | firstPage .. | prefetching ..
  | fetchDiscarded _ | resultClosed _ | closeFailed .. | allRowsRead _ | workerStopping _ => .debug
  | connectionClosing | connected .. | connectionClosed _ => .info
  | responseDropped _ | connectionFailed _ | readerHalted | readerStopped _ | offsetMismatch ..
  | emptyPage .. | workerHalted _ => .warn

/-- What a note says. -/
def text : Event → String
  | frameSent length => s!"sent frame of {length} bytes"
  | frameReceived length => s!"received frame of {length} bytes"
  | requestSent name id => s!"sent {name} request {id}"
  | responseDelivered id last => s!"delivering response for request {id} (last: {last})"
  | responseDropped id => s!"dropping response for unknown request {id}"
  | requestTimedOut id limit => s!"request {id} timed out after {limit.text}"
  | connectionFailed cause => s!"connection failed: {cause.message}"
  | connectionClosing => "closing connection"
  | shutdownMissing => "no shutdown hook; leaving reader thread to exit on its own"
  | readerHalted => "reader thread panicked"
  | serverGone => "server closed the connection"
  | readerStopped cause => s!"reader stopped: {cause.message}"
  | connected address connection => s!"connected to {address.toText} as connection {connection}"
  | connectionClosed connection => s!"connection {connection} closed"
  | firstPage statement rows isLast =>
      s!"statement {statement}: first page holds {rows} rows (last: {isLast})"
  | fetching statement offset => s!"fetching statement {statement} from offset {offset}"
  | prefetching statement offset => s!"statement {statement}: prefetching from offset {offset}"
  | offsetMismatch statement expected found =>
      s!"statement {statement}: expected page at offset {expected}, got {found}"
  | emptyPage statement offset =>
      s!"statement {statement}: empty page at offset {offset} without last flag"
  | fetchDiscarded cause => s!"discarded fetch: {cause.message}"
  | resultClosed statement => s!"statement {statement}: result closed"
  | closeFailed statement cause => s!"statement {statement}: close on drop failed: {cause.message}"
  | allRowsRead rows => s!"materialized all {rows} rows"
  | workerStopping worker => s!"shutting down worker {worker}"
  | workerHalted worker => s!"worker {worker} panicked"

end Event

/-- The notes of all threads in order. -/
abbrev Journal := Array (Thread × Event)

/-- The notes of one thread in order. -/
def Journal.of (journal : Journal) (thread : Thread) : List Event :=
  journal.toList.filterMap fun (noted, event) => if noted = thread then some event else none

end PagedResults
