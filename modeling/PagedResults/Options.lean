import PagedResults.Address
import PagedResults.Duration

/-! # Options of connections and results

Options carry what the caller chose; defaults stand for what was left open.
-/

namespace PagedResults

/-- The rows requested for a page when the caller leaves the number open. -/
def defaultFetchSize : UInt32 := 100

/-- The most rows left over that start a request in the background. -/
def greatestThreshold : UInt32 := 20

/-- The deadline of a call unless another is set. -/
def defaultCallTimeout : Duration := .ofSeconds 30

/-- How the rows of a result can be visited. -/
inductive CursorMode where
  /-- Once, in order; rows that were visited are dropped. -/
  | forward
  /-- In any order; every row seen is kept. -/
  | scrollable
deriving DecidableEq, Repr, Inhabited

/-- The name of a mode. -/
def CursorMode.name : CursorMode → String
  | forward => "forward"
  | scrollable => "scrollable"

/-- How a result is paged. -/
structure FetchOptions where
  /-- The rows requested for each page; 0 selects the default. -/
  fetchSize : UInt32 := 0
  /-- The most rows ever shown; 0 means all. -/
  maxRows : UInt64 := 0
  /-- The deadline of each page; no time at all waits for ever. -/
  timeout : Duration := defaultCallTimeout
  mode : CursorMode := .forward
deriving DecidableEq, Repr, Inhabited

namespace FetchOptions

/-- The rows that a page request asks for. -/
def effectiveFetchSize (options : FetchOptions) : UInt32 :=
  if options.fetchSize = 0 then defaultFetchSize else options.fetchSize

/-- A request in the background starts once this many rows or fewer are left. -/
def prefetchThreshold (options : FetchOptions) : Nat :=
  min greatestThreshold.toNat options.effectiveFetchSize.toNat

end FetchOptions

/-- Where to connect, and as whom. -/
structure ConnectionOptions where
  address : Address
  user : String := ""
  password : String := ""
  /-- Passed to the server as they are. -/
  properties : List (String × String) := []
  callTimeout : Duration := defaultCallTimeout
  /-- The deadline for connecting; no time at all leaves it to the network. -/
  connectTimeout : Duration := .ofSeconds 10
deriving DecidableEq, Repr

end PagedResults
