import PagedResults.Journal
import PagedResults.Row

/-! # Page sources

A page source hands out the result of a statement page by page. A page is requested on a thread of its
own: `start` begins the request and `finish` waits for it, and the caller may do other things between
the two. There is always a thread for it: that the system refuses to start one is left out.
-/

namespace PagedResults

/-- A request for the page of a result that starts at `offset`. -/
structure PageRequest where
  statement : UInt64
  offset : UInt64
  size : UInt32
  limit : Duration
deriving DecidableEq, Repr

/-- Where pages come from: `σ` is the state of the source and `ρ` a request under way. -/
class PageSource (σ : Type) (ρ : outParam Type) where
  /-- Begin to fetch a page. -/
  start : PageRequest → σ → ρ × σ
  /-- Wait for a page. -/
  finish : ρ → Op Error σ Page
  /-- Release the result of a statement. -/
  closeResult : (statement : UInt64) → (limit : Duration) → Op Error σ Unit
  /-- Release a statement. -/
  closeStatement : (statement : UInt64) → (limit : Duration) → Op Error σ Unit
  /-- Note an event. -/
  note : Thread → Event → σ → σ

/-- Note several events. -/
def PageSource.noteAll {σ ρ : Type} [PageSource σ ρ] (thread : Thread) (events : List Event)
    (source : σ) : σ :=
  events.foldl (fun source event => note thread event source) source

end PagedResults
