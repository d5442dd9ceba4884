import PagedResults.Channel
import PagedResults.Journal

/-! # Pending calls

All calls of a connection share one stream of responses, told apart by their ids. The table of pending
calls knows which ids still expect something and whether one response answers the call or several do.
Every step of the table says what is to be handed to whom and what is to be noted. A step is whole: between
looking up a call, removing it and handing it a response, no other step is taken.

A connection is live until it is lost or closed; then every pending call fails, and so does every later
one. The first failure of a live connection is kept and returned from then on; a connection that is
being closed has no failure but that it is closed.
-/

namespace PagedResults

/-- How a call is answered. -/
inductive Shape where
  /-- By one response. -/
  | unary
  /-- By all responses up to one marked as the last or an error. -/
  | stream
deriving DecidableEq, Repr

/-- Whether a connection can be used. -/
inductive Standing where
  | live
  /-- Closed by the failure `cause`, or on purpose. -/
  | closed (cause : Option Error)
deriving DecidableEq, Repr

/-- The error of every call on a closed connection. -/
def Standing.error? : Standing → Option Error
  | live => none
  | closed cause => some (cause.getD .connectionClosed)

/-- What a step of the table brings about. -/
inductive Effect where
  | deliver (id : UInt64) (delivery : Delivery)
  | note (event : Event)
deriving DecidableEq, Repr

/-- The calls of a connection that still expect something. -/
structure Calls where
  /-- The id of the next call. -/
  nextId : UInt64 := 1
  pending : List (UInt64 × Shape) := []
  standing : Standing := .live
  /-- The connection is being closed on purpose. -/
  closing : Bool := false
deriving DecidableEq, Repr

namespace Calls

/-- The shape of a pending call. -/
def shape? (id : UInt64) (calls : Calls) : Option Shape := calls.pending.lookup id

/-- Forget a call. -/
def withdraw (id : UInt64) (calls : Calls) : Calls :=
  { calls with pending := calls.pending.filter (·.1 ≠ id) }

/-- Give a call its id. The id is used up even if the connection is closed. -/
def register (shape : Shape) (calls : Calls) : Except Error UInt64 × Calls :=
  let advanced := { calls with nextId := calls.nextId + 1 }
  match calls.standing.error? with
  | some cause => (.error cause, advanced)
  | none =>
      (.ok calls.nextId, { advanced with pending := calls.pending ++ [(calls.nextId, shape)] })

/-- What a response means to a call. -/
def deliveryOf (shape : Shape) (last : Bool) : Response → Delivery
  | .error detail => .failure (.service detail)
  | response => .message response (last || shape = .unary)

/-- A response arrives. Its call is looked up, removed if that was its end, and handed the response, as one step. -/
def arrive (envelope : ResponseEnvelope) (calls : Calls) : Calls × List Effect :=
  match calls.shape? envelope.id with
  | none => (calls, [.note (.responseDropped envelope.id)])
  | some shape =>
      let delivery := deliveryOf shape envelope.last envelope.response
      (if delivery.isFinal then calls.withdraw envelope.id else calls,
        [.note (.responseDelivered envelope.id envelope.last), .deliver envelope.id delivery])

/-- Close the connection and fail every pending call. -/
def shut (cause : Option Error) (calls : Calls) : Calls × List Effect :=
  match calls.standing with
  | .closed _ => (calls, [])
  | .live =>
      let cause := if calls.closing then none else cause
      let failure := Delivery.failure (cause.getD .connectionClosed)
      ({ calls with standing := .closed cause, pending := [] },
        (cause.map fun cause => Effect.note (.connectionFailed cause)).toList
          ++ calls.pending.map fun (id, _) => .deliver id failure)

/-- Stop delivering to a call; the flag says whether the call was pending. -/
def cancel (id : UInt64) (calls : Calls) : Bool × Calls × List Effect :=
  match calls.shape? id with
  | none => (false, calls, [])
  | some _ =>
      (true, calls.withdraw id, [.deliver id (.failure (.interrupted s!"request {id} cancelled"))])

end Calls

end PagedResults
