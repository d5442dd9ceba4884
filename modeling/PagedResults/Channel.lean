import PagedResults.Error
import PagedResults.Failure
import PagedResults.Message

/-! # Channels

A channel stands between the thread that reads responses and the receiver of one call. It holds what
was handed in and not yet taken, and never makes the reading thread wait. The receiver takes deliveries
in order, up to the message marked as the last one or the first failure; after that it gets nothing.
A channel that is not fed any more ends with a failure behind what it still holds.
-/

namespace PagedResults

/-- What is handed to the receiver of a call. -/
inductive Delivery where
  | message (response : Response) (last : Bool)
  | failure (cause : Error)
deriving DecidableEq, Repr

/-- A delivery after which the receiver takes nothing more. -/
def Delivery.isFinal : Delivery → Bool
  | message _ last => last
  | failure _ => true

/-- What one receiver may still take. -/
structure Channel where
  queue : List Delivery := []
  /-- More may be handed in. -/
  fed : Bool := true
  /-- The receiver took a final delivery. -/
  done : Bool := false
deriving DecidableEq, Repr

namespace Channel

/-- Hand in a delivery. -/
def push (delivery : Delivery) (channel : Channel) : Channel :=
  { channel with queue := channel.queue ++ [delivery] }

/-- Nothing more is handed in. -/
def finish (channel : Channel) : Channel := { channel with fed := false }

/-- What the receiver takes without waiting, where no response means the end; nothing if it has to
wait. -/
def take? (channel : Channel) : Option (Except Error (Option Response) × Channel) :=
  if channel.done then some (.ok none, channel)
  else
    match channel.queue with
    | .message response last :: rest =>
        some (.ok (some response), { channel with queue := rest, done := last })
    | .failure cause :: rest => some (.error cause, { channel with queue := rest, done := true })
    | [] =>
        if channel.fed then none else some (.error .connectionClosed, { channel with done := true })

/-- Wait for at most `limit`. The channel does not know the id of its call and reports id 0, which no
call ever has. -/
def receive (limit : Duration) (channel : Channel) : Outcome Error (Option Response) × Channel :=
  match channel.take? with
  | some (received, rest) => (received.mapError .error, rest)
  | none => (Outcome.fail (.timeout 0 limit), channel)

/-- Wait for as long as it takes. -/
def next (channel : Channel) : Outcome Error (Option Response) × Channel :=
  match channel.take? with
  | some (received, rest) => (received.mapError .error, rest)
  | none => (Outcome.halt .endlessWait, channel)

end Channel

end PagedResults
