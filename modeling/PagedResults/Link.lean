import PagedResults.Calls
import PagedResults.Framing
import PagedResults.Message.Codec

/-! # Connections

A link is the client's end of a connection. Requests go out as frames; whoever is at the other end
reacts to the bytes with bytes of its own. One thread reads all responses and hands each to the channel
of its call.

The reading thread stops at the end of the stream or at its first fault, and closes the connection
then. A length that cannot be set aside halts the thread instead: nobody reads any more, and the
connection stays open.
-/

namespace PagedResults

/-- What comes back from the other end of a connection. -/
structure Reaction where
  events : List ReadEvent := []
  /-- What the other end notes on the thread that sent to it. -/
  notes : List Event := []

/-- The other end of a connection. -/
class Peer (π : Type) where
  /-- Take some bytes and react to them. -/
  react : ByteArray → π → Reaction × π

/-- What the reading thread does. -/
inductive ReaderState where
  | reading
  | stopped
  | halted
deriving DecidableEq, Repr

/-- One end of a connection, with the other end `π`. -/
structure Link (π : Type) where
  peer : π
  calls : Calls := {}
  /-- The channels of the calls that were registered and not yet received. -/
  channels : List (UInt64 × Channel) := []
  inbound : Inbound := {}
  outbound : Outbound := {}
  reader : ReaderState := .reading
  /-- The receiving side can be ended from this end. -/
  canShutDown : Bool := true
  journal : Journal := #[]

namespace Link

variable {π : Type}

/-- No failure closed the connection, and nobody did. -/
def isOpen (link : Link π) : Bool := link.calls.standing == .live

/-- Note an event. -/
def note (thread : Thread) (event : Event) (link : Link π) : Link π :=
  { link with journal := link.journal.push (thread, event) }

/-- Note several events. -/
def noteAll (thread : Thread) (events : List Event) (link : Link π) : Link π :=
  events.foldl (fun link event => link.note thread event) link

/-- The channel of a call. -/
def channel? (id : UInt64) (link : Link π) : Option Channel := link.channels.lookup id

/-- Replace the channel of a call. -/
def setChannel (id : UInt64) (channel : Channel) (link : Link π) : Link π :=
  { link with
    channels := link.channels.map fun entry => if entry.1 = id then (id, channel) else entry }

/-- Forget the channel of a call. -/
def dropChannel (id : UInt64) (link : Link π) : Link π :=
  { link with channels := link.channels.filter (·.1 ≠ id) }

/-- Bring about one effect. -/
def apply (thread : Thread) (link : Link π) : Effect → Link π
  | .note event => link.note thread event
  | .deliver id delivery =>
      match link.channel? id with
      | some channel => link.setChannel id (channel.push delivery)
      | none => link

/-- Take a step of the table and bring about its effects. -/
def settle (thread : Thread) (step : Calls × List Effect) (link : Link π) : Link π :=
  step.2.foldl (apply thread) { link with calls := step.1 }

/-- Register a call and open its channel. -/
def register (shape : Shape) (link : Link π) : Except Error UInt64 × Link π :=
  match link.calls.register shape with
  | (.error cause, calls) => (.error cause, { link with calls })
  | (.ok id, calls) =>
      (.ok id, { link with calls, channels := link.channels ++ [(id, ({} : Channel))] })

/-- Forget a call and its channel. -/
def forget (id : UInt64) (link : Link π) : Link π :=
  { link with calls := link.calls.withdraw id }.dropChannel id

/-- A response arrives. -/
def arrive (thread : Thread) (envelope : ResponseEnvelope) (link : Link π) : Link π :=
  link.settle thread (link.calls.arrive envelope)

/-- Close the connection and fail every pending call. -/
def shut (thread : Thread) (cause : Option Error) (link : Link π) : Link π :=
  link.settle thread (link.calls.shut cause)

/-! ## The reading thread -/

/-- Stop reading because of a fault. -/
def stopReading (cause : WireError) (link : Link π) : Link π :=
  let link := if link.calls.closing then link else link.note .reader (.readerStopped cause)
  { link.shut .reader (some (.ofWire cause)) with reader := .stopped }

/-- Deliver the responses that frames carry, up to the first that carries none. -/
def deliverFrames : List ByteArray → Link π → Link π
  | [], link => link
  | payload :: rest, link =>
      let link := link.note .reader (.frameReceived payload.size)
      match ResponseEnvelope.codec.decode (Bytes.ofBuffer payload) with
      | .ok envelope => deliverFrames rest (link.arrive .reader envelope)
      | .error (.error cause) => link.stopReading cause
      | .error (.halt _) => { link with reader := .halted }

/-- Read what there is to read. -/
def read (link : Link π) : Link π :=
  if link.reader ≠ .reading then link
  else
    let (payloads, pause, inbound) := Framing.receiveAll link.inbound
    let link := deliverFrames payloads { link with inbound }
    if link.reader ≠ .reading then link
    else
      match pause with
      | .waiting => link
      | .failed cause => link.stopReading cause
      | .ended =>
          let cause := Error.transport "server closed the connection"
          { (link.note .reader .serverGone).shut .reader (some cause) with reader := .stopped }

/-- Something comes from the other end. -/
def accept (thread : Thread) (reaction : Reaction) (link : Link π) : Link π :=
  let link := link.noteAll thread reaction.notes
  ({ link with inbound := link.inbound.push reaction.events }).read

/-! ## Calls -/

variable [Peer π]

/-- Let the other end react to what was sent. -/
def exchange (thread : Thread) (link : Link π) : Link π :=
  let (bytes, outbound) := link.outbound.take
  let (reaction, peer) := Peer.react bytes link.peer
  ({ link with outbound, peer }).accept thread reaction

/-- Send a request under a new id. A request that cannot be sent closes the connection. -/
def submit (thread : Thread) (shape : Shape) (request : Request) : Op Error (Link π) UInt64 :=
  fun link =>
    match link.register shape with
    | (.error cause, link) => (Outcome.fail cause, link)
    | (.ok id, link) =>
        let payload := (RequestEnvelope.codec.encode ⟨id, request⟩).toBuffer
        match Framing.send payload link.outbound with
        | (.error cause, outbound) =>
            let link := { link with outbound }.forget id
            (Outcome.fail (.ofWire cause), link.shut thread (some (.ofWire cause)))
        | (.ok (), outbound) =>
            let link := ({ link with outbound }).exchange thread
            let link := link.note thread (.frameSent payload.size)
            (.ok id, link.note thread (.requestSent request.name id))

/-- Take the reply to a call that has arrived. -/
def reply? (id : UInt64) (link : Link π) : Option (Except Error Response) :=
  match (link.channel? id).bind Channel.take? with
  | some (.ok (some response), _) => some (.ok response)
  | some (.error cause, _) => some (.error cause)
  | _ => none

/-- Wait for the reply to a call; no time at all waits for ever. -/
def await (thread : Thread) (id : UInt64) (limit : Duration) : Op Error (Link π) Response :=
  fun link =>
    match link.reply? id with
    | some (.ok response) => (.ok response, link.dropChannel id)
    | some (.error cause) => (Outcome.fail cause, link.dropChannel id)
    | none =>
        if limit.isZero then (Outcome.halt .endlessWait, link)
        else
          (Outcome.fail (.timeout id limit),
            (link.forget id).note thread (.requestTimedOut id limit))

/-- Send a request and wait for its reply. -/
def call (thread : Thread) (request : Request) (limit : Duration) : Op Error (Link π) Response := do
  let id ← submit thread .unary request
  await thread id limit

/-- Run an operation on the channel of a call. -/
def onChannel {α : Type} (id : UInt64) (operation : Channel → α × Channel) (link : Link π) :
    α × Link π :=
  let (result, channel) := operation ((link.channel? id).getD {})
  (result, link.setChannel id channel)

/-- Stop delivering to a call; the result says whether the call was pending. -/
def cancel (id : UInt64) (link : Link π) : Bool × Link π :=
  let (found, step) := link.calls.cancel id
  (found, link.settle .caller step)

/-- Begin to close the connection on purpose. -/
def beginClosing (link : Link π) : Link π :=
  { link with calls := { link.calls with closing := true } }.note .caller .connectionClosing

/-- Read what there still is, up to the end that the receiving side is given. -/
def readOut (link : Link π) : Link π :=
  let link := ({ link with inbound := link.inbound.finish }).read
  if link.reader = .halted then link.note .caller .readerHalted else link

/-- Close the connection. Closing it again does nothing. -/
def close (link : Link π) : Link π :=
  if link.calls.closing then link
  else
    let link := link.beginClosing
    let link := if link.canShutDown then link.readOut else link.note .caller .shutdownMissing
    link.shut .caller none

end Link

end PagedResults
