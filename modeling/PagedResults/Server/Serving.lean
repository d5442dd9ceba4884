import PagedResults.Link
import PagedResults.Server.Conversation

/-! # Serving a connection

The server reads frames from a connection, answers the request in each, and sends the responses as
frames. The connection ends behind the answer to a goodbye, and at the first frame that holds no
request, the first response that cannot be sent, or a halt of the thread that serves it.
-/

namespace PagedResults

/-- The server's end of one connection. -/
structure Serving where
  data : Dataset
  conversation : Conversation := {}
  inbound : Inbound := {}
  /-- The connection has ended. -/
  ended : Bool := false

namespace Serving

/-- Send responses up to the first that cannot be sent; the flag says whether all were. -/
def sendAll : List ResponseEnvelope → Outbound → Bool × Outbound
  | [], outbound => (true, outbound)
  | envelope :: rest, outbound =>
      match Framing.send (ResponseEnvelope.codec.encode envelope).toBuffer outbound with
      | (.ok (), outbound) => sendAll rest outbound
      | (.error _, outbound) => (false, outbound)

/-- Answer the request in a frame. -/
def answerFrame (payload : ByteArray) (serving : Serving) (outbound : Outbound) :
    Serving × Outbound :=
  match RequestEnvelope.codec.decode (Bytes.ofBuffer payload) with
  | .error _ => ({ serving with ended := true }, outbound)
  | .ok envelope =>
      match serving.conversation.answer serving.data envelope.request with
      | .error _ => ({ serving with ended := true }, outbound)
      | .ok (block, conversation) =>
          let (sent, outbound) := sendAll (block.envelopes envelope.id) outbound
          ({ serving with conversation, ended := block.ends || !sent }, outbound)

/-- Answer the requests in several frames, up to the end of the connection. -/
def answerFrames : List ByteArray → Serving → Outbound → Serving × Outbound
  | [], serving, outbound => (serving, outbound)
  | payload :: rest, serving, outbound =>
      if serving.ended then (serving, outbound)
      else
        let (serving, outbound) := serving.answerFrame payload outbound
        answerFrames rest serving outbound

/-- Take in bytes and answer the requests that are complete. -/
def receive (bytes : ByteArray) (serving : Serving) : Reaction × Serving :=
  if serving.ended || bytes.isEmpty then ({}, serving)
  else
    let (payloads, pause, inbound) := Framing.receiveAll (serving.inbound.push [.chunk bytes])
    let (serving, outbound) := answerFrames payloads { serving with inbound } {}
    let ended := match pause with
      | .waiting => serving.ended
      | _ => true
    let reply := if outbound.written.isEmpty then [] else [ReadEvent.chunk outbound.written]
    let goodbye := if ended then [ReadEvent.chunk .empty] else []
    ({ events := reply ++ goodbye }, { serving with ended })

instance : Peer Serving where
  react := receive

end Serving

end PagedResults
