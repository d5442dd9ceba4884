import PagedResults.Link

/-! # Scripted peers

A scripted peer stands at the other end of a connection and does what is laid down for each request: it
sends responses, under the id of the request or another one, or lets its end of the stream show bytes,
faults and ends of any kind. It keeps the requests that it has read.
-/

namespace PagedResults

/-- What a scripted peer does. -/
inductive PeerAction where
  /-- Send a response, under the id of the request unless another one is given. -/
  | reply (id : Option UInt64) (last : Bool) (response : Response)
  | event (event : ReadEvent)

/-- Carry out an action for the request with an id. -/
def PeerAction.reaction (id : UInt64) : PeerAction → Reaction
  | .reply other last response =>
      let payload := (ResponseEnvelope.codec.encode ⟨other.getD id, last, response⟩).toBuffer
      { events := [.chunk (Framing.header payload.size ++ payload)], notes := [.frameSent payload.size] }
  | .event read => { events := [read] }

/-- One reaction after another. -/
def Reaction.append (first second : Reaction) : Reaction :=
  ⟨first.events ++ second.events, first.notes ++ second.notes⟩

/-- Carry out several actions for the request with an id. -/
def PeerAction.reactions (id : UInt64) (actions : List PeerAction) : Reaction :=
  actions.foldl (fun reaction action => reaction.append (action.reaction id)) {}

/-- A peer whose actions are laid down. -/
structure ScriptedPeer where
  /-- The actions for the requests in order. -/
  script : List (List PeerAction) := []
  /-- The actions for a request beyond the script. -/
  beyond : List PeerAction := []
  /-- The peer works on the thread that sends to it, which therefore sees its notes. -/
  sharesThread : Bool := false
  requests : List RequestEnvelope := []
  inbound : Inbound := {}

namespace ScriptedPeer

/-- React to the request in a frame; what holds no request is passed over. -/
def react (payload : ByteArray) (peer : ScriptedPeer) : Reaction × ScriptedPeer :=
  match RequestEnvelope.codec.decode (Bytes.ofBuffer payload) with
  | .error _ => ({}, peer)
  | .ok envelope =>
      let received : Reaction := { notes := [.frameReceived payload.size] }
      (received.append (PeerAction.reactions envelope.id (peer.script.headD peer.beyond)),
        { peer with
          script := peer.script.drop 1
          requests := peer.requests ++ [envelope] })

/-- React to the requests in several frames. -/
def reactAll : List ByteArray → ScriptedPeer → Reaction × ScriptedPeer
  | [], peer => ({}, peer)
  | payload :: rest, peer =>
      let (first, peer) := peer.react payload
      let (others, peer) := reactAll rest peer
      (first.append others, peer)

instance : Peer ScriptedPeer where
  react bytes peer :=
    let (payloads, _, inbound) := Framing.receiveAll (peer.inbound.push [.chunk bytes])
    let (reaction, peer) := reactAll payloads { peer with inbound }
    (if peer.sharesThread then reaction else { reaction with notes := [] }, peer)

end ScriptedPeer

end PagedResults
