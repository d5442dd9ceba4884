import PagedResults.Proofs.Fidelity
import PagedResults.Proofs.Session.Closing

/-! # Saying goodbye to a server

A server answers a goodbye and ends the connection behind the answer. The client reads both at once: the call
gets the answer, and the connection is closed by the time it is taken. So a session with nothing on its way
is closed without an error, and both ends are done with the connection.
-/

namespace PagedResults

/-- The answer to a goodbye, behind which the connection ends. -/
def Block.goodbye : Block := ⟨[(true, .ok)], true⟩

private theorem Block.goodbye_fits : goodbye.Fits := List.forall_mem_singleton.mpr (by decide)

private theorem Request.closeConnection_fits : Request.closeConnection.Fits := by decide

namespace Link

section Reading

variable {π : Type} {id : UInt64}

/-- The only pending call gets its answer, and then none is pending. -/
theorem arrive_last (link : Link π) {shape : Shape} (pending_eq : link.calls.pending = [(id, shape)])
    {mark : Bool} {response : Response} (final : (Calls.deliveryOf shape mark response).isFinal = true)
    (thread : Thread) :
    (link.arrive thread ⟨id, mark, response⟩).calls = link.calls.withdraw id ∧
      (link.arrive thread ⟨id, mark, response⟩).calls.pending = [] ∧
      (link.arrive thread ⟨id, mark, response⟩).channel? id =
        (link.channel? id).map (Channel.pushAll [Calls.deliveryOf shape mark response]) := by
  have known : link.calls.shape? id = some shape := by
    rw [Calls.shape?, pending_eq, List.lookup_cons_self]
  have vacant : (link.calls.withdraw id).pending = [] := by
    rw [Calls.withdraw, pending_eq]
    simp
  rw [Link.arrive, calls_settle, channel?_settle, Calls.arrive_known known, if_pos final]
  refine ⟨rfl, vacant, ?_⟩
  rw [← List.singleton_append, Effect.handed_append, Effect.handed_deliver, if_pos rfl]
  rfl

/-- Closing a connection on which nobody waits hands nothing to anybody. -/
theorem shut_vacant (link : Link π) (id : UInt64) (live : link.calls.standing = .live)
    (vacant : link.calls.pending = []) (thread : Thread) (cause : Option Error) :
    (link.shut thread cause).calls.standing ≠ .live ∧
      (link.shut thread cause).channel? id = link.channel? id := by
  constructor
  · have closed := (Calls.shut_live live cause).1
    rw [Link.shut, calls_settle]
    intro still
    rw [still] at closed
    cases closed
  · have distinct : (link.calls.pending.map (·.1)).Nodup := by
      rw [vacant]
      exact List.nodup_nil
    have unasked : link.calls.shape? id = none := by
      rw [Calls.shape?, vacant]
      rfl
    rw [Link.shut, channel?_settle, Calls.handed_shut live distinct, unasked]
    exact Channel.map_pushAll_nil _

end Reading

variable {data : Dataset} {conversation : Conversation} {channel : Channel} {link : Link Serving} {id : UInt64}

/-- The answer to a goodbye is read, and then the end of the stream closes the connection. -/
theorem read_goodbye (live : link.calls.standing = .live) (pending_eq : link.calls.pending = [(id, .unary)])
    (found : link.channel? id = some {}) (reading : link.reader = .reading) (is_open : link.inbound.ended = false)
    (begins : link.inbound.Begins ((Block.goodbye.payloads id).flatMap Framing.frame) [.chunk .empty]) :
    link.read.calls.standing ≠ .live ∧ link.read.channel? id = some { queue := [.message .ok true] } := by
  obtain ⟨left, received, -⟩ := Framing.receiveAll_ended begins is_open (Block.goodbye_fits.payload_le id)
  -- the connection when the answer has been taken off the stream and noted
  let noted : Link Serving := { link with inbound := left }.note .reader (.frameReceived
    (ResponseEnvelope.codec.encode ⟨id, true, .ok⟩).length)
  have delivered : Link.deliverFrames ((Block.goodbye.payloads id).map Bytes.toBuffer)
      { link with inbound := left } = noted.arrive .reader ⟨id, true, .ok⟩ :=
    deliverFrames_payloads _ id (by decide : Response.ok.Fits) [] true
  have final : (Calls.deliveryOf .unary true .ok).isFinal = true := rfl
  obtain ⟨calls_eq, vacant, fed⟩ := arrive_last noted pending_eq final .reader
  have still_reading : (noted.arrive .reader ⟨id, true, .ok⟩).reader = .reading :=
    (reader_settle ..).trans reading
  have still_live : (noted.arrive .reader ⟨id, true, .ok⟩).calls.standing = .live := by
    rw [calls_eq]
    exact live
  obtain ⟨closed, kept⟩ := shut_vacant ((noted.arrive .reader ⟨id, true, .ok⟩).note .reader .serverGone) id
    still_live vacant .reader (some (.transport "server closed the connection"))
  rw [Link.read, if_neg (not_not_intro reading)]
  dsimp only
  rw [received]
  dsimp only
  rw [delivered, if_neg (not_not_intro still_reading)]
  refine ⟨closed, kept.trans (fed.trans ?_)⟩
  rw [show noted.channel? id = some {} from found]
  rfl

/-- A connection that both ends are done with: the client's is closed, and the server takes in nothing more. -/
structure Over (conversation : Conversation) (link : Link Serving) : Prop where
  closed : link.calls.standing ≠ .live
  ended : link.peer.ended = true
  conversation_eq : link.peer.conversation = conversation

/-- The server answers the goodbye and ends the connection, and both is read. -/
theorem Rests.exchange_goodbye (rests : link.Rests data conversation [(id, .unary)] [(id, {})]) (thread : Thread)
    {outbound : Outbound} (written : Bytes.ofBuffer outbound.written =
      Framing.frame (RequestEnvelope.codec.encode ⟨id, .closeConnection⟩)) :
    (({ link with outbound } : Link Serving).exchange thread).Over conversation ∧
      (({ link with outbound } : Link Serving).exchange thread).channel? id =
        some { queue := [.message .ok true] } := by
  have spoken : Block.goodbye.responses ≠ [] := List.cons_ne_nil _ _
  obtain ⟨left, reacted, -⟩ : ∃ inbound, link.peer.receive outbound.written =
      ({ events := [.chunk (Bytes.toBuffer ((Block.goodbye.payloads id).flatMap Framing.frame)), .chunk .empty] },
        { link.peer with inbound, conversation, ended := true }) ∧ inbound.Carries [] := by
    refine Serving.receive_block rests.idle written Request.closeConnection_fits ?_ spoken Block.goodbye_fits
    rw [rests.conversation_eq]
    rfl
  -- the end of the stream comes behind the frame of the answer
  have begins := (rests.waits.push (Block.frames_ne_nil id spoken)).begins_push [.chunk .empty]
  rw [List.nil_append, Inbound.push, Inbound.push, List.append_assoc] at begins
  let heard : Link Serving := { link with
    outbound := { outbound with written := .empty }
    peer := { link.peer with inbound := left, conversation, ended := true }
    inbound := { link.inbound with events := link.inbound.events ++
      ([.chunk (Bytes.toBuffer ((Block.goodbye.payloads id).flatMap Framing.frame))] ++ [.chunk .empty]) } }
  have exchanged : ({ link with outbound } : Link Serving).exchange thread = heard.read := by
    have react : Peer.react outbound.written link.peer = link.peer.receive outbound.written := rfl
    rw [Link.exchange, Outbound.take]
    dsimp only
    rw [react, reacted]
    rfl
  have found : heard.channel? id = some {} := by
    change link.channels.lookup id = _
    rw [rests.channels_eq, List.lookup_cons_self]
  obtain ⟨closed, answered⟩ : heard.read.calls.standing ≠ .live ∧
      heard.read.channel? id = some { queue := [.message .ok true] } :=
    read_goodbye rests.live rests.pending_eq found rests.reading rests.waits.is_open begins
  have peer_eq : heard.read.peer = heard.peer := congrArg (·.1) footing_read
  rw [exchanged]
  refine ⟨⟨closed, ?_, ?_⟩, answered⟩ <;> rw [peer_eq]

/-- A server that is told goodbye says so too, and then both ends are done with the connection. -/
theorem Rests.goodbye (rests : link.Rests data conversation [] []) (thread : Thread) (limit : Duration) :
    ∃ after, Link.call thread .closeConnection limit link = (.ok .ok, after) ∧ after.Over conversation := by
  obtain ⟨id, registering, registered, -, begun⟩ := rests.register rfl .unary
  obtain ⟨outbound, sent, -, written⟩ := begun.willing.send (Request.closeConnection_fits id)
  rw [begun.sent] at written
  obtain ⟨gone, answered⟩ := begun.exchange_goodbye thread written
  generalize exchanged : ({ registering with outbound } : Link Serving).exchange thread = heard at gone answered
  let noted : Link Serving := (heard.note thread (.frameSent
    (RequestEnvelope.codec.encode ⟨id, .closeConnection⟩).length)).note thread
      (.requestSent "close_connection" id)
  have submitted : Link.submit thread .unary .closeConnection link = (.ok id, noted) := by
    rw [Link.submit, registered]
    dsimp only
    rw [sent]
    dsimp only
    rw [exchanged, Bytes.size_toBuffer]
    rfl
  have taken : noted.reply? id = some (.ok .ok) := by
    rw [reply?, show noted.channel? id = _ from answered]
    rfl
  refine ⟨noted.dropChannel id, ?_, gone.closed, gone.ended, gone.conversation_eq⟩
  rw [Link.call, Op.bind_apply, submitted]
  dsimp only
  rw [Link.await, taken]

/-- Whoever closes the connection then has nothing left to do. -/
theorem Over.close (gone : link.Over conversation) : link.close.Over conversation := by
  have peer_eq : link.close.peer = link.peer := congrArg (·.1) (footing_close link)
  refine ⟨?_, ?_, ?_⟩
  · cases closing : link.calls.closing with
    | true =>
      rw [Link.close, if_pos closing]
      exact gone.closed
    | false => exact close_closes closing
  · rw [peer_eq]
    exact gone.ended
  · rw [peer_eq]
    exact gone.conversation_eq

end Link

/-- A session with nothing on its way is closed without an error, and then both ends are done with it. -/
theorem Session.Rests.close {session : Session Serving} {data : Dataset} {conversation : Conversation}
    (rests : session.Rests data conversation) :
    ∃ after, Session.close session = (.ok (), after) ∧ after.closed = true ∧ after.link.Over conversation := by
  obtain ⟨link, said, gone⟩ := rests.link.goodbye .caller session.options.callTimeout
  have answered : goodbye session.options.callTimeout [] (Session.after [] { session with closed := true }) =
      (.ok .ok, { session with closed := true, link }) := by
    rw [goodbye_nil, onLink_apply, Session.after, List.foldl_nil]
    dsimp only
    rw [said]
  refine ⟨farewell session.connection (Session.after [] { session with closed := true, link }), ?_, rfl, ?_⟩
  · rw [← closeAmid_nil, closeAmid_of_open rests.is_open, answered]
  · have closed := gone.close
    exact ⟨closed.closed, closed.ended, closed.conversation_eq⟩

end PagedResults
