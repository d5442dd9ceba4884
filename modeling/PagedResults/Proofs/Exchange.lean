import PagedResults.Proofs.Link
import PagedResults.Proofs.Serving

/-! # One call after the other

Between a client and a server that both behave, a request is answered as soon as it is submitted: the
server's whole answer lies in the channel of the call, and nothing is on its way any more. `Link.Rests`
describes a connection between two such exchanges.
-/

namespace PagedResults

/-- Exactly the last of the responses ends a call of the shape. -/
inductive Block.Closes (shape : Shape) : List (Bool × Response) → Prop
  | last {mark : Bool} {response : Response}
      (final : (Calls.deliveryOf shape mark response).isFinal = true) : Closes shape [(mark, response)]
  | cons {mark : Bool} {response : Response} {rest : List (Bool × Response)}
      (more : (Calls.deliveryOf shape mark response).isFinal = false) (closes : Closes shape rest) :
      Closes shape ((mark, response) :: rest)

/-- What the responses of a block are to the receiver of a call. -/
def Block.deliveries (shape : Shape) (responses : List (Bool × Response)) : List Delivery :=
  responses.map fun (mark, response) => Calls.deliveryOf shape mark response

/-- A response that reports no error. -/
theorem Calls.deliveryOf_eq {response : Response}
    (succeeds : ∀ detail, response ≠ .error detail) (shape : Shape) (mark : Bool) :
    Calls.deliveryOf shape mark response = .message response (mark || shape = .unary) := by
  cases response with
  | error detail => exact absurd rfl (succeeds detail)
  | _ => rfl

/-- What a caller gets of a response: an error is returned as such. -/
def Response.outcome : Response → Outcome Error Response
  | .error detail => Outcome.fail (.service detail)
  | response => .ok response

namespace Link

/-- A connection with nothing on its way, up to the calls that are `pending` and the channels. -/
structure Rests (data : Dataset) (conversation : Conversation) (pending : List (UInt64 × Shape))
    (channels : List (UInt64 × Channel)) (link : Link Serving) : Prop where
  data_eq : link.peer.data = data
  conversation_eq : link.peer.conversation = conversation
  idle : link.peer.Idle
  live : link.calls.standing = .live
  pending_eq : link.calls.pending = pending
  channels_eq : link.channels = channels
  reading : link.reader = .reading
  waits : link.inbound.Carries []
  willing : link.outbound.Willing
  sent : link.outbound.written = .empty

variable {data : Dataset} {conversation next : Conversation} {pending : List (UInt64 × Shape)}
  {channels others : List (UInt64 × Channel)} {link : Link Serving} {id : UInt64} {shape : Shape}
  {channel : Channel} {request : Request} {block : Block}

theorem Rests.note (rests : link.Rests data conversation pending channels) (thread : Thread)
    (event : Event) : (link.note thread event).Rests data conversation pending channels :=
  { rests with }

/-! ## The answer arrives -/

/-- A response to a call that is pending. -/
theorem arrive_pending {π : Type} {link : Link π} (known : link.calls.shape? id = some shape)
    (found : link.channel? id = some channel) (thread : Thread) (mark : Bool) (response : Response) :
    link.arrive thread ⟨id, mark, response⟩ =
      ({ link with
        calls := if (Calls.deliveryOf shape mark response).isFinal then link.calls.withdraw id else link.calls
        journal := link.journal.push (thread, .responseDelivered id mark) } : Link π).setChannel id
          (channel.push (Calls.deliveryOf shape mark response)) := by
  rw [channel?] at found
  rw [Link.arrive, Calls.arrive_known known]
  simp only [settle, List.foldl_cons, List.foldl_nil, apply, channel?, Link.note, found]

/-- A response to the only pending call; its channel is the latest. -/
theorem Rests.arrive (rests : link.Rests data conversation [(id, shape)] (others ++ [(id, channel)]))
    (apart : others.lookup id = none) (thread : Thread) (mark : Bool) (response : Response) :
    (link.arrive thread ⟨id, mark, response⟩).Rests data conversation
      (if (Calls.deliveryOf shape mark response).isFinal then [] else [(id, shape)])
      (others ++ [(id, channel.push (Calls.deliveryOf shape mark response))]) := by
  have known : link.calls.shape? id = some shape := by
    rw [Calls.shape?, rests.pending_eq, List.lookup_cons_self]
  have found : link.channel? id = some channel := by
    rw [channel?, rests.channels_eq, lookup_append_new apart]
  rw [arrive_pending known found]
  refine { rests with pending_eq := ?_, channels_eq := ?_, live := ?_ }
  · change (if _ then _ else _ : Calls).standing = _
    split
    · exact rests.live
    · exact rests.live
  · change (if _ then _ else _ : Calls).pending = _
    split
    · rw [Calls.withdraw, rests.pending_eq]
      simp
    · exact rests.pending_eq
  · change (link.channels.map fun entry => if entry.1 = id then (id, _) else entry) = _
    rw [rests.channels_eq, List.map_append, replace_absent apart, List.map_singleton, if_pos rfl]

theorem deliverFrames_payloads {π : Type} (link : Link π) (id : UInt64) {mark : Bool} {response : Response}
    (small : response.Fits) (rest : List (Bool × Response)) (ends : Bool) :
    deliverFrames ((Block.payloads id ⟨(mark, response) :: rest, ends⟩).map Bytes.toBuffer) link =
      deliverFrames ((Block.payloads id ⟨rest, ends⟩).map Bytes.toBuffer)
        ((link.note .reader (.frameReceived
          (ResponseEnvelope.codec.encode ⟨id, mark, response⟩).length)).arrive .reader
            ⟨id, mark, response⟩) := by
  simp only [Block.payloads, Block.envelopes, List.map_cons, deliverFrames, Bytes.ofBuffer_toBuffer,
    small.decode_encode, Bytes.size_toBuffer]

/-- The whole answer to the only pending call. -/
theorem Rests.deliverFrames {responses : List (Bool × Response)} {ends : Bool}
    (rests : link.Rests data conversation [(id, shape)] (others ++ [(id, channel)]))
    (apart : others.lookup id = none) (closes : Block.Closes shape responses)
    (fits : Block.Fits ⟨responses, ends⟩) :
    (link.deliverFrames ((Block.payloads id ⟨responses, ends⟩).map Bytes.toBuffer)).Rests data
      conversation [] (others ++ [(id, channel.pushAll (Block.deliveries shape responses))]) := by
  induction closes generalizing link channel with
  | @last mark response final =>
    have small : response.Fits := fits _ (List.mem_singleton_self _)
    have arrived := (rests.note .reader (.frameReceived
      (ResponseEnvelope.codec.encode ⟨id, mark, response⟩).length)).arrive apart .reader mark response
    rw [if_pos final] at arrived
    rw [deliverFrames_payloads link id small]
    exact arrived
  | @cons mark response rest more closes ih =>
    obtain ⟨small, others⟩ := List.forall_mem_cons.mp fits
    have arrived := (rests.note .reader (.frameReceived
      (ResponseEnvelope.codec.encode ⟨id, mark, response⟩).length)).arrive apart .reader mark response
    rw [more, if_neg Bool.false_ne_true] at arrived
    have all := ih arrived others
    rw [Channel.pushAll, Channel.push, List.append_assoc] at all
    rw [deliverFrames_payloads link id small]
    exact all

/-- Reading the whole answer to the only pending call. -/
theorem Rests.read (rests : link.Rests data conversation [(id, shape)] (others ++ [(id, channel)]))
    (apart : others.lookup id = none) (closes : Block.Closes shape block.responses) (fits : block.Fits)
    {inbound : Inbound} (carries : inbound.Carries ((block.payloads id).flatMap Framing.frame)) :
    ({ link with inbound } : Link Serving).read.Rests data conversation []
      (others ++ [(id, channel.pushAll (Block.deliveries shape block.responses))]) := by
  obtain ⟨left, received, waits⟩ := Framing.receiveAll_frames carries (fits.payload_le id)
  have held : ({ link with inbound := left } : Link Serving).Rests data conversation [(id, shape)]
      (others ++ [(id, channel)]) := { rests with waits }
  have delivered := held.deliverFrames apart closes fits
  rw [Link.read, if_neg (not_not_intro rests.reading)]
  dsimp only
  rw [received]
  dsimp only
  rw [if_neg (not_not_intro delivered.reading)]
  exact delivered

/-! ## A call -/

/-- The server takes the request and answers it, and the answer is read. -/
theorem Rests.exchange (rests : link.Rests data conversation [(id, shape)] (others ++ [(id, channel)]))
    (apart : others.lookup id = none) (small : request.Fits)
    (answered : conversation.answer data request = .ok (block, next)) (stays : block.ends = false)
    (closes : Block.Closes shape block.responses) (fits : block.Fits) (thread : Thread)
    {outbound : Outbound} (willing : outbound.Willing)
    (written : Bytes.ofBuffer outbound.written = Framing.frame (RequestEnvelope.codec.encode ⟨id, request⟩)) :
    (({ link with outbound } : Link Serving).exchange thread).Rests data next []
      (others ++ [(id, channel.pushAll (Block.deliveries shape block.responses))]) := by
  have replies : block.responses ≠ [] := by
    intro empty
    rw [empty] at closes
    cases closes
  obtain ⟨peer, reacted, idle, data_eq, conversation_eq⟩ := Serving.receive_request rests.idle written small
    (by rw [rests.conversation_eq, rests.data_eq]; exact answered) stays replies fits
  have taken : ({ link with outbound := { outbound with written := .empty }, peer } : Link Serving).Rests data
      next [(id, shape)] (others ++ [(id, channel)]) :=
    { rests with
      data_eq := data_eq.trans rests.data_eq
      conversation_eq, idle
      willing := { willing with }
      sent := rfl }
  have carries := rests.waits.push (Block.frames_ne_nil id replies)
  rw [List.nil_append] at carries
  have reading := taken.read apart closes fits carries
  rw [Link.exchange, Outbound.take]
  dsimp only
  have react : Peer.react outbound.written link.peer = link.peer.receive outbound.written := rfl
  rw [react, reacted]
  exact reading

theorem Rests.register (rests : link.Rests data conversation [] others)
    (apart : others.lookup link.calls.nextId = none) (shape : Shape) :
    ∃ id registering, link.register shape = (.ok id, registering) ∧ others.lookup id = none ∧
      registering.Rests data conversation [(id, shape)] (others ++ [(id, ({} : Channel))]) := by
  refine ⟨link.calls.nextId, _, register_live rests.live shape, apart, ?_⟩
  rw [Calls.register_live rests.live shape, rests.channels_eq, rests.pending_eq, List.nil_append]
  exact { rests with pending_eq := rfl, channels_eq := rfl, live := rests.live }

/-- A request is submitted and answered at once. The channels of other calls, such as those of streams that
are still read, stay as they are. -/
theorem Rests.submit (rests : link.Rests data conversation [] others)
    (apart : others.lookup link.calls.nextId = none) (small : request.Fits)
    (answered : conversation.answer data request = .ok (block, next)) (stays : block.ends = false)
    (closes : Block.Closes shape block.responses) (fits : block.Fits) (thread : Thread) :
    ∃ id after, Link.submit thread shape request link = (.ok id, after) ∧ others.lookup id = none ∧
      after.Rests data next []
        (others ++ [(id, ({ queue := Block.deliveries shape block.responses } : Channel))]) := by
  obtain ⟨id, registering, registered, apart, begun⟩ := rests.register apart shape
  obtain ⟨outbound, sent, willing, written⟩ := begun.willing.send (small id)
  rw [begun.sent] at written
  have exchanged := begun.exchange apart small answered stays closes fits thread willing written
  have noted := (exchanged.note thread (.frameSent
    (RequestEnvelope.codec.encode ⟨id, request⟩).length)).note thread (.requestSent request.name id)
  refine ⟨id, _, ?_, apart, noted⟩
  rw [Link.submit, registered]
  dsimp only
  rw [sent]
  rfl

theorem Rests.dropChannel (rests : link.Rests data conversation pending (others ++ [(id, channel)]))
    (apart : others.lookup id = none) : (link.dropChannel id).Rests data conversation pending others := by
  refine { rests with channels_eq := ?_ }
  rw [Link.dropChannel, rests.channels_eq, List.filter_append, filter_absent apart]
  simp

/-- The reply is taken, and its channel is dropped. -/
theorem Rests.await {response : Response} (rests : link.Rests data conversation []
      (others ++ [(id, ({ queue := [.message response true] } : Channel))])) (apart : others.lookup id = none)
    (thread : Thread) (limit : Duration) :
    ∃ after, Link.await thread id limit link = (.ok response, after) ∧
      link.reply? id = some (.ok response) ∧ after.Rests data conversation [] others := by
  have taken : link.reply? id = some (.ok response) := by
    rw [reply?, channel?, rests.channels_eq, lookup_append_new apart]
    rfl
  exact ⟨link.dropChannel id, by rw [Link.await, taken], taken, rests.dropChannel apart⟩

/-- A request that is answered by one response, and not by an error. -/
theorem Rests.ask {response : Response} (rests : link.Rests data conversation [] others)
    (apart : others.lookup link.calls.nextId = none) (small : request.Fits)
    (answered : conversation.answer data request = .ok (.one response, next))
    (succeeds : ∀ detail, response ≠ .error detail) (fits : response.Fits) (thread : Thread) :
    ∃ id after, Link.submit thread .unary request link = (.ok id, after) ∧ others.lookup id = none ∧
      after.Rests data next [] (others ++ [(id, ({ queue := [.message response true] } : Channel))]) := by
  have delivered := Calls.deliveryOf_eq succeeds .unary true
  have closes : Block.Closes .unary (Block.one response).responses := .last (by rw [delivered]; rfl)
  obtain ⟨id, after, submitted, apart, rests⟩ :=
    rests.submit apart small answered rfl closes (List.forall_mem_singleton.mpr fits) thread
  refine ⟨id, after, submitted, apart, ?_⟩
  have same : Block.deliveries .unary (Block.one response).responses = [.message response true] :=
    congrArg (fun delivery => [delivery]) delivered
  rw [same] at rests
  exact rests

/-- A call returns the response of the server. -/
theorem Rests.call {response : Response} (rests : link.Rests data conversation [] others)
    (apart : others.lookup link.calls.nextId = none) (small : request.Fits)
    (answered : conversation.answer data request = .ok (.one response, next))
    (succeeds : ∀ detail, response ≠ .error detail) (fits : response.Fits) (thread : Thread)
    (limit : Duration) :
    ∃ after, Link.call thread request limit link = (.ok response, after) ∧
      after.Rests data next [] others := by
  obtain ⟨id, waiting, submitted, apart, held⟩ := rests.ask apart small answered succeeds fits thread
  obtain ⟨after, awaited, -, rests⟩ := held.await apart thread limit
  refine ⟨after, ?_, rests⟩
  rw [Link.call, Op.bind_apply, submitted]
  exact awaited

/-- A call that the server refuses returns the error. -/
theorem Rests.refuse {detail : ServiceError} (rests : link.Rests data conversation [] others)
    (apart : others.lookup link.calls.nextId = none) (small : request.Fits)
    (answered : conversation.answer data request = .ok (.one (.error detail), next))
    (fits : (Response.error detail).Fits) (thread : Thread) (limit : Duration) :
    ∃ after, Link.call thread request limit link = (Outcome.fail (.service detail), after) ∧
      after.Rests data next [] others := by
  obtain ⟨id, waiting, submitted, apart, held⟩ := rests.submit apart small answered rfl (.last rfl)
    (List.forall_mem_singleton.mpr fits) thread
  have taken : waiting.reply? id = some (.error (.service detail)) := by
    rw [reply?, channel?, held.channels_eq, lookup_append_new apart]
    rfl
  refine ⟨waiting.dropChannel id, ?_, held.dropChannel apart⟩
  rw [Link.call, Op.bind_apply, submitted]
  dsimp only
  rw [Link.await, taken]

/-- A call returns what the server responds, be it an error or not. -/
theorem Rests.respond {response : Response} (rests : link.Rests data conversation [] others)
    (apart : others.lookup link.calls.nextId = none) (small : request.Fits)
    (answered : conversation.answer data request = .ok (.one response, next)) (fits : response.Fits)
    (thread : Thread) (limit : Duration) :
    ∃ after, Link.call thread request limit link = (response.outcome, after) ∧
      after.Rests data next [] others := by
  cases response with
  | error detail => exact rests.refuse apart small answered fits thread limit
  | _ => exact rests.call apart small answered nofun fits thread limit

end Link

end PagedResults
