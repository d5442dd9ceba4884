import PagedResults.Proofs.Framing
import PagedResults.Proofs.Messages
import PagedResults.Server.Serving

/-! # The server answers what it is asked

A server that has read everything so far takes in the frame of a request and sends the block of its
conversation in answer, as frames, as long as every message fits into one.
-/

namespace PagedResults

namespace Block

/-- The block as it is sent, frame by frame. -/
def payloads (id : UInt64) (block : Block) : List Bytes :=
  (block.envelopes id).map ResponseEnvelope.codec.encode

/-- Every response fits into a frame. -/
def Fits (block : Block) : Prop := ∀ entry ∈ block.responses, entry.2.Fits

theorem Fits.payload_le {block : Block} (fits : block.Fits) (id : UInt64) :
    ∀ payload ∈ block.payloads id, payload.length ≤ maxFrameLength := by
  intro payload member
  obtain ⟨envelope, sent, rfl⟩ := List.mem_map.mp member
  obtain ⟨⟨last, response⟩, entry, rfl⟩ := List.mem_map.mp sent
  exact fits _ entry id last

theorem frames_ne_nil {block : Block} (id : UInt64) (replies : block.responses ≠ []) :
    (block.payloads id).flatMap Framing.frame ≠ [] := by
  obtain ⟨⟨last, response⟩, rest, same⟩ := List.exists_cons_of_ne_nil replies
  rw [payloads, envelopes, same, List.map_cons, List.map_cons, List.flatMap_cons]
  exact List.append_ne_nil_of_left_ne_nil (Framing.frame_ne_nil _) _

end Block

namespace Serving

/-- The server has read everything that was sent and waits for more. -/
structure Idle (serving : Serving) : Prop where
  is_open : serving.ended = false
  waits : serving.inbound.Carries []

theorem sendAll_fits {envelopes : List ResponseEnvelope} {outbound : Outbound}
    (willing : outbound.Willing)
    (fits : ∀ envelope ∈ envelopes, (ResponseEnvelope.codec.encode envelope).length ≤ maxFrameLength) :
    ∃ next, sendAll envelopes outbound = (true, next) ∧ next.Willing ∧ Bytes.ofBuffer next.written =
      Bytes.ofBuffer outbound.written ++
        (envelopes.map ResponseEnvelope.codec.encode).flatMap Framing.frame := by
  induction envelopes generalizing outbound with
  | nil => exact ⟨outbound, rfl, willing, (List.append_nil _).symm⟩
  | cons envelope envelopes ih =>
    obtain ⟨here, others⟩ := List.forall_mem_cons.mp fits
    obtain ⟨middle, sent, willing, written⟩ := willing.send here
    obtain ⟨next, all, still, behind⟩ := ih willing others
    refine ⟨next, ?_, still, ?_⟩
    · rw [sendAll, sent]
      exact all
    · rw [behind, written, List.map_cons, List.flatMap_cons, List.append_assoc]

/-- One request comes in and the whole answer goes out, with the end of the connection behind it if there is
to be one. -/
theorem receive_block {serving : Serving} {bytes : ByteArray} {id : UInt64} {request : Request}
    {block : Block} {conversation : Conversation} (idle : serving.Idle)
    (arrived : Bytes.ofBuffer bytes = Framing.frame (RequestEnvelope.codec.encode ⟨id, request⟩))
    (small : request.Fits)
    (answered : serving.conversation.answer serving.data request = .ok (block, conversation))
    (replies : block.responses ≠ []) (fits : block.Fits) :
    ∃ inbound, serving.receive bytes =
        ({ events := .chunk (Bytes.toBuffer ((block.payloads id).flatMap Framing.frame)) ::
            if block.ends then [.chunk .empty] else [] },
          { serving with inbound, conversation, ended := block.ends }) ∧ inbound.Carries [] := by
  have pushed := idle.waits.push (Framing.frame_ne_nil (RequestEnvelope.codec.encode ⟨id, request⟩))
  rw [← arrived, Bytes.toBuffer_ofBuffer, List.nil_append, arrived] at pushed
  have single : (serving.inbound.push [.chunk bytes]).Carries
      ([RequestEnvelope.codec.encode ⟨id, request⟩].flatMap Framing.frame) := by
    rw [List.flatMap_singleton]
    exact pushed
  obtain ⟨inbound, received, waits⟩ := Framing.receiveAll_frames single
    (List.forall_mem_singleton.mpr (small id))
  have sendable : ∀ envelope ∈ block.envelopes id,
      (ResponseEnvelope.codec.encode envelope).length ≤ maxFrameLength :=
    fun envelope member => fits.payload_le id _ (List.mem_map_of_mem member)
  obtain ⟨outbound, sent, -, written⟩ := sendAll_fits Outbound.Willing.fresh sendable
  have reply : outbound.written = Bytes.toBuffer ((block.payloads id).flatMap Framing.frame) := by
    rw [← Bytes.toBuffer_ofBuffer outbound.written, written]
    rfl
  have spoken : outbound.written.isEmpty = false := by
    apply Bytes.isEmpty_eq_false
    rw [reply, Bytes.ofBuffer_toBuffer]
    exact Block.frames_ne_nil id replies
  have asked : bytes.isEmpty = false := Bytes.isEmpty_eq_false (arrived ▸ Framing.frame_ne_nil _)
  refine ⟨inbound, ?_, waits⟩
  rw [← reply]
  simp only [receive, idle.is_open, asked, Bool.or_self, Bool.false_eq_true, if_false, received,
    List.map_cons, List.map_nil, answerFrames, answerFrame, Bytes.ofBuffer_toBuffer, small.decode_encode,
    answered, sent, Bool.not_true, Bool.or_false, spoken, List.singleton_append]

/-- The connection goes on behind the answer to any request but a goodbye. -/
theorem receive_request {serving : Serving} {bytes : ByteArray} {id : UInt64} {request : Request}
    {block : Block} {conversation : Conversation} (idle : serving.Idle)
    (arrived : Bytes.ofBuffer bytes = Framing.frame (RequestEnvelope.codec.encode ⟨id, request⟩))
    (small : request.Fits)
    (answered : serving.conversation.answer serving.data request = .ok (block, conversation))
    (stays : block.ends = false) (replies : block.responses ≠ []) (fits : block.Fits) :
    ∃ next, serving.receive bytes =
        ({ events := [.chunk (Bytes.toBuffer ((block.payloads id).flatMap Framing.frame))] }, next) ∧
      next.Idle ∧ next.data = serving.data ∧ next.conversation = conversation := by
  obtain ⟨inbound, received, waits⟩ := receive_block idle arrived small answered replies fits
  rw [stays] at received
  exact ⟨_, received, ⟨rfl, waits⟩, rfl, rfl⟩

end Serving

end PagedResults
