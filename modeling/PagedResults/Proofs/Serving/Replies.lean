import PagedResults.Proofs.Conversation.Replies
import PagedResults.Proofs.Serving

/-! # What the server writes

The bytes of the requests come in pieces of any size. However they are cut, the server writes the frames of
the replies of its conversation, one reply after the other, and nothing else.
-/

namespace PagedResults

open Conversation (Reply converse)

/-- The requests as they come over the connection. -/
def RequestEnvelope.frames (envelopes : List RequestEnvelope) : Bytes :=
  (envelopes.map RequestEnvelope.codec.encode).flatMap Framing.frame

/-- The responses as they are sent. -/
def ResponseEnvelope.frames (envelopes : List ResponseEnvelope) : Bytes :=
  (envelopes.map ResponseEnvelope.codec.encode).flatMap Framing.frame

/-- The replies as they are sent. -/
def Conversation.framesOf (replies : List Reply) : Bytes :=
  ResponseEnvelope.frames (replies.flatMap Reply.sent)

namespace Serving

variable {data : Dataset} {serving : Serving} {outbound : Outbound} {envelopes : List RequestEnvelope}
  {chunks : List ByteArray} {left : Bytes}

/-- The bytes come in one piece after the other. -/
def receiveEach : List ByteArray → Serving → List ReadEvent × Serving
  | [], serving => ([], serving)
  | bytes :: rest, serving =>
      let (reaction, serving) := serving.receive bytes
      let (events, serving) := receiveEach rest serving
      (reaction.events ++ events, serving)

private theorem framesOf_append (first second : List Reply) :
    Conversation.framesOf (first ++ second) =
      Conversation.framesOf first ++ Conversation.framesOf second := by
  rw [Conversation.framesOf, Conversation.framesOf, Conversation.framesOf, ResponseEnvelope.frames,
    ResponseEnvelope.frames, ResponseEnvelope.frames, List.flatMap_append, List.map_append, List.flatMap_append]

private theorem framesOf_cons (reply : Reply) (rest : List Reply) : Conversation.framesOf (reply :: rest) =
    ResponseEnvelope.frames reply.sent ++ Conversation.framesOf rest := by
  rw [← List.singleton_append, framesOf_append, Conversation.framesOf, List.flatMap_singleton]

/-- A conversation that goes on or has ended, as the state of the server. -/
def Stands (serving : Serving) : Option Conversation → Serving → Prop
  | some conversation, after => after = { serving with conversation }
  | none, after => after.ended = true

private theorem answerFrames_ended (ended : serving.ended = true) (payloads : List ByteArray) (outbound : Outbound) :
    answerFrames payloads serving outbound = (serving, outbound) := by
  cases payloads with
  | nil => rfl
  | cons payload rest => rw [answerFrames, if_pos ended]

/-- The request in a frame is answered by its block. -/
theorem answerFrame_ok {envelope : RequestEnvelope} {block : Block} {conversation : Conversation}
    (small : envelope.request.Fits)
    (answered : serving.conversation.answer serving.data envelope.request = .ok (block, conversation))
    (willing : outbound.Willing) (fits : block.Fits) :
    ∃ next, answerFrame (RequestEnvelope.codec.encode envelope).toBuffer serving outbound =
        ({ serving with conversation, ended := block.ends }, next) ∧ next.Willing ∧
      Bytes.ofBuffer next.written =
        Bytes.ofBuffer outbound.written ++ ResponseEnvelope.frames (block.envelopes envelope.id) := by
  have decoded : RequestEnvelope.codec.decode (RequestEnvelope.codec.encode envelope) = .ok envelope :=
    small.decode_encode envelope.id
  obtain ⟨next, sent, still, written⟩ := sendAll_fits willing
    fun reply member => fits.payload_le envelope.id _ (List.mem_map_of_mem member)
  refine ⟨next, ?_, still, written⟩
  rw [answerFrame, Bytes.ofBuffer_toBuffer, decoded]
  dsimp only
  rw [answered]
  dsimp only
  rw [sent, Bool.not_true, Bool.or_false]

/-- The request in a frame halts the thread. -/
theorem answerFrame_halts {envelope : RequestEnvelope} {reason : Halt} (small : envelope.request.Fits)
    (halts : serving.conversation.answer serving.data envelope.request = .error reason) :
    answerFrame (RequestEnvelope.codec.encode envelope).toBuffer serving outbound =
      ({ serving with ended := true }, outbound) := by
  have decoded : RequestEnvelope.codec.decode (RequestEnvelope.codec.encode envelope) = .ok envelope :=
    small.decode_encode envelope.id
  rw [answerFrame, Bytes.ofBuffer_toBuffer, decoded]
  dsimp only
  rw [halts]

/-- The requests in several frames are answered, one after the other. -/
theorem answerFrames_converse (is_open : serving.ended = false) (willing : outbound.Willing)
    (requests_fit : ∀ envelope ∈ envelopes, envelope.request.Fits)
    (replies_fit : ∀ reply ∈ (converse serving.data envelopes serving.conversation).1, reply.block.Fits) :
    ∃ after next,
      answerFrames (envelopes.map fun envelope => (RequestEnvelope.codec.encode envelope).toBuffer)
        serving outbound = (after, next) ∧
      Bytes.ofBuffer next.written = Bytes.ofBuffer outbound.written ++
        Conversation.framesOf (converse serving.data envelopes serving.conversation).1 ∧
      Stands serving (converse serving.data envelopes serving.conversation).2 after := by
  induction envelopes generalizing serving outbound with
  | nil => exact ⟨serving, outbound, rfl, (List.append_nil _).symm, rfl⟩
  | cons envelope rest ih =>
    obtain ⟨small, others⟩ := List.forall_mem_cons.mp requests_fit
    rw [converse] at replies_fit ⊢
    rw [List.map_cons, answerFrames, if_neg (by rw [is_open]; exact Bool.false_ne_true)]
    cases answered : serving.conversation.answer serving.data envelope.request with
    | error reason =>
      rw [answerFrame_halts small answered]
      exact ⟨_, outbound, answerFrames_ended rfl _ _, (List.append_nil _).symm, rfl⟩
    | ok outcome =>
      obtain ⟨block, conversation⟩ := outcome
      rw [answered] at replies_fit
      dsimp only at replies_fit ⊢
      by_cases ends : block.ends = true
      · rw [if_pos ends] at replies_fit ⊢
        obtain ⟨next, here, -, written⟩ := answerFrame_ok small answered willing
          (replies_fit _ (List.mem_singleton_self _))
        rw [here]
        refine ⟨_, next, answerFrames_ended ends _ _, ?_, ends⟩
        rw [written, Conversation.framesOf, List.flatMap_singleton, Reply.sent]
      · rw [if_neg ends] at replies_fit ⊢
        obtain ⟨fits, replies_fit⟩ := List.forall_mem_cons.mp replies_fit
        obtain ⟨middle, here, still, written⟩ := answerFrame_ok small answered willing fits
        have goesOn : block.ends = false := Bool.eq_false_iff.mpr ends
        obtain ⟨after, next, all, behind, stands⟩ :=
          ih (by exact goesOn : ({ serving with conversation, ended := block.ends } : Serving).ended = false)
            still others replies_fit
        rw [here]
        refine ⟨after, next, all, ?_, ?_⟩
        · rw [behind, written, List.append_assoc]
          congr 1
          exact (framesOf_cons ⟨envelope, serving.conversation, block⟩ _).symm
        · dsimp only at stands ⊢
          cases last : (converse serving.data rest conversation).2 with
          | none =>
            rw [last] at stands
            exact stands
          | some final =>
            rw [last] at stands
            rw [goesOn, ← is_open] at stands
            exact stands

/-! ## Bytes in pieces -/

theorem receive_ended (ended : serving.ended = true) (bytes : ByteArray) :
    serving.receive bytes = ({}, serving) := by
  rw [receive, ended, Bool.true_or, if_pos rfl]

theorem receiveEach_ended (ended : serving.ended = true) (chunks : List ByteArray) :
    receiveEach chunks serving = ([], serving) := by
  induction chunks with
  | nil => rfl
  | cons bytes rest ih =>
    rw [receiveEach, receive_ended ended]
    dsimp only
    rw [ih]
    rfl

/-- What is written counts, with or without the end of the stream behind it. -/
theorem content_reply (written : ByteArray) (ended : Bool) :
    Inbound.content ((if written.isEmpty then [] else [ReadEvent.chunk written]) ++
      if ended then [ReadEvent.chunk .empty] else []) = Bytes.ofBuffer written := by
  have goodbye : Inbound.content (if ended then [ReadEvent.chunk .empty] else []) = [] := by
    cases ended <;> rfl
  rw [Inbound.content_append, goodbye, List.append_nil]
  split
  · next nothing =>
    exact (List.length_eq_zero_iff.mp (eq_of_beq nothing)).symm
  · exact List.append_nil _

/-- Some bytes come in: the frames that are complete now are answered. -/
theorem receive_answers {bytes : ByteArray} {payloads : List ByteArray} {inbound : Inbound}
    {answered : Serving} (is_open : serving.ended = false) (some_bytes : Bytes.ofBuffer bytes ≠ [])
    (received : Framing.receiveAll (serving.inbound.push [.chunk bytes]) = (payloads, .waiting, inbound))
    (all : answerFrames payloads { serving with inbound } {} = (answered, outbound)) :
    serving.receive bytes = ({ events :=
      (if outbound.written.isEmpty then [] else [ReadEvent.chunk outbound.written]) ++
        if answered.ended then [ReadEvent.chunk .empty] else [] }, answered) := by
  have goesOn : ¬ (serving.ended || bytes.isEmpty) = true := by
    rw [is_open, Bytes.isEmpty_eq_false some_bytes]
    nofun
  rw [receive, if_neg goesOn, received]
  dsimp only
  rw [all]

/-- The server is open and has the beginning of a frame. -/
structure Holds (left : Bytes) (serving : Serving) : Prop where
  is_open : serving.ended = false
  carries : serving.inbound.Carries left

/-- A piece of the requests comes in, and those that are complete now are answered. -/
theorem Holds.receive {bytes : ByteArray} {after : Bytes} (holds : serving.Holds left)
    (some_bytes : Bytes.ofBuffer bytes ≠ [])
    (arrives : left ++ Bytes.ofBuffer bytes ++ after = RequestEnvelope.frames envelopes)
    (requests_fit : ∀ envelope ∈ envelopes, envelope.request.Fits)
    (replies_fit : ∀ reply ∈ (converse serving.data envelopes serving.conversation).1, reply.block.Fits) :
    ∃ whole behind rest, envelopes = whole ++ behind ∧
      rest ++ after = RequestEnvelope.frames behind ∧
      (behind ≠ [] → rest.length < (RequestEnvelope.frames behind).length) ∧
      Inbound.content (serving.receive bytes).1.events =
        Conversation.framesOf (converse serving.data whole serving.conversation).1 ∧
      match (converse serving.data whole serving.conversation).2 with
      | some conversation => (serving.receive bytes).2.Holds rest ∧
          (serving.receive bytes).2.data = serving.data ∧
          (serving.receive bytes).2.conversation = conversation
      | none => (serving.receive bytes).2.ended = true := by
  have pushed := holds.carries.push some_bytes
  rw [Bytes.toBuffer_ofBuffer] at pushed
  obtain ⟨payloads, others, rest, inbound, split, front, received, carries, shorter⟩ :=
    Framing.receiveAll_part pushed ⟨after, arrives⟩ (by
      intro payload member
      obtain ⟨envelope, listed, rfl⟩ := List.mem_map.mp member
      exact requests_fit envelope listed envelope.id)
  obtain ⟨whole, behind, rfl, rfl, rfl⟩ := List.map_eq_append_iff.mp split
  have unread : rest ++ after = RequestEnvelope.frames behind := by
    rw [front, RequestEnvelope.frames, List.map_append, List.flatMap_append, List.append_assoc] at arrives
    exact List.append_cancel_left arrives
  have fits : ∀ reply ∈ (converse serving.data whole serving.conversation).1, reply.block.Fits :=
    fun reply member => replies_fit reply ((Conversation.converse_prefix whole behind _).mem member)
  obtain ⟨answered, outbound, all, written, stands⟩ := answerFrames_converse
    (by exact holds.is_open : ({ serving with inbound } : Serving).ended = false) Outbound.Willing.fresh
    (fun envelope member => requests_fit envelope (List.mem_append_left _ member)) fits
  rw [List.map_map] at received
  rw [receive_answers holds.is_open some_bytes received all]
  refine ⟨whole, behind, rest, rfl, unread, shorter ∘ List.map_eq_nil_iff.not.mpr, ?_, ?_⟩
  · rw [content_reply, written]
    rfl
  · dsimp only at stands ⊢
    cases last : (converse serving.data whole serving.conversation).2 with
    | none =>
      rw [last] at stands
      exact stands
    | some conversation =>
      rw [last] at stands
      obtain rfl := stands
      exact ⟨⟨holds.is_open, carries⟩, rfl, rfl⟩

/-- However the bytes of the requests are cut, the frames of all replies are written. -/
theorem Holds.receiveEach (holds : serving.Holds left)
    (arrives : left ++ chunks.flatMap Bytes.ofBuffer = RequestEnvelope.frames envelopes)
    (unread : envelopes ≠ [] → left.length < (RequestEnvelope.frames envelopes).length)
    (requests_fit : ∀ envelope ∈ envelopes, envelope.request.Fits)
    (replies_fit : ∀ reply ∈ (converse serving.data envelopes serving.conversation).1, reply.block.Fits) :
    Inbound.content (serving.receiveEach chunks).1 =
        Conversation.framesOf (converse serving.data envelopes serving.conversation).1 ∧
      (serving.receiveEach chunks).2.ended =
        (converse serving.data envelopes serving.conversation).2.isNone := by
  -- on the pieces: what a piece leaves over is the beginning of the frames behind, which `Holds` carries on
  -- to the next piece together with the requests that are still to be answered
  induction chunks generalizing serving left envelopes with
  | nil =>
    cases envelopes with
    | nil => exact ⟨rfl, holds.is_open⟩
    | cons envelope rest =>
      have more := unread nofun
      rw [← arrives] at more
      simp at more
  | cons bytes rest ih =>
    rw [Serving.receiveEach]
    by_cases nothing : Bytes.ofBuffer bytes = []
    · have still : serving.receive bytes = ({}, serving) := by
        have empty : bytes.isEmpty = true := beq_iff_eq.mpr (List.length_eq_zero_iff.mpr nothing)
        rw [Serving.receive, empty, Bool.or_true, if_pos rfl]
      rw [List.flatMap_cons, nothing, List.nil_append] at arrives
      rw [still]
      exact ih holds arrives unread requests_fit replies_fit
    · rw [List.flatMap_cons, ← List.append_assoc] at arrives
      obtain ⟨whole, behind, kept, rfl, left, shorter, written, stands⟩ :=
        holds.receive nothing arrives requests_fit replies_fit
      rw [Conversation.converse_append] at replies_fit ⊢
      rcases replies : converse serving.data whole serving.conversation with ⟨first, _ | conversation⟩
      -- the connection has ended, and the pieces that are left fall on deaf ears
      · rw [replies] at stands written
        have silent := receiveEach_ended stands rest
        dsimp only
        rw [silent]
        exact ⟨(congrArg Inbound.content (List.append_nil _)).trans written, stands⟩
      · rw [replies] at stands written replies_fit
        obtain ⟨holding, data_eq, conversation_eq⟩ := stands
        dsimp only at replies_fit ⊢
        rw [← data_eq, ← conversation_eq] at replies_fit ⊢
        obtain ⟨others, ended⟩ := ih holding left shorter
          (fun envelope member => requests_fit envelope (List.mem_append_right _ member))
          (fun reply member => replies_fit reply (List.mem_append_right _ member))
        refine ⟨?_, ended⟩
        rw [Inbound.content_append, written, others, framesOf_append]

/-- A new connection, on which nothing has come in. -/
theorem holds_new (data : Dataset) : ({ data } : Serving).Holds [] := ⟨rfl, rfl, nofun, rfl⟩

theorem frames_ne_nil (some_requests : envelopes ≠ []) : RequestEnvelope.frames envelopes ≠ [] := by
  obtain ⟨envelope, rest, rfl⟩ := List.exists_cons_of_ne_nil some_requests
  rw [RequestEnvelope.frames, List.map_cons, List.flatMap_cons]
  exact List.append_ne_nil_of_left_ne_nil (Framing.frame_ne_nil _) _

theorem receiveEach_new (requests_fit : ∀ envelope ∈ envelopes, envelope.request.Fits)
    (replies_fit : ∀ reply ∈ (converse data envelopes {}).1, reply.block.Fits)
    (arrives : chunks.flatMap Bytes.ofBuffer = RequestEnvelope.frames envelopes) :
    Inbound.content (receiveEach chunks { data }).1 = Conversation.framesOf (converse data envelopes {}).1 ∧
      (receiveEach chunks { data }).2.ended = (converse data envelopes {}).2.isNone :=
  (holds_new data).receiveEach arrives (fun some_requests => List.length_pos_iff.mpr (frames_ne_nil some_requests))
    requests_fit replies_fit

/-- Whatever is asked on a new connection, and however the bytes are cut, the server writes a block for each
request up to the first goodbye, in their order and each as it should be, and nothing else, unless a
request halts the thread. -/
theorem replies_disciplined (few : envelopes.length < UInt64.size)
    (addressable : ∀ sql table, data sql [] = .ok table → table.rows.length < UInt64.size)
    (requests_fit : ∀ envelope ∈ envelopes, envelope.request.Fits)
    (replies_fit : ∀ reply ∈ (converse data envelopes {}).1, reply.block.Fits)
    (arrives : chunks.flatMap Bytes.ofBuffer = RequestEnvelope.frames envelopes) :
    Inbound.content (receiveEach chunks { data }).1 = Conversation.framesOf (converse data envelopes {}).1 ∧
      (converse data envelopes {}).1.map (·.envelope) = RequestEnvelope.answered envelopes ∧
      ∀ reply ∈ (converse data envelopes {}).1, reply.Disciplined data :=
  ⟨(receiveEach_new requests_fit replies_fit arrives).1,
    Conversation.converse_disciplined addressable (Conversation.numbered_new few)⟩

/-- A stream between a greeting and a goodbye, and a request that comes too late. -/
def visit : List RequestEnvelope :=
  [⟨7, .ping⟩, ⟨8, .executeStream "numbers" 2⟩, ⟨9, .closeConnection⟩, ⟨10, .ping⟩]

/-- The visit in pieces of a single byte each. -/
theorem replies_visit :
    let data : Dataset := fun _ _ => .ok (.series 3)
    let bytes := (RequestEnvelope.frames visit).map fun byte => Bytes.toBuffer [byte]
    Inbound.content (receiveEach bytes { data }).1 = Conversation.framesOf (converse data visit {}).1 ∧
      (converse data visit {}).1.map (·.envelope) = visit.take 3 ∧
      ∀ reply ∈ (converse data visit {}).1, reply.Disciplined data := by
  intro data bytes
  have fits : (Table.series 3).PagesFit 2 := .of_whole (by decide +kernel) 2
  have addressable : (Table.series 3).rows.length < UInt64.size := by decide
  obtain ⟨rest, next, pages, streams⟩ := Conversation.answer_executeStream
    (rfl : ({} : Conversation).Fresh) (rfl : data "numbers" [] = _) addressable 2
  have replies : (converse data visit {}).1 = [⟨⟨7, .ping⟩, {}, .one .pong⟩,
      ⟨⟨8, .executeStream "numbers" 2⟩, {}, .ofPages 1 (Table.series 3).columns ((Table.series 3).page 0 2) rest⟩,
      ⟨⟨9, .closeConnection⟩, next, ⟨[(true, .ok)], true⟩⟩] := by
    rw [visit, converse, show ({} : Conversation).answer data .ping = .ok (.one .pong, {}) from rfl]
    dsimp only [Block.one]
    rw [if_neg Bool.false_ne_true, converse]
    dsimp only
    rw [streams]
    rfl
  have replies_fit : ∀ reply ∈ (converse data visit {}).1, reply.block.Fits := by
    rw [replies]
    simp only [List.forall_mem_cons]
    refine ⟨List.forall_mem_singleton.mpr (by decide : Response.Fits .pong), ?_,
      List.forall_mem_singleton.mpr (by decide : Response.Fits .ok), List.forall_mem_nil _⟩
    intro entry member
    rcases List.mem_cons.mp member with rfl | behind
    · exact fits.first 1
    · obtain ⟨page, listed, rfl⟩ := List.mem_map.mp behind
      exact fits.all page (pages ▸ List.mem_cons_of_mem _ listed)
  refine replies_disciplined (by decide) ?_ (by decide) replies_fit ?_
  · rintro sql table named
    obtain rfl := Except.ok.inj named
    exact addressable
  · rw [List.flatMap_map]
    exact List.flatMap_singleton' _

/-- An array of 2 ^ 63 items for a statement, and a greeting behind it. -/
def boundlessRequests : List RequestEnvelope :=
  [⟨1, .execute 1 [⟨.array, LittleEndian.write 8 (2 ^ 63)⟩] 1 0⟩, ⟨2, .ping⟩]

/-- The thread halts at such a parameter, and neither request gets a reply. -/
theorem silent_boundless :
    let data : Dataset := fun _ _ => .ok (.series 3)
    let served := receiveEach [Bytes.toBuffer (RequestEnvelope.frames boundlessRequests)] { data }
    Inbound.content served.1 = [] ∧ served.2.ended = true ∧
      ¬ ∃ replies : List Reply, Inbound.content served.1 = Conversation.framesOf replies ∧
        replies.map (·.envelope) = boundlessRequests ∧ ∀ reply ∈ replies, reply.Disciplined data := by
  intro data served
  have halts : (converse data boundlessRequests {}) = ([], none) := by
    rw [boundlessRequests, converse]
    dsimp only
    rw [Conversation.answer_halts.mpr (by decide +kernel : Request.halt? _ = some Halt.capacityOverflow)]
  obtain ⟨written, ended⟩ : Inbound.content served.1 = Conversation.framesOf [] ∧ served.2.ended = true := by
    have fits : ∀ envelope ∈ boundlessRequests, envelope.request.Fits := by decide
    have arrives : [Bytes.toBuffer (RequestEnvelope.frames boundlessRequests)].flatMap Bytes.ofBuffer =
        RequestEnvelope.frames boundlessRequests := by
      rw [List.flatMap_singleton, Bytes.ofBuffer_toBuffer]
    have outcome := receiveEach_new fits (by rw [halts]; exact List.forall_mem_nil _) arrives
    rw [halts] at outcome
    exact outcome
  refine ⟨written, ended, ?_⟩
  rintro ⟨replies, same, order, disciplined⟩
  cases replies with
  | nil => contradiction
  | cons reply rest =>
    obtain ⟨before, response, marked, -⟩ := (disciplined reply (List.mem_cons_self ..)).marked
    have spoken := Block.frames_ne_nil reply.envelope.id
      (by rw [marked]; exact List.append_ne_nil_of_right_ne_nil _ (List.cons_ne_nil _ _) : reply.block.responses ≠ [])
    rw [written, framesOf_cons] at same
    exact spoken (List.append_eq_nil_iff.mp same.symm).1

end Serving

end PagedResults
