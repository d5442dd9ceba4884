import Mathlib.Tactic.ByContra
import PagedResults.Proofs.Framing

/-! # Frames in a row

Payloads that are sent one after the other are received one after the other, and then the end of the
stream for as long as anybody asks. It does not matter in which portions the bytes were accepted, where
the chunks are cut in which they come back, or how often a read is interrupted. The empty payload is a
frame like any other: the end of the stream shows only where a header would begin.
-/

namespace PagedResults

namespace Inbound

/-- An event that brings no byte and no failure: the end of the stream, or an interruption. -/
def Idles : ReadEvent → Prop
  | .chunk bytes => bytes.size = 0
  | .interrupted => True
  | .failure _ => False

/-- What will be read is exactly `bytes`, and from then on the end of the stream. -/
structure Holds (bytes : Bytes) (inbound : Inbound) : Prop where
  ended : inbound.ended = true
  begins : ∃ behind, inbound.Begins bytes behind ∧ ∀ event ∈ behind, Idles event

/-- Events that flow but carry nothing are interruptions. -/
theorem idles_of_content_eq_nil {events : List ReadEvent} (flows : ∀ event ∈ events, Flows event)
    (nothing : content events = []) : ∀ event ∈ events, Idles event := by
  induction events with
  | nil => exact fun _ member => nomatch member
  | cons event rest ih =>
    obtain ⟨flow, others⟩ := List.forall_mem_cons.mp flows
    cases event with
    | failure reason => exact flow.elim
    | interrupted => exact List.forall_mem_cons.mpr ⟨trivial, ih others nothing⟩
    | chunk bytes =>
      obtain ⟨empty, -⟩ := List.append_eq_nil_iff.mp nothing
      exact absurd (congrArg List.length empty) flow

/-- A stream that holds nothing more only idles. -/
theorem Holds.idles {inbound : Inbound} (holds : inbound.Holds []) :
    ∀ event ∈ inbound.events, Idles event := by
  obtain ⟨behind, ⟨front, split, flows, nothing⟩, idles⟩ := holds.begins
  rw [split]
  exact List.forall_mem_append.mpr ⟨idles_of_content_eq_nil flows nothing, idles⟩

private theorem Holds.of_idles {inbound : Inbound} (ended : inbound.ended = true)
    (idles : ∀ event ∈ inbound.events, Idles event) : inbound.Holds [] :=
  ⟨ended, inbound.events, ⟨[], rfl, (fun _ member => nomatch member), rfl⟩, idles⟩

/-- Whoever wants bytes at the end of a stream gets none of them. -/
theorem fillFrom_idles {events : List ReadEvent} (idles : ∀ event ∈ events, Idles event)
    (held : ByteArray) {wanted : Nat} (some_wanted : wanted ≠ 0) :
    ∃ rest, fillFrom true held wanted events = (.short held, rest) ∧ ∀ event ∈ rest, Idles event := by
  induction events with
  | nil =>
    refine ⟨[], ?_, idles⟩
    rw [fillFrom, if_neg some_wanted, if_pos rfl]
  | cons event events ih =>
    obtain ⟨idle, others⟩ := List.forall_mem_cons.mp idles
    rw [fillFrom.eq_def]
    dsimp only
    rw [if_neg some_wanted]
    cases event with
    | failure reason => exact idle.elim
    | interrupted => exact ih others
    | chunk bytes => exact ⟨events, if_pos idle, others⟩

end Inbound

namespace Framing

/-! ## Receiving again and again -/

/-- What a number of attempts to receive a frame give. -/
def receiveEach : Nat → Inbound → List Received
  | 0, _ => []
  | count + 1, inbound => (receive inbound).1 :: receiveEach count (receive inbound).2

/-- At the end of a stream there is no frame, now or later. -/
theorem receive_ended {inbound : Inbound} (holds : inbound.Holds []) :
    ∃ next, receive inbound = (.ended, next) ∧ next.Holds [] := by
  obtain ⟨rest, filled, idles⟩ :=
    Inbound.fillFrom_idles holds.idles .empty (by decide : headerLength ≠ 0)
  refine ⟨{ inbound with events := rest }, ?_, .of_idles holds.ended idles⟩
  rw [receive, Inbound.fill, holds.ended, filled]
  rfl

theorem receiveEach_ended {inbound : Inbound} (holds : inbound.Holds []) (count : Nat) :
    receiveEach count inbound = List.replicate count .ended := by
  induction count generalizing inbound with
  | zero => rfl
  | succ count ih =>
    obtain ⟨next, received, still⟩ := receive_ended holds
    rw [receiveEach, received, ih still, List.replicate_succ]

/-- All frames that a stream holds are received in order, and then the end. -/
theorem receiveEach_frames {payloads : List ByteArray} {inbound : Inbound}
    (holds : inbound.Holds (payloads.flatMap fun payload => frame (Bytes.ofBuffer payload)))
    (fits : ∀ payload ∈ payloads, payload.size ≤ maxFrameLength) (more : Nat) :
    receiveEach (payloads.length + more) inbound =
      payloads.map .frame ++ List.replicate more .ended := by
  induction payloads generalizing inbound with
  | nil =>
    rw [List.length_nil, Nat.zero_add]
    exact receiveEach_ended holds more
  | cons payload payloads ih =>
    obtain ⟨here, others⟩ := List.forall_mem_cons.mp fits
    -- only the first frame is read; what is behind it is again a stream of whole frames
    obtain ⟨ended, behind, begins, idles⟩ := holds
    rw [List.flatMap_cons] at begins
    obtain ⟨next, received, left, still⟩ := receive_begins begins here
    rw [List.length_cons, Nat.succ_add, receiveEach, received,
      ih ⟨still.trans ended, behind, left, idles⟩ others, Bytes.toBuffer_ofBuffer]
    rfl

/-! ## Sending again and again -/

/-- What it comes to when payloads are sent one after the other. -/
def sendEach : List ByteArray → Outbound → List (Except WireError Unit) × Outbound
  | [], outbound => ([], outbound)
  | payload :: rest, outbound =>
      let (sent, outbound) := send payload outbound
      let (others, outbound) := sendEach rest outbound
      (sent :: others, outbound)

/-- All payloads that fit are sent, each behind the one before it. -/
theorem sendEach_frames {payloads : List ByteArray} {outbound : Outbound} (willing : outbound.Willing)
    (fits : ∀ payload ∈ payloads, payload.size ≤ maxFrameLength) :
    ∃ after, sendEach payloads outbound = (payloads.map fun _ => .ok (), after) ∧
      Bytes.ofBuffer after.written = Bytes.ofBuffer outbound.written ++
        payloads.flatMap fun payload => frame (Bytes.ofBuffer payload) := by
  induction payloads generalizing outbound with
  | nil => exact ⟨outbound, rfl, (List.append_nil _).symm⟩
  | cons payload payloads ih =>
    obtain ⟨here, others⟩ := List.forall_mem_cons.mp fits
    have short : (Bytes.ofBuffer payload).length ≤ maxFrameLength := here
    obtain ⟨middle, sent, willing, written⟩ := willing.send short
    rw [Bytes.toBuffer_ofBuffer] at sent
    obtain ⟨after, all, behind⟩ := ih willing others
    refine ⟨after, ?_, ?_⟩
    · rw [sendEach, sent]
      dsimp only
      rw [all]
      rfl
    · rw [behind, written, List.flatMap_cons, List.append_assoc]

/-! ## The limit -/

/-- A payload is refused as too long, and nothing of it written, exactly if it is longer than a frame
may be. -/
theorem send_tooLong_iff (payload : ByteArray) (outbound : Outbound) :
    send payload outbound = (.error (.frameTooLong payload.size), outbound) ↔
      maxFrameLength < payload.size := by
  constructor
  · intro refused
    by_contra fits
    rw [send, if_neg fits] at refused
    split at refused
    · cases refused
    · split at refused
      · cases refused
      · rw [Outbound.flush] at refused
        split at refused <;> cases refused
  · intro long
    rw [send, if_pos long]

/-- A header is refused, and no more taken than the header, exactly if it announces a payload that is
longer than a frame may be. -/
theorem receive_tooLong_iff {length : Nat} (addressable : length < UInt64.size) {rest : Bytes}
    {behind : List ReadEvent} {inbound : Inbound}
    (begins : inbound.Begins (Bytes.ofBuffer (header length) ++ rest) behind) :
    (receive inbound).1 = .failed (.frameTooLong length) ↔ maxFrameLength < length := by
  have small : length < LittleEndian.wordCount headerLength := addressable
  rw [header, Bytes.ofBuffer_toBuffer] at begins
  obtain ⟨next, headed, -, -⟩ := begins.fill
  rw [LittleEndian.length_write] at headed
  rw [receive, headed]
  dsimp only
  rw [Bytes.ofBuffer_toBuffer, LittleEndian.read_write, Nat.mod_eq_of_lt small, receivePayload]
  constructor
  · intro refused
    by_contra fits
    rw [if_neg fits] at refused
    -- whatever a fitting payload comes to, it is not refused for its length
    rcases filled : next.fill length with ⟨filling, left⟩
    rw [filled] at refused
    cases filling <;> cases refused
  · intro long
    rw [if_pos long]

/-- Payloads that are not too long are all sent and all received again, in order and each as a whole,
and then the stream is at its end; and either side refuses a payload exactly if it is too long. -/
theorem frames_roundTrip {outbound : Outbound} (willing : outbound.Willing)
    (fresh : outbound.written = .empty) {payloads : List ByteArray}
    (fits : ∀ payload ∈ payloads, payload.size ≤ maxFrameLength) :
    (∃ after, sendEach payloads outbound = (payloads.map fun _ => .ok (), after) ∧
      Bytes.ofBuffer after.written = (payloads.flatMap fun payload => frame (Bytes.ofBuffer payload)) ∧
      ∀ inbound : Inbound, inbound.Holds (Bytes.ofBuffer after.written) → ∀ more,
        receiveEach (payloads.length + more) inbound =
          payloads.map .frame ++ List.replicate more .ended) ∧
    ∀ payload : ByteArray,
      (∀ outbound, send payload outbound = (.error (.frameTooLong payload.size), outbound) ↔
        maxFrameLength < payload.size) ∧
      (payload.size < UInt64.size → ∀ (rest : Bytes) (behind : List ReadEvent) (inbound : Inbound),
        inbound.Begins (Bytes.ofBuffer (header payload.size) ++ rest) behind →
          ((receive inbound).1 = .failed (.frameTooLong payload.size) ↔
            maxFrameLength < payload.size)) := by
  constructor
  · obtain ⟨after, sent, written⟩ := sendEach_frames willing fits
    have nothing : Bytes.ofBuffer ByteArray.empty = [] := rfl
    rw [fresh, nothing, List.nil_append] at written
    refine ⟨after, sent, written, ?_⟩
    intro inbound holds more
    rw [written] at holds
    exact receiveEach_frames holds fits more
  · intro payload
    refine ⟨send_tooLong_iff payload, ?_⟩
    intro addressable rest behind inbound begins
    exact receive_tooLong_iff addressable begins

/-- Every byte by itself, behind an interruption, and the end of the stream several times over. -/
def bytewise (bytes : Bytes) : Inbound where
  events := (bytes.flatMap fun byte => [.interrupted, .chunk (Bytes.toBuffer [byte])]) ++
    [.chunk .empty, .interrupted]
  ended := true

private theorem bytewise_holds (bytes : Bytes) : (bytewise bytes).Holds bytes := by
  refine ⟨rfl, _, ⟨_, rfl, ?_, ?_⟩, ?_⟩
  · intro event member
    obtain ⟨byte, -, listed⟩ := List.mem_flatMap.mp member
    rcases List.mem_cons.mp listed with rfl | last
    · exact trivial
    · obtain rfl := List.mem_singleton.mp last
      exact Nat.one_ne_zero
  · induction bytes with
    | nil => rfl
    | cons byte bytes ih =>
      rw [List.flatMap_cons, Inbound.content_append, ih]
      rfl
  · simp [Inbound.Idles]

/-- An empty payload and one of three bytes, in portions of one byte and read byte by byte. -/
theorem roundTrip_bytewise :
    ∃ after, sendEach [.empty, Bytes.toBuffer [1, 2, 3]] { portion := fun _ => 1 } =
        ([.ok (), .ok ()], after) ∧
      receiveEach 4 (bytewise (Bytes.ofBuffer after.written)) =
        [.frame .empty, .frame (Bytes.toBuffer [1, 2, 3]), .ended, .ended] := by
  have willing : ({ portion := fun _ => 1 } : Outbound).Willing := ⟨rfl, rfl, fun _ => Nat.one_pos⟩
  have fits : ∀ payload ∈ [ByteArray.empty, Bytes.toBuffer [1, 2, 3]], payload.size ≤ maxFrameLength := by
    decide
  obtain ⟨⟨after, sent, -, received⟩, -⟩ := frames_roundTrip willing rfl fits
  exact ⟨after, sent, received _ (bytewise_holds _) 2⟩

end Framing

end PagedResults
