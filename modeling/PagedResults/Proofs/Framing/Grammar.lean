import Mathlib.Tactic.SplitIfs
import PagedResults.Proofs.Framing

/-! # What a receiver reads off a stream

A receiver depends on two things only: on the bytes that arrive before the stream stops, and on what stops
it. Where the chunks are cut and how often a read is interrupted makes no difference, and neither does what
lies behind the bytes that the frame needs. `Framing.parse` is the grammar over the bytes alone; receiving
is parsing, and it takes a frame off the stream and nothing else.
-/

namespace PagedResults

namespace Framing

open Inbound (Stop)

/-! ## The grammar -/

/-- The length that a header announces. -/
def announced (bytes : Bytes) : Nat := LittleEndian.read (bytes.take headerLength)

/-- The payload behind a header. -/
def payloadOf (bytes : Bytes) : Bytes := (bytes.drop headerLength).take (announced bytes)

/-- The number of bytes that decide what is received. -/
def needed (bytes : Bytes) : Nat :=
  if bytes.length < headerLength ∨ maxFrameLength < announced bytes then headerLength
  else headerLength + announced bytes

/-- What is received when a stream stops after `read` of `expected` bytes. -/
def cutShort (read expected : Nat) : Stop → Received
  | .ended => .failed (.truncated read expected)
  | .failed reason => .failed (.stream reason)
  | .pending => .waiting

@[simp] theorem cutShort_ne_ended (read expected : Nat) (stop : Stop) :
    cutShort read expected stop ≠ .ended := by
  cases stop <;> exact nofun

@[simp] theorem cutShort_ne_frame (read expected : Nat) (stop : Stop) (payload : ByteArray) :
    cutShort read expected stop ≠ .frame payload := by
  cases stop <;> exact nofun

@[simp] theorem cutShort_ne_too_long (read expected : Nat) (stop : Stop) (length : Nat) :
    cutShort read expected stop ≠ .failed (.frameTooLong length) := by
  cases stop <;> exact nofun

/-- What is received when some bytes arrive and then the stream stops. -/
def parse (bytes : Bytes) (stop : Stop) : Received :=
  if bytes.length < headerLength then
    if bytes = [] ∧ stop = .ended then .ended else cutShort bytes.length headerLength stop
  else if maxFrameLength < announced bytes then .failed (.frameTooLong (announced bytes))
  else if bytes.length - headerLength < announced bytes then
    cutShort (bytes.length - headerLength) (announced bytes) stop
  else .frame (payloadOf bytes).toBuffer

variable {inbound : Inbound}

/-- A stream that stops inside a header. -/
theorem receive_headless (few : inbound.arriving.length < headerLength) :
    (receive inbound).1 = if inbound.arriving = [] ∧ inbound.stop = .ended then .ended
      else cutShort inbound.arriving.length headerLength inbound.stop := by
  have filled := Inbound.fill_of_lt few
  rw [receive]
  generalize inbound.fill headerLength = result at filled ⊢
  obtain ⟨filling, rest⟩ := result
  obtain rfl : filling = inbound.stop.cut inbound.arriving.toBuffer := filled
  cases inbound.stop with
  | failed reason => exact (if_neg (by simp)).symm
  | pending => exact (if_neg (by simp)).symm
  | ended =>
    simp only [Stop.cut, Bytes.size_toBuffer, and_true, ← List.length_eq_zero_iff, cutShort]
    exact apply_ite Prod.fst _ _ _

/-- A header that has arrived is taken off the stream. -/
theorem receive_headed (headed : headerLength ≤ inbound.arriving.length) :
    ∃ rest, rest.arriving = inbound.arriving.drop headerLength ∧ rest.stop = inbound.stop ∧
      receive inbound = match receivePayload (announced inbound.arriving) rest with
        | (.waiting, _) => (.waiting, inbound)
        | received => received := by
  obtain ⟨rest, filled, bytes_eq, stop_eq⟩ := Inbound.fill_of_le headed
  refine ⟨rest, bytes_eq, stop_eq, ?_⟩
  rw [receive, filled]
  dsimp only
  rw [Bytes.ofBuffer_toBuffer]
  rfl

/-- A frame that is too long is not read. -/
theorem receive_too_long (headed : headerLength ≤ inbound.arriving.length)
    (long : maxFrameLength < announced inbound.arriving) :
    ∃ rest, receive inbound = (.failed (.frameTooLong (announced inbound.arriving)), rest) ∧
      rest.arriving = inbound.arriving.drop headerLength ∧ rest.stop = inbound.stop := by
  obtain ⟨rest, bytes_eq, stop_eq, received⟩ := receive_headed headed
  rw [receivePayload, if_pos long] at received
  exact ⟨rest, received, bytes_eq, stop_eq⟩

/-- A stream that stops inside a payload. -/
theorem receive_cut (headed : headerLength ≤ inbound.arriving.length)
    (fits : announced inbound.arriving ≤ maxFrameLength)
    (few : inbound.arriving.length - headerLength < announced inbound.arriving) :
    (receive inbound).1 =
      cutShort (inbound.arriving.length - headerLength) (announced inbound.arriving) inbound.stop := by
  obtain ⟨rest, bytes_eq, stop_eq, received⟩ := receive_headed headed
  have length_eq : rest.arriving.length = inbound.arriving.length - headerLength := by
    rw [bytes_eq, List.length_drop]
  have filled := Inbound.fill_of_lt (by rwa [length_eq] : rest.arriving.length < _)
  rw [receivePayload, if_neg (Nat.not_lt.mpr fits)] at received
  rw [received, ← length_eq]
  generalize rest.fill (announced inbound.arriving) = result at filled ⊢
  obtain ⟨filling, last⟩ := result
  obtain rfl : filling = rest.stop.cut rest.arriving.toBuffer := filled
  rw [stop_eq]
  cases inbound.stop <;> rfl

/-- A frame that arrives as a whole is taken off the stream, and nothing behind it. -/
theorem receive_whole (headed : headerLength ≤ inbound.arriving.length)
    (fits : announced inbound.arriving ≤ maxFrameLength)
    (whole : announced inbound.arriving ≤ inbound.arriving.length - headerLength) :
    ∃ rest, receive inbound = (.frame (payloadOf inbound.arriving).toBuffer, rest) ∧
      rest.arriving = inbound.arriving.drop (headerLength + announced inbound.arriving) ∧
      rest.stop = inbound.stop := by
  obtain ⟨rest, bytes_eq, stop_eq, received⟩ := receive_headed headed
  have enough : announced inbound.arriving ≤ rest.arriving.length := by
    rw [bytes_eq, List.length_drop]
    exact whole
  obtain ⟨last, filled, left, still⟩ := Inbound.fill_of_le enough
  rw [receivePayload, if_neg (Nat.not_lt.mpr fits), filled] at received
  refine ⟨last, ?_, ?_, still.trans stop_eq⟩
  · rw [received, payloadOf, ← bytes_eq]
  · rw [left, bytes_eq, List.drop_drop]

/-- Receiving is parsing what arrives, and takes the needed bytes off the stream. -/
theorem receive_parse (inbound : Inbound) :
    (receive inbound).1 = parse inbound.arriving inbound.stop ∧
    (needed inbound.arriving ≤ inbound.arriving.length →
      (receive inbound).2.arriving = inbound.arriving.drop (needed inbound.arriving) ∧
      (receive inbound).2.stop = inbound.stop) := by
  rw [parse, needed]
  by_cases few : inbound.arriving.length < headerLength
  · rw [if_pos few, if_pos (Or.inl few)]
    exact ⟨receive_headless few, fun enough => absurd few (Nat.not_lt.mpr enough)⟩
  · have headed := Nat.not_lt.mp few
    rw [if_neg few]
    by_cases long : maxFrameLength < announced inbound.arriving
    · obtain ⟨rest, received, left⟩ := receive_too_long headed long
      rw [if_pos long, if_pos (Or.inr long), received]
      exact ⟨rfl, fun _ => left⟩
    · have fits := Nat.not_lt.mp long
      rw [if_neg long, if_neg (not_or.mpr ⟨few, long⟩)]
      by_cases short : inbound.arriving.length - headerLength < announced inbound.arriving
      · rw [if_pos short]
        exact ⟨receive_cut headed fits short, fun enough => by omega⟩
      · obtain ⟨rest, received, left⟩ := receive_whole headed fits (Nat.not_lt.mp short)
        rw [if_neg short, received]
        exact ⟨rfl, fun _ => left⟩

/-! ## The outcomes -/

variable {bytes : Bytes} {stop : Stop}

private theorem parse_ended_iff : parse bytes stop = .ended ↔ bytes = [] ∧ stop = .ended := by
  rw [parse]
  split_ifs with few nothing
  · exact ⟨fun _ => nothing, fun _ => rfl⟩
  · simp [nothing]
  all_goals
    have some_bytes : bytes ≠ [] := by
      rintro rfl
      exact few (by decide)
    simp [some_bytes]

private theorem parse_too_long_iff : parse bytes stop = .failed (.frameTooLong (announced bytes)) ↔
    headerLength ≤ bytes.length ∧ maxFrameLength < announced bytes := by
  rw [parse]
  split_ifs <;> simp <;> omega

private theorem parse_frame_iff {payload : ByteArray} : parse bytes stop = .frame payload ↔
    headerLength ≤ bytes.length ∧ announced bytes ≤ maxFrameLength ∧
      announced bytes ≤ bytes.length - headerLength ∧ payload = (payloadOf bytes).toBuffer := by
  rw [parse]
  split_ifs with few nothing long short
  · exact iff_of_false nofun (by omega)
  · exact iff_of_false (cutShort_ne_frame _ _ _ _) (by omega)
  · exact iff_of_false nofun (by omega)
  · exact iff_of_false (cutShort_ne_frame _ _ _ _) (by omega)
  · rw [Received.frame.injEq, eq_comm]
    exact ⟨fun same => ⟨Nat.not_lt.mp few, Nat.not_lt.mp long, Nat.not_lt.mp short, same⟩,
      fun whole => whole.2.2.2⟩

private theorem parse_truncated_iff {read expected : Nat} : parse bytes .ended = .failed (.truncated read expected) ↔
    bytes ≠ [] ∧ bytes.length < headerLength ∧ read = bytes.length ∧ expected = headerLength ∨
    headerLength ≤ bytes.length ∧ announced bytes ≤ maxFrameLength ∧
      bytes.length - headerLength < announced bytes ∧
      read = bytes.length - headerLength ∧ expected = announced bytes := by
  rw [parse]
  split_ifs with few nothing long short
  · refine iff_of_false nofun ?_
    rintro (⟨some_bytes, -⟩ | ⟨enough, -⟩)
    · exact some_bytes nothing.1
    · exact absurd few (Nat.not_lt.mpr enough)
  · have some_bytes : bytes ≠ [] := fun none_left => nothing ⟨none_left, rfl⟩
    constructor
    · intro same
      cases same
      exact .inl ⟨some_bytes, few, rfl, rfl⟩
    · rintro (⟨-, -, rfl, rfl⟩ | ⟨enough, -⟩)
      · rfl
      · exact absurd few (Nat.not_lt.mpr enough)
  · exact iff_of_false nofun (by omega)
  · have headed : headerLength ≤ bytes.length := Nat.not_lt.mp few
    constructor
    · intro same
      cases same
      exact .inr ⟨headed, Nat.not_lt.mp long, short, rfl, rfl⟩
    · rintro (⟨-, few, -⟩ | ⟨-, -, -, rfl, rfl⟩)
      · exact absurd few (Nat.not_lt.mpr headed)
      · rfl
  · exact iff_of_false nofun (by omega)

/-- A failure is met exactly if it comes before the last byte that is needed. -/
theorem parse_stream_iff {reason : String} : parse bytes (.failed reason) = .failed (.stream reason) ↔
    bytes.length < needed bytes := by
  rw [parse, needed]
  by_cases few : bytes.length < headerLength
  · rw [if_pos few, if_pos (Or.inl few)]
    simp [cutShort, few]
  · rw [if_neg few]
    by_cases long : maxFrameLength < announced bytes
    · rw [if_pos long, if_pos (Or.inr long)]
      simp [few]
    · rw [if_neg long, if_neg (not_or.mpr ⟨few, long⟩)]
      split_ifs with short <;> simp [cutShort] <;> omega

private theorem headerLength_le_needed (bytes : Bytes) : headerLength ≤ needed bytes := by
  rw [needed]
  split_ifs <;> omega

/-- What decides about a frame are the bytes that are needed; neither the others nor the stop matter. -/
theorem parse_of_take {others : Bytes} (enough : needed bytes ≤ bytes.length)
    (same : others.take (needed bytes) = bytes.take (needed bytes)) (stop' : Stop) :
    parse others stop' = parse bytes stop := by
  have as_many : needed bytes ≤ others.length := by
    have lengths := congrArg List.length same
    rw [List.length_take, List.length_take_of_le enough] at lengths
    omega
  have front {count : Nat} (inside : count ≤ needed bytes) : others.take count = bytes.take count := by
    rw [← Nat.min_eq_left inside, ← List.take_take, same, List.take_take]
  have announced_eq : announced others = announced bytes := by
    rw [announced, announced, front (headerLength_le_needed bytes)]
  have headed : headerLength ≤ bytes.length := Nat.le_trans (headerLength_le_needed bytes) enough
  have headed' : headerLength ≤ others.length := Nat.le_trans (headerLength_le_needed bytes) as_many
  by_cases long : maxFrameLength < announced bytes
  · rw [parse_too_long_iff.mpr ⟨headed, long⟩, ← announced_eq]
    exact parse_too_long_iff.mpr ⟨headed', announced_eq ▸ long⟩
  · have fits := Nat.not_lt.mp long
    have needed_eq : needed bytes = headerLength + announced bytes :=
      if_neg (not_or.mpr ⟨Nat.not_lt.mpr headed, long⟩)
    have payload_eq : payloadOf others = payloadOf bytes := by
      rw [payloadOf, payloadOf, announced_eq, List.take_drop, List.take_drop, ← needed_eq, same]
    rw [parse_frame_iff.mpr ⟨headed, fits, by omega, rfl⟩, ← payload_eq]
    exact parse_frame_iff.mpr ⟨headed', by omega, by omega, rfl⟩

/-- What is received from a stream, by the bytes that arrive and what stops it behind them. -/
structure Exact (inbound : Inbound) : Prop where
  /-- A stream ends between frames if no byte arrives before its end. -/
  ended_iff : (receive inbound).1 = .ended ↔ inbound.arriving = [] ∧ inbound.stop = .ended
  /-- It ends inside a header -/
  header_cut_iff : inbound.stop = .ended →
    ((receive inbound).1 = .failed (.truncated inbound.arriving.length headerLength) ↔
      1 ≤ inbound.arriving.length ∧ inbound.arriving.length < headerLength)
  /-- or inside a payload. -/
  payload_cut_iff : inbound.stop = .ended →
    ((receive inbound).1 = .failed
        (.truncated (inbound.arriving.length - headerLength) (announced inbound.arriving)) ↔
      headerLength ≤ inbound.arriving.length ∧ announced inbound.arriving ≤ maxFrameLength ∧
        inbound.arriving.length - headerLength < announced inbound.arriving)
  /-- A header is enough to refuse a frame. -/
  too_long_iff : (receive inbound).1 = .failed (.frameTooLong (announced inbound.arriving)) ↔
    headerLength ≤ inbound.arriving.length ∧ maxFrameLength < announced inbound.arriving
  /-- Any other frame is received once it has arrived. -/
  frame_iff : ∀ payload, (receive inbound).1 = .frame payload ↔
    headerLength ≤ inbound.arriving.length ∧ announced inbound.arriving ≤ maxFrameLength ∧
      announced inbound.arriving ≤ inbound.arriving.length - headerLength ∧
      payload = (payloadOf inbound.arriving).toBuffer
  /-- A failure is passed on if it comes before the last byte that is needed. -/
  stream_iff : ∀ reason, inbound.stop = .failed reason →
    ((receive inbound).1 = .failed (.stream reason) ↔
      inbound.arriving.length < needed inbound.arriving)
  /-- The bytes that are needed are taken off the stream, and no others. -/
  consumed : needed inbound.arriving ≤ inbound.arriving.length →
    (receive inbound).2.arriving = inbound.arriving.drop (needed inbound.arriving) ∧
      (receive inbound).2.stop = inbound.stop
  /-- What lies behind them has no effect, -/
  beyond : needed inbound.arriving ≤ inbound.arriving.length → ∀ other : Inbound,
    other.arriving.take (needed inbound.arriving) = inbound.arriving.take (needed inbound.arriving) →
      (receive other).1 = (receive inbound).1
  /-- and neither have the cuts and interruptions. -/
  uncut : ∀ other : Inbound, other.arriving = inbound.arriving → other.stop = inbound.stop →
    (receive other).1 = (receive inbound).1

/-- However a stream is cut into reads and interrupted, a receiver takes exactly one frame of the grammar
off it, or says exactly what is wrong with it. -/
theorem receive_exact (inbound : Inbound) : Exact inbound := by
  have header : 0 < headerLength := by decide
  obtain ⟨parsed, taken⟩ := receive_parse inbound
  constructor
  · rw [parsed, parse_ended_iff]
  · intro ended
    rw [parsed, ended, parse_truncated_iff, ← List.length_pos_iff]
    omega
  · intro ended
    rw [parsed, ended, parse_truncated_iff, ← List.length_pos_iff]
    omega
  · rw [parsed, parse_too_long_iff]
  · intro payload
    rw [parsed, parse_frame_iff]
  · intro reason failed
    rw [parsed, failed, parse_stream_iff]
  · exact taken
  · intro enough other same
    rw [parsed, (receive_parse other).1]
    exact parse_of_take enough same other.stop
  · intro other bytes_eq stop_eq
    rw [parsed, (receive_parse other).1, bytes_eq, stop_eq]

/-- A frame of two bytes in three pieces, with the first byte of the next one. -/
example : receive ⟨[.interrupted, .chunk ⟨#[2, 0, 0]⟩, .chunk ⟨#[0, 0, 0, 0, 0, 7]⟩, .interrupted,
      .chunk ⟨#[8, 9]⟩], true⟩ = (.frame ⟨#[7, 8]⟩, ⟨[.chunk ⟨#[9]⟩], true⟩) := by
  rfl

end Framing

end PagedResults
