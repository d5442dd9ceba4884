import PagedResults.Bytes.LittleEndian
import PagedResults.Error
import PagedResults.Stream

/-! # Frames

A frame is a header of eight bytes, which gives the length of the payload as a little-endian number,
and the payload. Frames longer than `maxFrameLength` are refused on both sides: a sender writes nothing
of them, and a receiver takes only the header. A stream may end between frames; ending anywhere else
cuts a frame short.
-/

namespace PagedResults.Framing

/-- The length of a header. -/
def headerLength : Nat := 8

/-- The header of a payload. -/
def header (length : Nat) : ByteArray := (LittleEndian.write headerLength length).toBuffer

/-- Write a frame and pass it on. -/
def send (payload : ByteArray) (outbound : Outbound) : Except WireError Unit × Outbound :=
  if maxFrameLength < payload.size then (.error (.frameTooLong payload.size), outbound)
  else
    match outbound.writeAll (header payload.size) with
    | (.error reason, outbound) => (.error (.stream reason), outbound)
    | (.ok (), outbound) =>
        match outbound.writeAll payload with
        | (.error reason, outbound) => (.error (.stream reason), outbound)
        | (.ok (), outbound) => (outbound.flush.mapError .stream, outbound)

/-- What an attempt to receive a frame gives. -/
inductive Received where
  | frame (payload : ByteArray)
  /-- The stream ended between frames. -/
  | ended
  | failed (error : WireError)
  /-- The frame has not arrived in full; nothing is taken from the stream. -/
  | waiting

/-- Read the payload behind a header that announces `length` bytes. -/
def receivePayload (length : Nat) (inbound : Inbound) : Received × Inbound :=
  if maxFrameLength < length then (.failed (.frameTooLong length), inbound)
  else
    match inbound.fill length with
    | (.full payload, rest) => (.frame payload, rest)
    | (.short read, rest) => (.failed (.truncated read.size length), rest)
    | (.failed reason, rest) => (.failed (.stream reason), rest)
    | (.waiting, rest) => (.waiting, rest)

/-- Read a frame. -/
def receive (inbound : Inbound) : Received × Inbound :=
  match inbound.fill headerLength with
  | (.full bytes, rest) =>
      match receivePayload (LittleEndian.read (Bytes.ofBuffer bytes)) rest with
      | (.waiting, _) => (.waiting, inbound)
      | received => received
  | (.short read, rest) =>
      if read.size = 0 then (.ended, rest)
      else (.failed (.truncated read.size headerLength), rest)
  | (.failed reason, rest) => (.failed (.stream reason), rest)
  | (.waiting, _) => (.waiting, inbound)

private theorem receive_frame_size {inbound rest : Inbound} {payload : ByteArray}
    (received : receive inbound = (.frame payload, rest)) :
    Inbound.size rest.events < Inbound.size inbound.events := by
  unfold receive at received
  split at received
  · next bytes left filled =>
    have head := Inbound.fill_size filled
    have tail : Inbound.size rest.events ≤ Inbound.size left.events := by
      split at received
      · simp at received
      · rw [receivePayload] at received
        split at received
        · simp at received
        · split at received <;> simp only [Prod.mk.injEq, Received.frame.injEq, reduceCtorEq,
            false_and] at received
          next content last filled =>
          obtain ⟨_, rfl⟩ := received
          have := Inbound.fill_size filled
          omega
    unfold headerLength at head
    omega
  · split at received <;> simp at received
  · simp at received
  · simp at received

/-- Why no further frame was received. -/
inductive Pause where
  | ended
  | failed (error : WireError)
  | waiting

/-- Read frames for as long as they come. -/
def receiveAll (inbound : Inbound) : List ByteArray × Pause × Inbound :=
  match _received : receive inbound with
  | (.frame payload, rest) =>
      let (payloads, pause, last) := receiveAll rest
      (payload :: payloads, pause, last)
  | (.ended, rest) => ([], .ended, rest)
  | (.failed error, rest) => ([], .failed error, rest)
  | (.waiting, rest) => ([], .waiting, rest)
termination_by Inbound.size inbound.events
decreasing_by exact receive_frame_size _received

end PagedResults.Framing
