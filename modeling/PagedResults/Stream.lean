import PagedResults.Bytes

/-! # Byte streams

The receiving side of a stream is what will be read from it: chunks of bytes, interruptions, failures
and ends, in order. A read takes at most one chunk, so that the cuts between chunks can fall anywhere.
Behind the last event a stream either has ended or is still open; `fill` reads a number of bytes and
reports which of the two stopped it.

The sending side accepts bytes in portions, up to a limit if there is one. What lies beyond the limit
is refused.
-/

namespace PagedResults

/-- What one attempt to read gives. -/
inductive ReadEvent where
  /-- Some bytes; no bytes at all are the end of the stream. -/
  | chunk (bytes : ByteArray)
  /-- Nothing, and the read can be repeated. -/
  | interrupted
  | failure (reason : String)

/-- What will be read from a stream. -/
structure Inbound where
  events : List ReadEvent := []
  /-- The stream ends behind the events, instead of waiting for more. -/
  ended : Bool := false

/-- What an attempt to read a number of bytes gives. -/
inductive Filled where
  | full (bytes : ByteArray)
  /-- The stream ended before the last byte. -/
  | short (bytes : ByteArray)
  | failed (reason : String)
  /-- The bytes have not all arrived. -/
  | waiting

namespace Inbound

/-- Read `wanted` more bytes after those already held. -/
def fillFrom (ended : Bool) (held : ByteArray) (wanted : Nat) :
    List ReadEvent → Filled × List ReadEvent
  | [] =>
      if wanted = 0 then (.full held, [])
      else if ended then (.short held, [])
      else (.waiting, [])
  | event :: rest =>
      if wanted = 0 then (.full held, event :: rest)
      else
        match event with
        | .interrupted => fillFrom ended held wanted rest
        | .failure reason => (.failed reason, rest)
        | .chunk bytes =>
            if bytes.size = 0 then (.short held, rest)
            else if bytes.size ≤ wanted then
              fillFrom ended (held ++ bytes) (wanted - bytes.size) rest
            else
              (.full (held ++ bytes.extract 0 wanted),
                .chunk (bytes.extract wanted bytes.size) :: rest)

/-- Read `wanted` bytes. -/
def fill (wanted : Nat) (inbound : Inbound) : Filled × Inbound :=
  let result := fillFrom inbound.ended .empty wanted inbound.events
  (result.1, { inbound with events := result.2 })

/-- More arrives. -/
def push (events : List ReadEvent) (inbound : Inbound) : Inbound :=
  { inbound with events := inbound.events ++ events }

/-- Nothing more arrives. -/
def finish (inbound : Inbound) : Inbound := { inbound with ended := true }

/-- The size of what one event gives. -/
def eventSize : ReadEvent → Nat
  | .chunk bytes => bytes.size + 1
  | _ => 1

/-- The bytes and events that are still to be read. -/
def size : List ReadEvent → Nat
  | [] => 0
  | event :: rest => eventSize event + size rest

private theorem size_cons (event : ReadEvent) (events : List ReadEvent) :
    size (event :: events) = eventSize event + size events := rfl

/-- Whatever is read is taken away. -/
theorem fillFrom_size {ended : Bool} {held bytes : ByteArray} {wanted : Nat}
    {events rest : List ReadEvent} (full : fillFrom ended held wanted events = (.full bytes, rest)) :
    size rest + wanted ≤ size events := by
  induction events generalizing held wanted with
  | nil =>
    simp only [fillFrom] at full
    split at full
    · next none => cases full; omega
    · split at full <;> simp at full
  | cons event events ih =>
    unfold fillFrom at full
    split at full
    · next none => cases full; omega
    · rw [size_cons]
      cases event with
      | interrupted => have := ih full; simp only [eventSize]; omega
      | failure reason => simp at full
      | chunk chunk =>
        simp only at full
        split at full
        · simp at full
        · split at full
          · have := ih full
            simp only [eventSize]
            omega
          · simp only [Prod.mk.injEq, Filled.full.injEq] at full
            obtain ⟨_, rfl⟩ := full
            simp only [size_cons, eventSize, ByteArray.size_extract]
            omega

theorem fill_size {inbound rest : Inbound} {bytes : ByteArray} {wanted : Nat}
    (full : inbound.fill wanted = (.full bytes, rest)) :
    size rest.events + wanted ≤ size inbound.events := by
  simp only [fill, Prod.mk.injEq] at full
  obtain ⟨filled, rfl⟩ := full
  exact fillFrom_size (Prod.ext filled rfl)

end Inbound

/-- Where bytes are sent. -/
structure Outbound where
  /-- What was accepted and not yet taken away. -/
  written : ByteArray := .empty
  /-- The bytes that will still be accepted; `none` for any number. -/
  room : Option Nat := none
  /-- The failure of a write without room; without a text such a write accepts nothing. -/
  refusal : Option String := none
  /-- The most bytes that the n-th write accepts. -/
  portion : Nat → Nat := fun _ => UInt64.size
  /-- The number of writes so far. -/
  writes : Nat := 0
  /-- The failure of every flush. -/
  flushFailure : Option String := none

namespace Outbound

/-- The reason given when a write accepts nothing. -/
def stalled : String := "failed to write whole buffer"

/-- Accept some bytes. -/
def accept (bytes : ByteArray) (outbound : Outbound) : Outbound :=
  { outbound with
    written := outbound.written ++ bytes
    room := outbound.room.map (· - bytes.size)
    writes := outbound.writes + 1 }

/-- The number of bytes that the next write accepts of `count`. -/
def portionOf (count : Nat) (outbound : Outbound) : Nat :=
  min (outbound.portion outbound.writes) (min count (outbound.room.getD count))

/-- Write the bytes from `start` on, until everything is accepted or nothing more is. -/
def writeFrom (start : Nat) (bytes : ByteArray) (outbound : Outbound) :
    Except String Unit × Outbound :=
  if bytes.size ≤ start then (.ok (), outbound)
  else
    let count := outbound.portionOf (bytes.size - start)
    if count = 0 then
      if outbound.room = some 0 then (.error (outbound.refusal.getD stalled), outbound)
      else (.error stalled, outbound)
    else writeFrom (start + count) bytes (outbound.accept (bytes.extract start (start + count)))
termination_by bytes.size - start
decreasing_by
  have positive : count ≠ 0 := ‹_›
  omega

/-- Write until everything is accepted or nothing more is. -/
def writeAll (bytes : ByteArray) (outbound : Outbound) : Except String Unit × Outbound :=
  outbound.writeFrom 0 bytes

/-- Pass on what was accepted. -/
def flush (outbound : Outbound) : Except String Unit :=
  match outbound.flushFailure with
  | some reason => .error reason
  | none => .ok ()

/-- Take away what was accepted so far. -/
def take (outbound : Outbound) : ByteArray × Outbound :=
  (outbound.written, { outbound with written := .empty })

end Outbound

end PagedResults
