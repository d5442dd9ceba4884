import PagedResults.Framing

/-! # Frames arrive as they were sent

The bytes of a stream are what its chunks hold, wherever the cuts and interruptions fall. `Inbound.arriving`
is what arrives before the stream stops, and `Inbound.stop` what stops it: reading takes bytes from the front
of the one until it meets the other. `Inbound.Carries` is a stream that neither fails nor ends. Frames that
were written one after the other are then received one after the other.
-/

namespace PagedResults

namespace Bytes

@[simp] theorem size_toBuffer (bytes : Bytes) : (toBuffer bytes).size = bytes.length := rfl

@[simp] theorem length_ofBuffer (buffer : ByteArray) : (ofBuffer buffer).length = buffer.size := rfl

theorem ofBuffer_append (first second : ByteArray) :
    ofBuffer (first ++ second) = ofBuffer first ++ ofBuffer second := by
  simp [ofBuffer]

private theorem toBuffer_append (first second : Bytes) :
    toBuffer (first ++ second) = toBuffer first ++ toBuffer second := by
  apply ByteArray.ext
  simp [toBuffer]

theorem ofBuffer_extract (buffer : ByteArray) (start stop : Nat) :
    ofBuffer (buffer.extract start stop) = ((ofBuffer buffer).take stop).drop start := by
  simp [ofBuffer, ByteArray.data_extract, List.drop_take]

private theorem toBuffer_take (buffer : ByteArray) (count : Nat) :
    toBuffer ((ofBuffer buffer).take count) = buffer.extract 0 count := by
  rw [← toBuffer_ofBuffer (buffer.extract 0 count), ofBuffer_extract, List.drop_zero]

private theorem toBuffer_nil : toBuffer [] = .empty := rfl

theorem isEmpty_eq_false {buffer : ByteArray} (nonempty : ofBuffer buffer ≠ []) :
    buffer.isEmpty = false := by
  rw [Ne, ← List.length_eq_zero_iff, length_ofBuffer] at nonempty
  exact beq_eq_false_iff_ne.mpr nonempty

end Bytes

/-! ## Receiving -/

namespace Inbound

/-- The bytes of all chunks. -/
def content : List ReadEvent → Bytes
  | [] => []
  | .chunk bytes :: rest => Bytes.ofBuffer bytes ++ content rest
  | .interrupted :: rest | .failure _ :: rest => content rest

/-- An event that neither ends the stream nor fails. -/
def Flows : ReadEvent → Prop
  | .chunk bytes => bytes.size ≠ 0
  | .interrupted => True
  | .failure _ => False

/-- What will be read is exactly `bytes`, and then the stream is still open. -/
structure Carries (bytes : Bytes) (inbound : Inbound) : Prop where
  is_open : inbound.ended = false
  flows : ∀ event ∈ inbound.events, Flows event
  content_eq : content inbound.events = bytes

theorem content_append (events others : List ReadEvent) :
    content (events ++ others) = content events ++ content others := by
  induction events with
  | nil => rfl
  | cons event events ih =>
    cases event with
    | chunk bytes => rw [List.cons_append, content, content, ih, List.append_assoc]
    | interrupted => exact ih
    | failure reason => exact ih

private theorem fillFrom_zero (ended : Bool) (held : ByteArray) (events : List ReadEvent) :
    fillFrom ended held 0 events = (.full held, events) := by
  cases events <;> rfl

/-- Reading no more bytes than there are. -/
theorem fillFrom_full {events : List ReadEvent} (flows : ∀ event ∈ events, Flows event) (ended : Bool)
    (held : ByteArray) {wanted : Nat} (enough : wanted ≤ (content events).length) :
    ∃ rest, fillFrom ended held wanted events =
        (.full (held ++ Bytes.toBuffer ((content events).take wanted)), rest) ∧
      (∀ event ∈ rest, Flows event) ∧ content rest = (content events).drop wanted := by
  by_cases none_wanted : wanted = 0
  · subst none_wanted
    exact ⟨events, by rw [fillFrom_zero, List.take_zero, Bytes.toBuffer_nil, ByteArray.append_empty],
      flows, rfl⟩
  induction events generalizing held wanted with
  | nil => exact absurd (Nat.le_zero.mp enough) none_wanted
  | cons event rest ih =>
    obtain ⟨flow, others⟩ := List.forall_mem_cons.mp flows
    rw [fillFrom.eq_def]
    dsimp only
    rw [if_neg none_wanted]
    cases event with
    | failure reason => exact flow.elim
    | interrupted => exact ih others held enough none_wanted
    | chunk bytes =>
      rw [content, List.length_append, Bytes.length_ofBuffer] at enough
      dsimp only
      rw [if_neg flow]
      rcases Nat.lt_trichotomy bytes.size wanted with shorter | same | longer
      · have front : (Bytes.ofBuffer bytes).length ≤ wanted := Nat.le_of_lt shorter
        have behind : wanted - bytes.size ≤ (content rest).length := by omega
        obtain ⟨last, filled, flowing, left⟩ := ih others (held ++ bytes) behind (by omega)
        rw [if_pos (Nat.le_of_lt shorter)]
        refine ⟨last, ?_, flowing, ?_⟩
        · rw [filled, content, List.take_append, Bytes.length_ofBuffer, List.take_of_length_le front,
            Bytes.toBuffer_append, Bytes.toBuffer_ofBuffer, ByteArray.append_assoc]
        · rw [left, content, List.drop_append, Bytes.length_ofBuffer, List.drop_of_length_le front,
            List.nil_append]
      · subst same
        rw [if_pos (Nat.le_refl _), Nat.sub_self, fillFrom_zero]
        refine ⟨rest, ?_, others, ?_⟩
        · rw [content, List.take_left' (Bytes.length_ofBuffer bytes), Bytes.toBuffer_ofBuffer]
        · rw [content, List.drop_left' (Bytes.length_ofBuffer bytes)]
      · have inside : wanted ≤ (Bytes.ofBuffer bytes).length := Nat.le_of_lt longer
        rw [if_neg (by omega)]
        refine ⟨.chunk (bytes.extract wanted bytes.size) :: rest, ?_,
          List.forall_mem_cons.mpr ⟨?_, others⟩, ?_⟩
        · rw [content, List.take_append_of_le_length inside, Bytes.toBuffer_take]
        · change (bytes.extract wanted bytes.size).size ≠ 0
          rw [ByteArray.size_extract]
          omega
        · rw [content, content, List.drop_append_of_le_length inside, Bytes.ofBuffer_extract,
            ← Bytes.length_ofBuffer, List.take_length]

/-- What comes behind the bytes that are wanted stays as it is. -/
theorem fillFrom_append {ended : Bool} {held bytes : ByteArray} {wanted : Nat}
    {front rest : List ReadEvent} (full : fillFrom ended held wanted front = (.full bytes, rest))
    (behind : List ReadEvent) :
    fillFrom ended held wanted (front ++ behind) = (.full bytes, rest ++ behind) := by
  by_cases none_wanted : wanted = 0
  · subst none_wanted
    rw [fillFrom_zero] at full ⊢
    cases full
    rfl
  induction front generalizing held wanted with
  | nil =>
    rw [fillFrom, if_neg none_wanted] at full
    split at full <;> cases full
  | cons event front ih =>
    rw [fillFrom.eq_def] at full
    rw [List.cons_append, fillFrom.eq_def]
    dsimp only at full ⊢
    rw [if_neg none_wanted] at full ⊢
    cases event with
    | failure reason => cases full
    | interrupted => exact ih full none_wanted
    | chunk chunk =>
      dsimp only at full ⊢
      split at full
      · cases full
      · next nonempty =>
        rw [if_neg nonempty]
        split at full
        · next shorter =>
          rw [if_pos shorter]
          by_cases all : wanted - chunk.size = 0
          · rw [all, fillFrom_zero] at full ⊢
            cases full
            rfl
          · exact ih full all
        · next longer =>
          rw [if_neg longer]
          cases full
          rfl

/-- What will be read begins with `bytes`, and `behind` comes after them. -/
def Begins (bytes : Bytes) (behind : List ReadEvent) (inbound : Inbound) : Prop :=
  ∃ front, inbound.events = front ++ behind ∧ (∀ event ∈ front, Flows event) ∧ content front = bytes

/-- A stream gives its first bytes to whoever wants them. -/
theorem Begins.fill {front rest : Bytes} {behind : List ReadEvent} {inbound : Inbound}
    (begins : inbound.Begins (front ++ rest) behind) :
    ∃ next, inbound.fill front.length = (.full front.toBuffer, next) ∧ next.Begins rest behind ∧
      next.ended = inbound.ended := by
  obtain ⟨events, split, flows, content_eq⟩ := begins
  have enough : front.length ≤ (content events).length := by
    rw [content_eq, List.length_append]
    omega
  obtain ⟨others, filled, flowing, left⟩ := fillFrom_full flows inbound.ended .empty enough
  rw [content_eq, List.take_left, ByteArray.empty_append] at filled
  rw [content_eq, List.drop_left] at left
  exact ⟨{ inbound with events := others ++ behind }, by rw [Inbound.fill, split, fillFrom_append filled],
    ⟨others, rfl, flowing, left⟩, rfl⟩

/-- Why no more bytes arrive. -/
inductive Stop where
  | ended
  | failed (reason : String)
  /-- More may arrive later. -/
  | pending
deriving DecidableEq

/-- The bytes in front of the first end or failure. -/
def bytesFrom : List ReadEvent → Bytes
  | [] => []
  | .interrupted :: rest => bytesFrom rest
  | .failure _ :: _ => []
  | .chunk bytes :: rest => if bytes.size = 0 then [] else Bytes.ofBuffer bytes ++ bytesFrom rest

/-- The first end or failure; without one, whether the stream has ended. -/
def stopFrom (ended : Bool) : List ReadEvent → Stop
  | [] => if ended then .ended else .pending
  | .interrupted :: rest => stopFrom ended rest
  | .failure reason :: _ => .failed reason
  | .chunk bytes :: rest => if bytes.size = 0 then .ended else stopFrom ended rest

/-- The bytes that arrive before the stream stops. -/
def arriving (inbound : Inbound) : Bytes := bytesFrom inbound.events

/-- What stops the stream behind these bytes. -/
def stop (inbound : Inbound) : Stop := stopFrom inbound.ended inbound.events

/-- Events that flow hold the bytes that arrive, however these are cut. -/
theorem bytesFrom_append {front : List ReadEvent} (flows : ∀ event ∈ front, Flows event)
    (behind : List ReadEvent) : bytesFrom (front ++ behind) = content front ++ bytesFrom behind := by
  induction front with
  | nil => rfl
  | cons event front ih =>
    obtain ⟨flow, others⟩ := List.forall_mem_cons.mp flows
    cases event with
    | failure reason => exact flow.elim
    | interrupted => exact ih others
    | chunk bytes =>
      rw [List.cons_append, bytesFrom, if_neg flow, ih others, content, List.append_assoc]

private theorem stopFrom_append {front : List ReadEvent} (flows : ∀ event ∈ front, Flows event) (ended : Bool)
    (behind : List ReadEvent) : stopFrom ended (front ++ behind) = stopFrom ended behind := by
  induction front with
  | nil => rfl
  | cons event front ih =>
    obtain ⟨flow, others⟩ := List.forall_mem_cons.mp flows
    cases event with
    | failure reason => exact flow.elim
    | interrupted => exact ih others
    | chunk bytes => exact (if_neg flow).trans (ih others)

/-- Every stream is some events that flow, and what stops it. -/
theorem begins_arriving (inbound : Inbound) :
    ∃ behind, inbound.Begins inbound.arriving behind ∧ bytesFrom behind = [] := by
  obtain ⟨events, ended⟩ := inbound
  induction events with
  | nil => exact ⟨[], ⟨[], rfl, nofun, rfl⟩, rfl⟩
  | cons event rest ih =>
    obtain ⟨behind, ⟨front, split, flows, content_eq⟩, stopped⟩ := ih
    have split : rest = front ++ behind := split
    cases event with
    | failure reason => exact ⟨.failure reason :: rest, ⟨[], rfl, nofun, rfl⟩, rfl⟩
    | interrupted =>
      refine ⟨behind, ⟨.interrupted :: front, ?_, ?_, content_eq⟩, stopped⟩
      · exact congrArg (_ :: ·) split
      · exact List.forall_mem_cons.mpr ⟨trivial, flows⟩
    | chunk bytes =>
      by_cases empty : bytes.size = 0
      · exact ⟨.chunk bytes :: rest, ⟨[], rfl, nofun, (if_pos empty).symm⟩, if_pos empty⟩
      · refine ⟨behind, ⟨.chunk bytes :: front, ?_, ?_, ?_⟩, stopped⟩
        · exact congrArg (_ :: ·) split
        · exact List.forall_mem_cons.mpr ⟨empty, flows⟩
        · rw [content, content_eq]
          exact (if_neg empty).symm

/-- What a stream begins with arrives, and what lies behind stops it. -/
theorem Begins.arriving_eq {bytes : Bytes} {behind : List ReadEvent} {inbound : Inbound}
    (begins : inbound.Begins bytes behind) :
    inbound.arriving = bytes ++ bytesFrom behind ∧ inbound.stop = stopFrom inbound.ended behind := by
  obtain ⟨front, split, flows, rfl⟩ := begins
  rw [arriving, stop, split]
  exact ⟨bytesFrom_append flows behind, stopFrom_append flows inbound.ended behind⟩

/-- As many bytes as arrive can be read, and the others are still there. -/
theorem fill_of_le {inbound : Inbound} {wanted : Nat} (enough : wanted ≤ inbound.arriving.length) :
    ∃ rest, inbound.fill wanted = (.full (Bytes.toBuffer (inbound.arriving.take wanted)), rest) ∧
      rest.arriving = inbound.arriving.drop wanted ∧ rest.stop = inbound.stop := by
  obtain ⟨behind, begins, stopped⟩ := inbound.begins_arriving
  have split := begins
  rw [← List.take_append_drop wanted inbound.arriving] at split
  obtain ⟨rest, filled, left, still⟩ := split.fill
  rw [List.length_take_of_le enough] at filled
  obtain ⟨bytes_eq, stop_eq⟩ := left.arriving_eq
  refine ⟨rest, filled, ?_, ?_⟩
  · rw [bytes_eq, stopped, List.append_nil]
  · rw [stop_eq, still, begins.arriving_eq.2]

/-- What a reader is left with that is stopped early. -/
def Stop.cut (held : ByteArray) : Stop → Filled
  | .ended => .short held
  | .failed reason => .failed reason
  | .pending => .waiting

/-- Whoever wants more bytes than arrive meets what stops the stream. -/
theorem fillFrom_of_lt (ended : Bool) (held : ByteArray) {wanted : Nat} {events : List ReadEvent}
    (few : (bytesFrom events).length < wanted) :
    (fillFrom ended held wanted events).1 =
      (stopFrom ended events).cut (held ++ (bytesFrom events).toBuffer) := by
  have some_wanted : wanted ≠ 0 := Nat.ne_zero_of_lt few
  induction events generalizing held wanted with
  | nil =>
    rw [fillFrom, if_neg some_wanted, bytesFrom, Bytes.toBuffer_nil, ByteArray.append_empty, stopFrom]
    cases ended <;> rfl
  | cons event rest ih =>
    rw [fillFrom.eq_def]
    dsimp only
    rw [if_neg some_wanted]
    cases event with
    | failure reason => rfl
    | interrupted => exact ih held few some_wanted
    | chunk bytes =>
      dsimp only
      rw [bytesFrom] at few ⊢
      rw [stopFrom]
      by_cases empty : bytes.size = 0
      · rw [if_pos empty, if_pos empty, if_pos empty, Bytes.toBuffer_nil, ByteArray.append_empty]
        rfl
      · rw [if_neg empty, List.length_append, Bytes.length_ofBuffer] at few
        rw [if_neg empty, if_neg empty, if_neg empty, if_pos (by omega),
          ih (held ++ bytes) (by omega) (by omega), Bytes.toBuffer_append, Bytes.toBuffer_ofBuffer,
          ByteArray.append_assoc]

theorem fill_of_lt {inbound : Inbound} {wanted : Nat} (few : inbound.arriving.length < wanted) :
    (inbound.fill wanted).1 = inbound.stop.cut inbound.arriving.toBuffer := by
  rw [Inbound.fill, fillFrom_of_lt inbound.ended .empty few, ByteArray.empty_append]
  rfl

theorem Carries.begins {bytes : Bytes} {inbound : Inbound} (carries : inbound.Carries bytes) :
    inbound.Begins bytes [] :=
  ⟨inbound.events, (List.append_nil _).symm, carries.flows, carries.content_eq⟩

theorem Begins.carries {bytes : Bytes} {inbound : Inbound} (begins : inbound.Begins bytes [])
    (is_open : inbound.ended = false) : inbound.Carries bytes := by
  obtain ⟨events, split, flows, content_eq⟩ := begins
  rw [List.append_nil] at split
  exact ⟨is_open, split ▸ flows, split ▸ content_eq⟩

/-- A stream that carries some bytes has no others until more arrive. -/
theorem Carries.arriving_eq {bytes : Bytes} {inbound : Inbound} (carries : inbound.Carries bytes) :
    inbound.arriving = bytes ∧ inbound.stop = .pending := by
  obtain ⟨bytes_eq, stop_eq⟩ := carries.begins.arriving_eq
  rw [bytesFrom, List.append_nil] at bytes_eq
  rw [stopFrom, carries.is_open] at stop_eq
  exact ⟨bytes_eq, stop_eq⟩

/-- Whoever wants more than there is waits for it. -/
theorem Carries.fill_waiting {bytes : Bytes} {inbound : Inbound} (carries : inbound.Carries bytes)
    {wanted : Nat} (more : bytes.length < wanted) : (inbound.fill wanted).1 = .waiting := by
  obtain ⟨bytes_eq, stop_eq⟩ := carries.arriving_eq
  rw [fill_of_lt (by rwa [bytes_eq]), stop_eq]
  rfl

/-- More bytes arrive behind those that were there. -/
theorem Carries.push {bytes more : Bytes} {inbound : Inbound} (carries : inbound.Carries bytes)
    (nonempty : more ≠ []) : (inbound.push [.chunk more.toBuffer]).Carries (bytes ++ more) where
  is_open := carries.is_open
  flows := by
    intro event member
    rcases List.mem_append.mp member with old | new
    · exact carries.flows event old
    · obtain rfl := List.mem_singleton.mp new
      change more.length ≠ 0
      simpa using nonempty
  content_eq := by
    change content (inbound.events ++ [.chunk more.toBuffer]) = _
    rw [content_append, carries.content_eq, content, content, Bytes.ofBuffer_toBuffer, List.append_nil]

/-- What arrives behind the bytes that were there. -/
theorem Carries.begins_push {bytes : Bytes} {inbound : Inbound} (carries : inbound.Carries bytes)
    (behind : List ReadEvent) : (inbound.push behind).Begins bytes behind :=
  ⟨inbound.events, rfl, carries.flows, carries.content_eq⟩

/-- Whoever wants bytes where the stream ends gets none, and the end is taken away. -/
theorem Begins.fill_ended {inbound : Inbound} (begins : inbound.Begins [] [.chunk .empty]) {wanted : Nat}
    (some_wanted : wanted ≠ 0) : inbound.fill wanted = (.short .empty, { inbound with events := [] }) := by
  obtain ⟨front, split, flows, nothing⟩ := begins
  have met : fillFrom inbound.ended .empty wanted (front ++ [.chunk .empty]) = (.short .empty, []) := by
    clear split
    induction front with
    | nil =>
      rw [List.nil_append, fillFrom.eq_def]
      dsimp only
      rw [if_neg some_wanted]
      rfl
    | cons event rest ih =>
      obtain ⟨flow, others⟩ := List.forall_mem_cons.mp flows
      rw [List.cons_append, fillFrom.eq_def]
      dsimp only
      rw [if_neg some_wanted]
      cases event with
      | failure reason => exact flow.elim
      | interrupted => exact ih others nothing
      | chunk bytes =>
        rw [content] at nothing
        exact absurd (congrArg List.length (List.append_eq_nil_iff.mp nothing).1) flow
  rw [Inbound.fill, split, met]

end Inbound

namespace Framing

/-- A payload behind its header. -/
def frame (payload : Bytes) : Bytes := LittleEndian.write headerLength payload.length ++ payload

theorem frame_ne_nil (payload : Bytes) : frame payload ≠ [] := by
  intro empty
  have sizes := congrArg List.length empty
  rw [frame, List.length_append, LittleEndian.length_write, List.length_nil] at sizes
  exact absurd sizes (by unfold headerLength; omega)

/-- A frame at the beginning of a stream is received, whatever comes behind it. -/
theorem receive_begins {payload rest : Bytes} {behind : List ReadEvent} {inbound : Inbound}
    (begins : inbound.Begins (frame payload ++ rest) behind) (fits : payload.length ≤ maxFrameLength) :
    ∃ next, receive inbound = (.frame payload.toBuffer, next) ∧ next.Begins rest behind ∧
      next.ended = inbound.ended := by
  have small : payload.length < LittleEndian.wordCount headerLength := by
    have words : LittleEndian.wordCount headerLength = 2 ^ 64 := rfl
    unfold maxFrameLength at fits
    omega
  rw [frame, List.append_assoc] at begins
  obtain ⟨middle, headed, begun, same⟩ := begins.fill
  obtain ⟨next, filled, left, still⟩ := begun.fill
  rw [LittleEndian.length_write] at headed
  refine ⟨next, ?_, left, still.trans same⟩
  rw [receive, headed]
  dsimp only
  rw [Bytes.ofBuffer_toBuffer, LittleEndian.read_write, Nat.mod_eq_of_lt small, receivePayload,
    if_neg (by omega), filled]

private theorem receive_frame {payload rest : Bytes} {inbound : Inbound}
    (carries : inbound.Carries (frame payload ++ rest)) (fits : payload.length ≤ maxFrameLength) :
    ∃ next, receive inbound = (.frame payload.toBuffer, next) ∧ next.Carries rest := by
  obtain ⟨next, received, left, still⟩ := receive_begins carries.begins fits
  exact ⟨next, received, left.carries (still.trans carries.is_open)⟩

private theorem receive_waiting {inbound : Inbound} (carries : inbound.Carries []) :
    receive inbound = (.waiting, inbound) := by
  have waits := carries.fill_waiting (by decide : ([] : Bytes).length < headerLength)
  rcases filled : inbound.fill headerLength with ⟨filling, rest⟩
  rw [filled] at waits
  obtain rfl : filling = .waiting := waits
  rw [receive, filled]

/-- A frame that has come in only in part is waited for. -/
theorem receive_partial {payload bytes : Bytes} {inbound : Inbound} (carries : inbound.Carries bytes)
    (fits : payload.length ≤ maxFrameLength) (part : bytes <+: frame payload)
    (short : bytes.length < (frame payload).length) : receive inbound = (.waiting, inbound) := by
  by_cases headless : bytes.length < headerLength
  · have waits := carries.fill_waiting headless
    rcases filled : inbound.fill headerLength with ⟨filling, rest⟩
    rw [filled] at waits
    obtain rfl : filling = .waiting := waits
    rw [receive, filled]
  · obtain ⟨missing, split⟩ := part
    have header : (LittleEndian.write headerLength payload.length).length = headerLength :=
      LittleEndian.length_write _ _
    obtain ⟨more, rfl, inside⟩ : ∃ more, bytes = LittleEndian.write headerLength payload.length ++ more ∧
        more ++ missing = payload := by
      rw [frame] at split
      rcases List.append_eq_append_iff.mp split with ⟨left, same, behind⟩ | ⟨more, same, behind⟩
      · have none_left : left = [] := by
          have sizes := congrArg List.length same
          rw [header, List.length_append] at sizes
          exact List.length_eq_zero_iff.mp (by omega)
        subst none_left
        rw [List.append_nil] at same
        exact ⟨[], by rw [List.append_nil, same], behind⟩
      · exact ⟨more, same, behind.symm⟩
    obtain ⟨next, headed, begins, still⟩ := carries.begins.fill
    rw [header] at headed
    have small : payload.length < LittleEndian.wordCount headerLength := by
      have words : LittleEndian.wordCount headerLength = 2 ^ 64 := rfl
      unfold maxFrameLength at fits
      omega
    have fewer : more.length < payload.length := by
      rw [frame, List.length_append, List.length_append] at short
      omega
    have waits := (begins.carries (still.trans carries.is_open)).fill_waiting fewer
    rcases filled : next.fill payload.length with ⟨filling, rest⟩
    rw [filled] at waits
    obtain rfl : filling = .waiting := waits
    rw [receive, headed]
    dsimp only
    rw [Bytes.ofBuffer_toBuffer, LittleEndian.read_write, Nat.mod_eq_of_lt small, receivePayload,
      if_neg (Nat.not_lt.mpr fits), filled]

private theorem receiveAll_cons {inbound next : Inbound} {payload : ByteArray}
    (received : receive inbound = (.frame payload, next)) :
    receiveAll inbound =
      (payload :: (receiveAll next).1, (receiveAll next).2.1, (receiveAll next).2.2) := by
  rw [receiveAll]
  split <;> simp_all

private theorem receiveAll_waiting {inbound next : Inbound} (received : receive inbound = (.waiting, next)) :
    receiveAll inbound = ([], .waiting, next) := by
  rw [receiveAll]
  split <;> simp_all

theorem receiveAll_failed {inbound next : Inbound} {error : WireError}
    (received : receive inbound = (.failed error, next)) :
    receiveAll inbound = ([], .failed error, next) := by
  rw [receiveAll]
  split <;> simp_all

/-- All frames that were written are received, and then the stream waits for more. -/
theorem receiveAll_frames {payloads : List Bytes} {inbound : Inbound}
    (carries : inbound.Carries (payloads.flatMap frame))
    (fits : ∀ payload ∈ payloads, payload.length ≤ maxFrameLength) :
    ∃ next, receiveAll inbound = (payloads.map Bytes.toBuffer, .waiting, next) ∧ next.Carries [] := by
  induction payloads generalizing inbound with
  | nil => exact ⟨inbound, receiveAll_waiting (receive_waiting carries), carries⟩
  | cons payload payloads ih =>
    obtain ⟨here, others⟩ := List.forall_mem_cons.mp fits
    rw [List.flatMap_cons] at carries
    obtain ⟨middle, received, left⟩ := receive_frame carries here
    obtain ⟨next, all, waits⟩ := ih left others
    exact ⟨next, by rw [receiveAll_cons received, all, List.map_cons], waits⟩

/-- All frames in front of the end of a stream are received, and then the end is met. -/
theorem receiveAll_ended {payloads : List Bytes} {inbound : Inbound}
    (begins : inbound.Begins (payloads.flatMap frame) [.chunk .empty]) (is_open : inbound.ended = false)
    (fits : ∀ payload ∈ payloads, payload.length ≤ maxFrameLength) :
    ∃ next, receiveAll inbound = (payloads.map Bytes.toBuffer, .ended, next) ∧ next.Carries [] := by
  induction payloads generalizing inbound with
  | nil =>
    have met : receive inbound = (.ended, { inbound with events := [] }) := by
      rw [receive, begins.fill_ended (by decide)]
      rfl
    refine ⟨{ inbound with events := [] }, ?_, is_open, nofun, rfl⟩
    rw [receiveAll]
    split <;> simp_all
  | cons payload payloads ih =>
    obtain ⟨here, others⟩ := List.forall_mem_cons.mp fits
    rw [List.flatMap_cons] at begins
    obtain ⟨middle, received, left, same⟩ := receive_begins begins here
    obtain ⟨next, all, waits⟩ := ih left (same.trans is_open) others
    exact ⟨next, by rw [receiveAll_cons received, all, List.map_cons], waits⟩

/-- Of several frames those that have come in as a whole are received, and the one that has begun to come
in is waited for. -/
theorem receiveAll_part {payloads : List Bytes} {bytes : Bytes} {inbound : Inbound}
    (carries : inbound.Carries bytes) (part : bytes <+: payloads.flatMap frame)
    (fits : ∀ payload ∈ payloads, payload.length ≤ maxFrameLength) :
    ∃ whole behind left next, payloads = whole ++ behind ∧ bytes = whole.flatMap frame ++ left ∧
      receiveAll inbound = (whole.map Bytes.toBuffer, .waiting, next) ∧ next.Carries left ∧
      (behind ≠ [] → left.length < (behind.flatMap frame).length) := by
  induction payloads generalizing bytes inbound with
  | nil =>
    obtain rfl := List.prefix_nil.mp part
    exact ⟨[], [], [], inbound, rfl, rfl, receiveAll_waiting (receive_waiting carries), carries,
      fun some_left => absurd rfl some_left⟩
  | cons payload payloads ih =>
    obtain ⟨here, others⟩ := List.forall_mem_cons.mp fits
    rw [List.flatMap_cons] at part
    by_cases short : bytes.length < (frame payload).length
    · have begun := List.prefix_of_prefix_length_le part (List.prefix_append _ _) (Nat.le_of_lt short)
      exact ⟨[], payload :: payloads, bytes, inbound, rfl, rfl,
        receiveAll_waiting (receive_partial carries here begun short), carries, fun _ => by
          rw [List.flatMap_cons, List.length_append]
          exact Nat.lt_add_right _ short⟩
    · obtain ⟨more, rfl⟩ :=
        List.prefix_of_prefix_length_le (List.prefix_append _ _) part (Nat.le_of_not_lt short)
      obtain ⟨next, received, waits⟩ := receive_frame carries here
      obtain ⟨whole, behind, left, last, rfl, rfl, all, kept, fewer⟩ :=
        ih waits ((List.prefix_append_right_inj _).mp part) others
      refine ⟨payload :: whole, behind, left, last, rfl, ?_, ?_, kept, fewer⟩
      · rw [List.flatMap_cons, List.append_assoc]
      · rw [receiveAll_cons received, all]
        rfl

end Framing

/-! ## Sending -/

/-- Everything is accepted, in portions of any size. -/
structure Outbound.Willing (outbound : Outbound) : Prop where
  room_eq : outbound.room = none
  flushes : outbound.flushFailure = none
  portion_pos : ∀ count, 0 < outbound.portion count

namespace Outbound.Willing

theorem fresh : ({} : Outbound).Willing where
  room_eq := rfl
  flushes := rfl
  portion_pos _ := Nat.zero_lt_succ _

variable {outbound : Outbound}

theorem accept (willing : outbound.Willing) (bytes : ByteArray) : (outbound.accept bytes).Willing where
  room_eq := by rw [Outbound.accept, willing.room_eq]; rfl
  flushes := willing.flushes
  portion_pos := willing.portion_pos

/-- However small the portions, all bytes are written in the end. -/
theorem writeFrom (willing : outbound.Willing) (start : Nat) (bytes : ByteArray) :
    ∃ next, outbound.writeFrom start bytes = (.ok (), next) ∧ next.Willing ∧
      next.written = outbound.written ++ bytes.extract start bytes.size := by
  induction left : bytes.size - start using Nat.strongRecOn generalizing start outbound with
  | _ left ih =>
    rw [Outbound.writeFrom]
    split
    · next done =>
      refine ⟨outbound, rfl, willing, ?_⟩
      rw [ByteArray.extract_eq_empty_iff.mpr (by omega), ByteArray.append_empty]
    · next more =>
      have portion := willing.portion_pos outbound.writes
      have count_eq : outbound.portionOf (bytes.size - start) =
          min (outbound.portion outbound.writes) (bytes.size - start) := by
        rw [portionOf, willing.room_eq, Option.getD_none, Nat.min_self]
      generalize outbound.portionOf (bytes.size - start) = count at count_eq
      dsimp only
      rw [if_neg (by omega)]
      obtain ⟨next, written, still, all⟩ :=
        ih (bytes.size - (start + count)) (by omega) (willing.accept _) (start + count) rfl
      refine ⟨next, written, still, all.trans ?_⟩
      change outbound.written ++ _ ++ _ = _
      rw [ByteArray.append_assoc, ByteArray.extract_append_extract, Nat.min_eq_left (by omega),
        Nat.max_eq_right (by omega)]

theorem writeAll (willing : outbound.Willing) (bytes : ByteArray) :
    ∃ next, outbound.writeAll bytes = (.ok (), next) ∧ next.Willing ∧
      next.written = outbound.written ++ bytes := by
  obtain ⟨next, written, still, all⟩ := willing.writeFrom 0 bytes
  rw [ByteArray.extract_zero_size] at all
  exact ⟨next, written, still, all⟩

/-- A frame that is not too long is sent. -/
theorem send (willing : outbound.Willing) {payload : Bytes} (fits : payload.length ≤ maxFrameLength) :
    ∃ next, Framing.send payload.toBuffer outbound = (.ok (), next) ∧ next.Willing ∧
      Bytes.ofBuffer next.written = Bytes.ofBuffer outbound.written ++ Framing.frame payload := by
  obtain ⟨headed, first, still, head⟩ := willing.writeAll (Framing.header payload.length)
  obtain ⟨next, second, willing, all⟩ := still.writeAll payload.toBuffer
  refine ⟨next, ?_, willing, ?_⟩
  · rw [Framing.send, Bytes.size_toBuffer, if_neg (by omega), first]
    dsimp only
    rw [second]
    dsimp only
    rw [Outbound.flush, willing.flushes]
    rfl
  · rw [all, head, Bytes.ofBuffer_append, Bytes.ofBuffer_append, Framing.header, Bytes.ofBuffer_toBuffer,
      Bytes.ofBuffer_toBuffer, List.append_assoc, Framing.frame]

end Outbound.Willing

end PagedResults
