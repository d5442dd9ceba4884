import PagedResults.Proofs.Closing
import PagedResults.Proofs.RowStream.Owed
import PagedResults.Session.RowStream

/-! # What the operations of a session do to its connection

A connection that is in use goes from turn to turn. Most turns send nothing: a reply is waited for, a call is
cancelled, bytes come from the other end, a receiver takes what its channel holds. Submitting a call is the only
turn in which the other end hears something, and it hears the frame of one request. `Link.Turn` says what each of
them does, so that nothing else has to look into the operations.
-/

namespace PagedResults

/-! ## Writing -/

/-- Whatever comes of writing, some of the bytes have been written behind the others, and all of them if it
succeeds. -/
theorem Outbound.writeFrom_written (outbound : Outbound) {start : Nat} {bytes : ByteArray}
    (inside : start ≤ bytes.size) :
    ∃ stop ≤ bytes.size, start ≤ stop ∧
      (outbound.writeFrom start bytes).2.written = outbound.written ++ bytes.extract start stop ∧
      ((outbound.writeFrom start bytes).1 = .ok () → stop = bytes.size) := by
  have empty (outbound : Outbound) (start : Nat) :
      outbound.written = outbound.written ++ bytes.extract start start := by
    rw [ByteArray.extract_eq_empty_iff.mpr (Nat.min_le_left ..), ByteArray.append_empty]
  induction left : bytes.size - start using Nat.strongRecOn generalizing start outbound with
  | _ left ih =>
    rw [writeFrom]
    split
    · exact ⟨start, inside, Nat.le_refl _, empty .., fun _ => by omega⟩
    · dsimp only
      have most : outbound.portionOf (bytes.size - start) ≤ bytes.size - start := by
        unfold portionOf
        omega
      generalize outbound.portionOf (bytes.size - start) = count at most
      split
      · split
        · exact ⟨start, inside, Nat.le_refl _, empty .., by simp⟩
        · exact ⟨start, inside, Nat.le_refl _, empty .., by simp⟩
      · obtain ⟨stop, within, behind, written, whole⟩ :=
          ih (bytes.size - (start + count)) (by omega) (outbound.accept (bytes.extract start (start + count)))
            (by omega) rfl
        refine ⟨stop, within, by omega, ?_, whole⟩
        rw [written]
        change outbound.written ++ _ ++ _ = _
        rw [ByteArray.append_assoc, ByteArray.extract_append_extract, Nat.min_eq_left (by omega),
          Nat.max_eq_right behind]

/-- The same for the bytes of a buffer as a list. -/
theorem Outbound.writeAll_written (outbound : Outbound) (bytes : Bytes) :
    ∃ part, part <+: bytes ∧
      Bytes.ofBuffer (outbound.writeAll bytes.toBuffer).2.written = Bytes.ofBuffer outbound.written ++ part ∧
      ((outbound.writeAll bytes.toBuffer).1 = .ok () → part = bytes) := by
  obtain ⟨stop, -, -, written, whole⟩ := outbound.writeFrom_written (Nat.zero_le bytes.toBuffer.size)
  refine ⟨bytes.take stop, List.take_prefix .., ?_, ?_⟩
  · rw [writeAll, written, Bytes.ofBuffer_append, Bytes.ofBuffer_extract, Bytes.ofBuffer_toBuffer,
      List.drop_zero]
  · intro done
    rw [whole done, Bytes.size_toBuffer, List.take_length]

/-- Whatever comes of sending, a part of the frame has been written behind the bytes before it: the whole frame if
it succeeds, and nothing of a payload that is too long. -/
theorem Framing.send_written (outbound : Outbound) (payload : Bytes) :
    ∃ part, part <+: frame payload ∧
      Bytes.ofBuffer (send payload.toBuffer outbound).2.written = Bytes.ofBuffer outbound.written ++ part ∧
      ((send payload.toBuffer outbound).1 = .ok () → part = frame payload ∧ payload.length ≤ maxFrameLength) ∧
      (maxFrameLength < payload.length → part = []) := by
  rw [send, Bytes.size_toBuffer]
  split
  · exact ⟨[], List.nil_prefix, (List.append_nil _).symm, by simp, fun _ => rfl⟩
  · next fits =>
    obtain ⟨first, firstPart, written, firstDone⟩ :=
      outbound.writeAll_written (LittleEndian.write headerLength payload.length)
    change Bytes.ofBuffer (outbound.writeAll (header payload.length)).2.written = _ at written
    change (outbound.writeAll (header payload.length)).1 = _ → _ at firstDone
    generalize outbound.writeAll (header payload.length) = result at written firstDone ⊢
    obtain ⟨reason | ⟨⟩, headed⟩ := result
    · exact ⟨first, firstPart.trans (List.prefix_append ..), written, by simp, fun long => absurd long fits⟩
    · obtain rfl := firstDone rfl
      obtain ⟨second, secondPart, behind, secondDone⟩ := headed.writeAll_written payload
      dsimp only at written ⊢
      rw [written, List.append_assoc] at behind
      generalize headed.writeAll payload.toBuffer = result at behind secondDone ⊢
      obtain ⟨reason | ⟨⟩, whole⟩ := result
      · exact ⟨_, (List.prefix_append_right_inj _).mpr secondPart, behind, by simp, fun long => absurd long fits⟩
      · obtain rfl := secondDone rfl
        exact ⟨_, List.prefix_rfl, behind, fun _ => ⟨rfl, Nat.le_of_not_lt fits⟩, fun long => absurd long fits⟩

/-- The bytes of requests, one frame after the other. -/
def RequestEnvelope.bytes (envelopes : List RequestEnvelope) : Bytes :=
  envelopes.flatMap fun envelope => Framing.frame (codec.encode envelope)

theorem RequestEnvelope.bytes_append (first second : List RequestEnvelope) :
    bytes (first ++ second) = bytes first ++ bytes second := List.flatMap_append

theorem RequestEnvelope.bytes_singleton (envelope : RequestEnvelope) :
    bytes [envelope] = Framing.frame (codec.encode envelope) := List.flatMap_singleton ..

namespace Link

variable {π : Type} {link next : Link π} {happenings : List Happening}

/-! ## Turns that send nothing -/

/-- What of a connection responses do not change: the other end, the sending side, and whether the client has
begun to close it. -/
def footing (link : Link π) : π × Outbound × Bool := (link.peer, link.outbound, link.calls.closing)

private theorem footing_settle (thread : Thread) {step : Calls × List Effect}
    (kept : step.1.closing = link.calls.closing) : (link.settle thread step).footing = link.footing := by
  refine (view_settle footing (fun _ _ _ => rfl) (fun _ _ _ => rfl) thread step).trans ?_
  rw [footing, kept]
  rfl

private theorem footing_arrive (thread : Thread) (envelope : ResponseEnvelope) :
    (link.arrive thread envelope).footing = link.footing :=
  footing_settle thread (congrArg Prod.snd ((status_settle ..).symm.trans (status_arrive thread envelope)))

private theorem footing_shut (thread : Thread) (cause : Option Error) :
    (link.shut thread cause).footing = link.footing := by
  refine footing_settle thread ?_
  cases standing : link.calls.standing with
  | live => rw [Calls.shut, standing]
  | closed first => rw [Calls.shut_closed standing]

private theorem footing_cancel (id : UInt64) : (link.cancel id).2.footing = link.footing :=
  footing_settle .caller (congrArg Prod.snd ((status_settle ..).symm.trans (status_cancel id)))

private theorem footing_stopReading (cause : WireError) : (link.stopReading cause).footing = link.footing := by
  unfold stopReading
  split
  · exact footing_shut .reader _
  · exact footing_shut .reader _

private theorem footing_deliverFrames (payloads : List ByteArray) (link : Link π) :
    (deliverFrames payloads link).footing = link.footing := by
  induction payloads generalizing link with
  | nil => rfl
  | cons payload rest ih =>
    rw [deliverFrames]
    rcases ResponseEnvelope.codec.decode (Bytes.ofBuffer payload) with (cause | reason) | envelope
    · exact footing_stopReading cause
    · rfl
    · exact (ih _).trans (footing_arrive .reader envelope)

theorem footing_read : link.read.footing = link.footing := by
  unfold read
  split
  · rfl
  · rcases Framing.receiveAll link.inbound with ⟨payloads, pause, inbound⟩
    have delivered := footing_deliverFrames payloads { link with inbound }
    dsimp only
    split
    · exact delivered
    · cases pause with
      | waiting => exact delivered
      | failed cause => exact (footing_stopReading cause).trans delivered
      | ended => exact (footing_shut .reader _).trans delivered

private theorem footing_accept (thread : Thread) (reaction : Reaction) :
    (link.accept thread reaction).footing = link.footing := by
  obtain ⟨journal, noted⟩ := noteAll_journal thread reaction.notes link
  rw [accept, noted]
  exact footing_read

theorem footing_close (link : Link π) : link.close.footing = (link.peer, link.outbound, true) := by
  unfold close
  split
  · next closing => rw [footing, closing]
  · refine (footing_shut .caller none).trans ?_
    split
    · unfold readOut
      dsimp only
      split
      · exact footing_read
      · exact footing_read
    · rfl

private theorem footing_await (thread : Thread) (id : UInt64) (limit : Duration) :
    (await thread id limit link).2.footing = link.footing := by
  unfold await
  split
  · rfl
  · rfl
  · split <;> rfl

private theorem footing_register (shape : Shape) (link : Link π) : (link.register shape).2.footing = link.footing := by
  cases standing : link.calls.standing with
  | closed cause => rw [register_closed standing, Calls.register_closed standing]; rfl
  | live => rw [register_live standing, Calls.register_live standing]; rfl

theorem peer_register (shape : Shape) (link : Link π) : (link.register shape).2.peer = link.peer :=
  congrArg (·.1) (footing_register shape link)

theorem outbound_register (shape : Shape) (link : Link π) : (link.register shape).2.outbound = link.outbound :=
  congrArg (·.2.1) (footing_register shape link)

private theorem closing_register (shape : Shape) (link : Link π) :
    (link.register shape).2.calls.closing = link.calls.closing :=
  congrArg (·.2.2) (footing_register shape link)

theorem standing_register (shape : Shape) (link : Link π) :
    (link.register shape).2.calls.standing = link.calls.standing :=
  congrArg Prod.fst (status_register shape)

/-- A connection that is live now has been live before. -/
theorem Run.live (run : Run link happenings next) (live : next.calls.standing = .live) :
    link.calls.standing = .live := by
  cases standing : link.calls.standing with
  | live => rfl
  | closed cause =>
    have closed : next.calls.standing.error? = some (cause.getD .connectionClosed) :=
      run.closed_error (by rw [standing]; rfl)
    rw [live] at closed
    contradiction

/-- Nothing is sent, and no call is submitted. -/
structure Aside (link next : Link π) : Prop where
  peer_eq : next.peer = link.peer
  written_eq : next.outbound.written = link.outbound.written
  run : ∃ happenings, Run link happenings next ∧ happenings.countP Happening.isSubmitted = 0

theorem Aside.of_eq (peer_eq : next.peer = link.peer) (written_eq : next.outbound.written = link.outbound.written)
    (calls_eq : next.calls = link.calls) (channels_eq : next.channels = link.channels) : Aside link next :=
  ⟨peer_eq, written_eq, [], .of_eq calls_eq channels_eq, rfl⟩

theorem Aside.close (link : Link π) : Aside link link.close where
  peer_eq := congrArg Prod.fst (footing_close link)
  written_eq := congrArg (fun footing => footing.2.1.written) (footing_close link)
  run := close_run link

/-! ## Turns -/

variable [Peer π]

/-- What one operation does to a connection, and of which requests it writes frames. -/
inductive Turn (link : Link π) : List RequestEnvelope → Link π → Prop
  | aside {next : Link π} (aside : Aside link next) (closing_eq : next.calls.closing = link.calls.closing) :
      Turn link [] next
  /-- A stream takes from its channel what it needs for a row. -/
  | take (stream : RowStream) (limit : Duration) : Turn link [] (link.setChannel stream.id
      (stream.nextRow limit ((link.channel? stream.id).getD {})).2.2)
  /-- A closed connection refuses a call. -/
  | refused {error : Error} (closed : link.calls.standing.error? = some error) (shape : Shape) :
      Turn link [] (link.register shape).2
  /-- A part of a frame is written, and then the connection is closed. -/
  | failed {envelopes : List RequestEnvelope} {next : Link π} {shape : Shape} {id : UInt64} {cause : Option Error}
      (live : link.calls.standing = .live) (peer_eq : next.peer = link.peer)
      (closing_eq : next.calls.closing = link.calls.closing)
      (fits : ∀ envelope ∈ envelopes, (RequestEnvelope.codec.encode envelope).length ≤ maxFrameLength)
      (begun : ∃ part, part <+: RequestEnvelope.bytes envelopes ∧
        Bytes.ofBuffer next.outbound.written = Bytes.ofBuffer link.outbound.written ++ part)
      (run : Run link [.submitted shape, .forgotten id, .shut cause] next) : Turn link envelopes next
  /-- A frame is written, and the other end hears it and reacts. -/
  | sent {envelope : RequestEnvelope} {next : Link π} {shape : Shape} {bytes : ByteArray}
      {later : List Happening} (live : link.calls.standing = .live)
      (closing_eq : next.calls.closing = link.calls.closing)
      (fits : (RequestEnvelope.codec.encode envelope).length ≤ maxFrameLength)
      (bytes_eq : Bytes.ofBuffer bytes =
        Bytes.ofBuffer link.outbound.written ++ Framing.frame (RequestEnvelope.codec.encode envelope))
      (peer_eq : next.peer = (Peer.react bytes link.peer).2) (written_eq : next.outbound.written = .empty)
      (run : Run link (.submitted shape :: later) next) (reads : later.all Happening.isRead = true) :
      Turn link [envelope] next

private theorem Turn.of_footing (same : next.footing = link.footing)
    (run : ∃ happenings, Run link happenings next ∧ happenings.countP Happening.isSubmitted = 0) :
    Turn link [] next :=
  .aside ⟨congrArg (·.1) same, congrArg (·.2.1.written) same, run⟩ (congrArg (·.2.2) same)

theorem Turn.note (thread : Thread) (event : Event) (link : Link π) : Turn link [] (link.note thread event) :=
  .of_footing rfl ⟨[], .of_eq rfl rfl, rfl⟩

theorem Turn.await (thread : Thread) (id : UInt64) (limit : Duration) (link : Link π) :
    Turn link [] (link.await thread id limit).2 :=
  .of_footing (footing_await thread id limit) (await_run thread id limit link)

theorem Turn.cancel (id : UInt64) (link : Link π) : Turn link [] (link.cancel id).2 :=
  .of_footing (footing_cancel id) ⟨_, cancel_run id link, rfl⟩

theorem Turn.accept (thread : Thread) (reaction : Reaction) (link : Link π) :
    Turn link [] (link.accept thread reaction) := by
  obtain ⟨later, run, reads⟩ := accept_run thread reaction link
  exact .of_footing (footing_accept thread reaction) ⟨later, run, Happening.countP_isSubmitted_of_isRead reads⟩

private theorem submit_live (live : link.calls.standing = .live) (thread : Thread) (shape : Shape) (request : Request) :
    submit thread shape request link =
      transmit thread link.calls.nextId request (link.register shape).2 := by
  rw [submit_eq, register_live live]

section Submit

variable {thread : Thread} {shape : Shape} {request : Request} {outbound : Outbound}

/-- A frame cannot be written as a whole. -/
theorem Turn.of_refused {cause : WireError} (live : link.calls.standing = .live)
    (refused : Framing.send (RequestEnvelope.codec.encode ⟨link.calls.nextId, request⟩).toBuffer link.outbound =
      (.error cause, outbound)) :
    ∃ envelopes, Turn link envelopes (link.submit thread shape request).2 ∧ envelopes.length ≤ 1 ∧
      ∀ envelope ∈ envelopes, envelope.request = request := by
  have registered := register_live live shape
  have run : Run link _ (link.submit thread shape request).2 := submit_refused_run registered refused
  have submitted : (link.submit thread shape request).2 =
      (({ (link.register shape).2 with outbound } : Link π).forget link.calls.nextId).shut thread
        (some (.ofWire cause)) := by
    rw [submit_live live, registered, transmit]
    dsimp only
    rw [refused]
  have ground : (link.submit thread shape request).2.footing = (link.peer, outbound, link.calls.closing) := by
    rw [submitted, footing_shut]
    change ((link.register shape).2.peer, outbound, (link.register shape).2.calls.closing) = _
    rw [peer_register, closing_register]
  obtain ⟨part, within, written, -, unfit⟩ :=
    Framing.send_written link.outbound (RequestEnvelope.codec.encode ⟨link.calls.nextId, request⟩)
  rw [refused] at written
  have writes (envelopes : List RequestEnvelope) (only : part <+: RequestEnvelope.bytes envelopes)
      (fits : ∀ envelope ∈ envelopes, (RequestEnvelope.codec.encode envelope).length ≤ maxFrameLength) :
      Turn link envelopes (link.submit thread shape request).2 := by
    refine .failed live (congrArg (·.1) ground) (congrArg (·.2.2) ground) fits ⟨part, only, ?_⟩ run
    rw [← written]
    exact congrArg (fun footing => Bytes.ofBuffer footing.2.1.written) ground
  by_cases long : maxFrameLength < (RequestEnvelope.codec.encode ⟨link.calls.nextId, request⟩).length
  · obtain rfl := unfit long
    exact ⟨[], writes [] List.nil_prefix (List.forall_mem_nil _), Nat.zero_le _, List.forall_mem_nil _⟩
  · refine ⟨[⟨link.calls.nextId, request⟩], writes _ ?_ ?_, Nat.le_refl _, ?_⟩
    · rwa [RequestEnvelope.bytes_singleton]
    · exact List.forall_mem_singleton.mpr (Nat.le_of_not_lt long)
    · exact List.forall_mem_singleton.mpr rfl

/-- A frame is written as a whole. -/
theorem Turn.of_sent (live : link.calls.standing = .live)
    (sent : Framing.send (RequestEnvelope.codec.encode ⟨link.calls.nextId, request⟩).toBuffer link.outbound =
      (.ok (), outbound)) :
    Turn link [⟨link.calls.nextId, request⟩] (link.submit thread shape request).2 := by
  have registered := register_live live shape
  have submitted : link.submit thread shape request = (.ok link.calls.nextId,
      ((({ (link.register shape).2 with outbound } : Link π).exchange thread).note thread
        (.frameSent (RequestEnvelope.codec.encode ⟨link.calls.nextId, request⟩).toBuffer.size)).note thread
          (.requestSent request.name link.calls.nextId)) := by
    rw [submit_live live, registered, transmit]
    dsimp only
    rw [sent]
  have ground : (link.submit thread shape request).2.footing =
      ((Peer.react outbound.written link.peer).2, { outbound with written := .empty }, link.calls.closing) := by
    rw [submitted]
    refine (footing_accept thread _).trans ?_
    change ((Peer.react outbound.written (link.register shape).2.peer).2, _,
      (link.register shape).2.calls.closing) = _
    rw [peer_register, closing_register]
  obtain ⟨part, -, written, whole, -⟩ :=
    Framing.send_written link.outbound (RequestEnvelope.codec.encode ⟨link.calls.nextId, request⟩)
  rw [sent] at written whole
  obtain ⟨rfl, fits⟩ := whole rfl
  obtain ⟨-, -, later, run, reads⟩ := submit_ok submitted
  rw [submitted] at ground ⊢
  exact .sent live (congrArg (·.2.2) ground) fits written (congrArg (·.1) ground)
    (congrArg (·.2.1.written) ground) run reads

end Submit

/-- Submitting a call writes the frame of its request, at most. -/
theorem Turn.submit (thread : Thread) (shape : Shape) (request : Request) (link : Link π) :
    ∃ envelopes, Turn link envelopes (link.submit thread shape request).2 ∧ envelopes.length ≤ 1 ∧
      ∀ envelope ∈ envelopes, envelope.request = request := by
  cases standing : link.calls.standing with
  | closed cause =>
    have closed : link.calls.standing.error? = some (cause.getD .connectionClosed) := by rw [standing]; rfl
    have refused := Turn.refused closed shape
    rw [register_closed standing] at refused
    refine ⟨[], ?_, Nat.zero_le _, nofun⟩
    rw [submit_eq, register_closed standing]
    exact refused
  | live =>
    rcases sent : Framing.send (RequestEnvelope.codec.encode ⟨link.calls.nextId, request⟩).toBuffer link.outbound
      with ⟨cause | ⟨⟩, outbound⟩
    · exact Turn.of_refused standing sent
    · exact ⟨_, .of_sent standing sent, Nat.le_refl _, fun envelope member => by
        rw [List.mem_singleton.mp member]⟩

/-- No turn begins to close the connection. -/
theorem Turn.closing_eq {envelopes : List RequestEnvelope} (turn : Turn link envelopes next) :
    next.calls.closing = link.calls.closing := by
  cases turn with
  | aside _ closing_eq => exact closing_eq
  | take stream limit => rfl
  | refused closed shape => exact closing_register shape link
  | failed _ _ closing_eq => exact closing_eq
  | sent _ closing_eq => exact closing_eq

/-- A closed connection to which this much was written. -/
structure Silent (peer : π) (written : ByteArray) (link : Link π) : Prop where
  closed : link.calls.standing ≠ .live
  peer_eq : link.peer = peer
  written_eq : link.outbound.written = written

/-- Nothing more is written on a closed connection. -/
theorem Silent.turn {peer : π} {written : ByteArray} {envelopes : List RequestEnvelope}
    (silent : Silent peer written link) (turn : Turn link envelopes next) : Silent peer written next := by
  cases turn with
  | aside aside _ =>
    obtain ⟨happenings, run, -⟩ := aside.run
    exact ⟨fun live => silent.closed (run.live live), aside.peer_eq.trans silent.peer_eq,
      aside.written_eq.trans silent.written_eq⟩
  | take stream limit => exact ⟨silent.closed, silent.peer_eq, silent.written_eq⟩
  | refused closed shape =>
    refine ⟨?_, (peer_register shape link).trans silent.peer_eq, ?_⟩
    · rw [standing_register]
      exact silent.closed
    · rw [outbound_register]
      exact silent.written_eq
  | failed live => exact absurd live silent.closed
  | sent live => exact absurd live silent.closed

end Link

end PagedResults
