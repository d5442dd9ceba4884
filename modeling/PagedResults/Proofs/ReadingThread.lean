import PagedResults.Proofs.Framing
import PagedResults.Proofs.Messages.Exact
import PagedResults.Proofs.Outcomes

/-! # The end of the reading thread

The thread reads on as long as the stream goes on and every frame carries a response. At the end of the
stream, and at a frame that is cut short, too long or carries no response, it closes the connection and
tells everybody who still waits. One kind of frame escapes this: where a length is announced that cannot
be set aside, the thread halts, and the connection stays open with all who wait on it.
-/

namespace PagedResults

namespace Framing

/-- The responses that frames carry, up to the first frame that carries none. -/
def carried : List ByteArray → List ResponseEnvelope
  | [] => []
  | payload :: rest =>
      match ResponseEnvelope.codec.decode (Bytes.ofBuffer payload) with
      | .ok envelope => envelope :: carried rest
      | .error _ => []

/-- What is wrong with the first frame that carries no response. -/
def fault? : List ByteArray → Option (Failure WireError)
  | [] => none
  | payload :: rest =>
      match ResponseEnvelope.codec.decode (Bytes.ofBuffer payload) with
      | .ok _ => fault? rest
      | .error failure => some failure

end Framing

/-- A decoder halts at nothing but a length in the payload that cannot be set aside. -/
theorem Codec.Exact.decode_halts {α : Type} {codec : Codec α} (exact : codec.Exact) {payload : Bytes}
    {reason : Halt} (halted : codec.decode payload = Outcome.halt reason) : payload.Oversized := by
  rw [decode] at halted
  split at halted
  · cases halted
  · cases halted
  · cases halted
  · next reason found => exact exact.orderly.oversized found

private theorem Framing.oversized_of_fault? {payloads : List ByteArray} {reason : Halt}
    (halts : fault? payloads = some (.halt reason)) :
    ∃ payload ∈ payloads, (Bytes.ofBuffer payload).Oversized := by
  induction payloads with
  | nil => contradiction
  | cons payload rest ih =>
    rw [fault?] at halts
    split at halts
    · obtain ⟨other, member, oversized⟩ := ih halts
      exact ⟨other, List.mem_cons_of_mem _ member, oversized⟩
    · next failure decoded =>
      obtain rfl := Option.some.inj halts
      exact ⟨payload, List.mem_cons_self .., ResponseEnvelope.codec_exact.decode_halts decoded⟩

namespace Link

variable {π : Type} {link next mid : Link π} {happenings : List Happening} {count : Nat}

theorem reader_settle (thread : Thread) (step : Calls × List Effect) :
    (link.settle thread step).reader = link.reader :=
  view_settle reader (fun _ _ _ => rfl) (fun _ _ _ => rfl) thread step

/-- The responses arrive, and then the thread sees to the first frame that carries none. -/
theorem deliverFrames_eq (payloads : List ByteArray) (link : Link π) :
    ∃ mid, Run link ((Framing.carried payloads).map .arrived) mid ∧ mid.reader = link.reader ∧
      deliverFrames payloads link =
        match Framing.fault? payloads with
        | none => mid
        | some (.error cause) => mid.stopReading cause
        | some (.halt _) => { mid with reader := .halted } := by
  induction payloads generalizing link with
  | nil => exact ⟨link, .refl, rfl, rfl⟩
  | cons payload rest ih =>
    have noted : Run link [] (link.note .reader (.frameReceived payload.size)) := .of_eq rfl rfl
    rw [deliverFrames, Framing.carried, Framing.fault?]
    rcases ResponseEnvelope.codec.decode (Bytes.ofBuffer payload) with (cause | reason) | envelope
    · exact ⟨_, noted, rfl, rfl⟩
    · exact ⟨_, noted, rfl, rfl⟩
    · obtain ⟨mid, run, reader_eq, delivered⟩ :=
        ih ((link.note .reader (.frameReceived payload.size)).arrive .reader envelope)
      refine ⟨mid, .noted (.step (.arrived .reader envelope) run), ?_, delivered⟩
      exact reader_eq.trans (reader_settle ..)

/-- A connection on which nobody waits any more, whatever happens then: it is closed, and all who were on
the table before, when it was `link`, were told the error that every later call gets. -/
structure Deserted (link next : Link π) : Prop where
  empty : ∀ later last, Run next later last → last.isOpen = false ∧ last.calls.pending = []
  told : ∀ id shape, (id, shape) ∈ link.calls.pending →
    ∃ error, next.calls.standing.error? = some error ∧
      next.channel? id = (link.channel? id).map (Channel.pushAll [.failure error])

private theorem Deserted.of_closed (closed : next.calls.standing ≠ .live) (nobody : next.calls.pending = [])
    (told : ∀ id shape, (id, shape) ∈ link.calls.pending →
      ∃ error, next.calls.standing.error? = some error ∧
        next.channel? id = (link.channel? id).map (Channel.pushAll [.failure error])) :
    Deserted link next where
  empty later last run := by
    obtain ⟨still, empty⟩ := run.empty closed nobody
    exact ⟨isOpen_eq_false.mpr still, empty⟩
  told := told

private theorem Tidy.deserted (tidy : link.Tidy count) (thread : Thread) (cause : Option Error) :
    Deserted link (link.shut thread cause) := by
  have step : Step link (.shut cause) (link.shut thread cause) := .shut thread cause
  cases standing : link.calls.standing with
  | live =>
    have closed : (link.shut thread cause).calls.standing.error? = some (link.calls.closingError cause) := by
      rw [step.calls_eq]
      exact (Calls.shut_live standing cause).1
    refine .of_closed ?_ ?_ ?_
    · intro live
      rw [live] at closed
      contradiction
    · rw [step.calls_eq]
      exact (Calls.shut_live standing cause).2.1
    · intro id shape listed
      exact ⟨_, closed, step.told tidy standing listed⟩
  | closed first =>
    have ended : link.calls.standing ≠ .live := by
      rw [standing]
      nofun
    have nobody := tidy.calls.closed ended
    obtain ⟨stillClosed, stillEmpty⟩ := step.empty ended nobody
    refine .of_closed stillClosed stillEmpty ?_
    intro id shape listed
    rw [nobody] at listed
    contradiction

/-- What became of a connection when what there was to read was read. -/
structure Attended (link next : Link π) : Prop where
  /-- The thread reads on while the stream goes on and all frames carry responses. -/
  reading_iff : next.reader = .reading ↔
    Framing.fault? (Framing.receiveAll link.inbound).1 = none ∧
      (Framing.receiveAll link.inbound).2.1 = .waiting
  /-- It halts at a frame that cannot even be refused. -/
  halted_iff : next.reader = .halted ↔
    ∃ reason, Framing.fault? (Framing.receiveAll link.inbound).1 = some (.halt reason)
  oversized : next.reader = .halted →
    ∃ payload ∈ (Framing.receiveAll link.inbound).1, (Bytes.ofBuffer payload).Oversized
  /-- The responses up to the first fault arrive; then the thread goes on, or leaves nobody behind, or
  leaves everybody. -/
  calls : ∃ mid, Run link ((Framing.carried (Framing.receiveAll link.inbound).1).map .arrived) mid ∧
    mid.isOpen = link.isOpen ∧ (next.reader = .stopped → Deserted mid next) ∧
    (next.reader ≠ .stopped → next.calls = mid.calls ∧ next.channels = mid.channels)

theorem Deserted.beside {other last : Link π} (deserted : Deserted link next)
    (before : link.calls = other.calls ∧ link.channels = other.channels)
    (after : last.calls = next.calls ∧ last.channels = next.channels) : Deserted other last := by
  refine ⟨fun later final run => deserted.empty later final (run.behind after.1 after.2), ?_⟩
  intro id shape listed
  rw [← before.1] at listed
  obtain ⟨error, standing, handed⟩ := deserted.told id shape listed
  rw [← after.1] at standing
  rw [channel?, channel?, ← after.2, before.2] at handed
  exact ⟨error, standing, handed⟩

theorem Tidy.stopReading (tidy : link.Tidy count) (cause : WireError) :
    Deserted link (link.stopReading cause) := by
  unfold Link.stopReading
  split
  · exact (tidy.deserted .reader _).beside ⟨rfl, rfl⟩ ⟨rfl, rfl⟩
  · have noted : Tidy count (link.note .reader (.readerStopped cause)) := tidy.aside rfl rfl
    exact (noted.deserted .reader _).beside ⟨rfl, rfl⟩ ⟨rfl, rfl⟩

theorem Run.standing_eq (run : Run link happenings next) (unshut : happenings.any Happening.isShut = false) :
    next.calls.standing = link.calls.standing := by
  induction run with
  | refl => rfl
  | aside calls_eq _ _ ih => rw [ih unshut, calls_eq]
  | step step _ ih =>
    rw [List.any_cons, Bool.or_eq_false_iff] at unshut
    rw [ih unshut.2, step.standing_eq (by rw [unshut.1]; nofun)]

/-- Arrivals neither close a connection nor give out an id. -/
theorem Run.arrived {envelopes : List ResponseEnvelope} (run : Run link (envelopes.map .arrived) next)
    (tidy : link.Tidy count) (few : count ≤ UInt64.size) :
    next.Tidy count ∧ next.isOpen = link.isOpen := by
  have none_submitted : (envelopes.map Happening.arrived).countP Happening.isSubmitted = 0 := by
    rw [List.countP_map, List.countP_eq_zero]
    nofun
  have unshut : (envelopes.map Happening.arrived).any Happening.isShut = false := by
    rw [List.any_map, List.any_eq_false]
    nofun
  have kept := run.tidy tidy (by omega)
  rw [none_submitted] at kept
  refine ⟨kept, ?_⟩
  rw [isOpen, isOpen, run.standing_eq unshut]

/-- Reading leaves nobody behind, unless it halts. -/
theorem Tidy.read_attended (tidy : link.Tidy count) (few : count ≤ UInt64.size)
    (reading : link.reader = .reading) : Attended link link.read := by
  have goesOn : ¬ link.reader ≠ .reading := fun stopped => stopped reading
  rw [read, if_neg goesOn]
  rcases received : Framing.receiveAll link.inbound with ⟨payloads, pause, inbound⟩
  obtain ⟨mid, run, reader_eq, delivered⟩ := deliverFrames_eq payloads { link with inbound }
  have arrived : Run link ((Framing.carried payloads).map .arrived) mid := run.behind rfl rfl
  obtain ⟨kept, isOpen_eq⟩ := arrived.arrived tidy few
  have still : mid.reader = .reading := reader_eq.trans reading
  have stops {next : Link π} (stopped : next.reader = .stopped) (deserted : Deserted mid next)
      (faulty : ¬ (Framing.fault? payloads = none ∧ pause = .waiting))
      (refused : ∀ reason, Framing.fault? payloads ≠ some (.halt reason)) : Attended link next := by
    constructor
    · rw [received, stopped]
      exact ⟨nofun, fun fine => absurd fine faulty⟩
    · rw [received, stopped]
      exact ⟨nofun, fun ⟨reason, halts⟩ => absurd halts (refused reason)⟩
    · rw [stopped]
      nofun
    · rw [received]
      exact ⟨mid, arrived, isOpen_eq, fun _ => deserted, fun unstopped => absurd stopped unstopped⟩
  dsimp only
  rw [delivered]
  rcases fault : Framing.fault? payloads with _ | (cause | reason)
  · dsimp only
    have on : ¬ mid.reader ≠ .reading := fun stopped => stopped still
    rw [if_neg on]
    have unhalted : ∀ reason, Framing.fault? payloads ≠ some (.halt reason) := by
      rw [fault]
      nofun
    cases pause with
    | waiting =>
      constructor
      · rw [received]
        exact ⟨fun _ => ⟨fault, rfl⟩, fun _ => still⟩
      · rw [received, still]
        exact ⟨nofun, fun ⟨reason, halts⟩ => absurd halts (unhalted reason)⟩
      · rw [still]
        nofun
      · rw [received, still]
        exact ⟨mid, arrived, isOpen_eq, nofun, fun _ => ⟨rfl, rfl⟩⟩
    | failed cause => exact stops rfl (kept.stopReading cause) (by simp) unhalted
    | ended =>
      have noted : Tidy count (mid.note .reader .serverGone) := kept.aside rfl rfl
      exact stops rfl ((noted.deserted .reader _).beside ⟨rfl, rfl⟩ ⟨rfl, rfl⟩) (by simp) unhalted
  · have stopped : (mid.stopReading cause).reader = .stopped := rfl
    dsimp only
    rw [if_pos (by rw [stopped]; nofun)]
    refine stops stopped (kept.stopReading cause) ?_ ?_
    · rw [fault]
      nofun
    · rw [fault]
      nofun
  · dsimp only
    rw [if_pos nofun]
    constructor
    · rw [received, fault]
      exact ⟨nofun, nofun⟩
    · rw [received]
      exact ⟨fun _ => ⟨reason, fault⟩, fun _ => rfl⟩
    · rw [received]
      exact fun _ => Framing.oversized_of_fault? fault
    · rw [received]
      exact ⟨mid, arrived, isOpen_eq, nofun, fun _ => ⟨rfl, rfl⟩⟩

/-- Whatever happened on a new connection, and whatever the other end sends then, reading leaves nobody
behind, unless a frame announces more than can be set aside. -/
theorem Run.attended {start : Link π} (calls_eq : start.calls = {}) (channels_eq : start.channels = [])
    (few : happenings.countP Happening.isSubmitted ≤ UInt64.size) (run : Run start happenings link)
    (reading : link.reader = .reading) : Attended link link.read := by
  have new : New start := ⟨calls_eq, channels_eq⟩
  exact (new.after run few).read_attended few reading

/-- A connection with a call and a stream on its table, to which frames come in one piece. -/
def twoPending (payloads : List Bytes) : Link Unit :=
  let start : Link Unit :=
    { peer := (), inbound := { events := [.chunk (Bytes.toBuffer (payloads.flatMap Framing.frame))] } }
  ((start.register .unary).2.register .stream).2

private theorem twoPending_run (payloads : List Bytes) : ∃ start : Link Unit,
    start.calls = {} ∧ start.channels = [] ∧
      Run start [.submitted .unary, .submitted .stream] (twoPending payloads) :=
  ⟨_, rfl, rfl, .step (.submitted .unary) (.step (.submitted .stream) .refl)⟩

private theorem twoPending_receiveAll {payload : Bytes} {payloads : List Bytes}
    (fits : ∀ content ∈ payload :: payloads, content.length ≤ maxFrameLength) :
    (Framing.receiveAll (twoPending (payload :: payloads)).inbound).1 =
      (payload :: payloads).map Bytes.toBuffer := by
  have quiet : ({} : Inbound).Carries [] := ⟨rfl, nofun, rfl⟩
  have sent : (payload :: payloads).flatMap Framing.frame ≠ [] := by
    rw [List.flatMap_cons]
    exact List.append_ne_nil_of_left_ne_nil (Framing.frame_ne_nil payload) _
  obtain ⟨next, received, -⟩ := Framing.receiveAll_frames (quiet.push sent) fits
  exact congrArg Prod.fst received

/-- The call is answered, and then comes a frame that is no response: the stream is told. -/
theorem attended_refused :
    let link := twoPending [ResponseEnvelope.codec.encode ⟨1, true, .ok⟩, [255]]
    Attended link link.read ∧ link.read.reader = .stopped ∧ link.read.isOpen = false ∧
      link.read.calls.pending = [] := by
  intro link
  obtain ⟨start, calls_eq, channels_eq, run⟩ :=
    twoPending_run [ResponseEnvelope.codec.encode ⟨1, true, .ok⟩, [255]]
  have attended : Attended link link.read := Run.attended calls_eq channels_eq (by decide) run rfl
  have received : (Framing.receiveAll link.inbound).1 = _ := twoPending_receiveAll (by decide)
  have fault : Framing.fault? (Framing.receiveAll link.inbound).1 =
      some (.error (.undecodable (.unexpectedEnd 7))) := by
    rw [received]
    decide +kernel
  have stopped : link.read.reader = .stopped := by
    rcases state : link.read.reader
    · exact absurd (attended.reading_iff.mp state).1 (by rw [fault]; nofun)
    · rfl
    · obtain ⟨reason, halts⟩ := attended.halted_iff.mp state
      rw [fault] at halts
      nomatch halts
  obtain ⟨mid, -, -, deserted, -⟩ := attended.calls
  exact ⟨attended, stopped, (deserted stopped).empty [] _ .refl⟩

/-- A response to call 1 whose list of columns is 2 ^ 63 entries long. -/
def boundless : Bytes :=
  LittleEndian.write 8 1 ++ [1] ++ LittleEndian.write 4 3 ++ LittleEndian.write 8 0 ++
    LittleEndian.write 8 (2 ^ 63)

/-- Behind such a frame nobody reads any more, but the connection is open and both calls wait. -/
theorem halted_boundless :
    let link := twoPending [boundless]
    link.read.reader = .halted ∧ link.read.isOpen = true ∧
      link.read.calls.pending = [(1, .unary), (2, .stream)] := by
  intro link
  obtain ⟨start, calls_eq, channels_eq, run⟩ := twoPending_run [boundless]
  have new : New start := ⟨calls_eq, channels_eq⟩
  have attended : Attended link link.read := (new.after run (by decide)).read_attended (by decide) rfl
  have received : (Framing.receiveAll link.inbound).1 = _ := twoPending_receiveAll (by decide)
  have fault : Framing.fault? (Framing.receiveAll link.inbound).1 = some (.halt .capacityOverflow) := by
    rw [received]
    decide +kernel
  have nothing : Framing.carried (Framing.receiveAll link.inbound).1 = [] := by
    rw [received]
    decide +kernel
  have halted := attended.halted_iff.mpr ⟨_, fault⟩
  obtain ⟨mid, arrived, isOpen_eq, -, stays⟩ := attended.calls
  rw [nothing] at arrived
  have same : link.read.calls = link.calls := by
    rw [(stays (by rw [halted]; nofun)).1, arrived.calls_eq]
    rfl
  refine ⟨halted, ?_, ?_⟩
  · rw [isOpen, same]
    rfl
  · rw [same]
    rfl

end Link

end PagedResults
