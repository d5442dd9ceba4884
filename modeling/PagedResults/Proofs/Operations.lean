import PagedResults.Proofs.Routing

/-! # Every operation of a connection is a run

Whatever the other end sends and however the stream is cut into chunks, reading brings about arrivals,
and the closing of the connection at the end of the stream or at a fault. Submitting, waiting,
cancelling and closing are runs as well, so that what holds of every run holds of a connection that is
used in any way.
-/

namespace PagedResults

/-- A response arrives, or the connection is closed. -/
def Happening.isRead : Happening → Bool
  | .arrived _ | .shut _ => true
  | _ => false

/-- Nothing is submitted by reading. -/
theorem Happening.countP_isSubmitted_of_isRead {later : List Happening} (reads : later.all isRead = true) :
    later.countP isSubmitted = 0 := by
  rw [List.countP_eq_zero]
  intro happening member submits
  have read := List.all_eq_true.mp reads happening member
  cases happening <;> contradiction

namespace Link

variable {π : Type} {link next : Link π} {happenings : List Happening} {id : UInt64}

/-- What else a connection does makes no difference to its calls. -/
theorem Run.of_eq (calls_eq : next.calls = link.calls) (channels_eq : next.channels = link.channels) :
    Run link [] next := .aside calls_eq channels_eq .refl

theorem Run.behind {last : Link π} (run : Run next happenings last) (calls_eq : next.calls = link.calls)
    (channels_eq : next.channels = link.channels) : Run link happenings last :=
  .aside calls_eq channels_eq run

theorem Run.noted {thread : Thread} {event : Event} (run : Run (link.note thread event) happenings next) :
    Run link happenings next := run.behind rfl rfl

theorem Run.note_after (run : Run link happenings next) (thread : Thread) (event : Event) :
    Run link happenings (next.note thread event) := by
  have noted : Run next [] (next.note thread event) := .of_eq rfl rfl
  have both := run.trans noted
  rw [List.append_nil] at both
  exact both

theorem noteAll_eq (thread : Thread) (events : List Event) (link : Link π) :
    (link.noteAll thread events).calls = link.calls ∧
      (link.noteAll thread events).channels = link.channels := by
  unfold noteAll
  induction events generalizing link with
  | nil => exact ⟨rfl, rfl⟩
  | cons event rest ih => exact ih _

/-- Closing the connection because of a fault, or because the stream ended. -/
theorem shut_run (cause : Option Error) (thread : Thread) (link : Link π) (reader : ReaderState) :
    Run link [.shut cause] { link.shut thread cause with reader } := by
  have closed : Run (link.shut thread cause) [] { link.shut thread cause with reader } := .of_eq rfl rfl
  exact .step (.shut thread cause) closed

private theorem stopReading_run (cause : WireError) (link : Link π) :
    Run link [.shut (some (.ofWire cause))] (link.stopReading cause) := by
  unfold stopReading
  split
  · exact shut_run _ .reader link .stopped
  · exact .noted (shut_run _ .reader _ .stopped)

/-- What frames bring about: the responses arrive, up to the first frame that carries none. -/
def arrivals : List ByteArray → List Happening
  | [] => []
  | payload :: rest =>
      match ResponseEnvelope.codec.decode (Bytes.ofBuffer payload) with
      | .ok envelope => .arrived envelope :: arrivals rest
      | .error (.error cause) => [.shut (some (.ofWire cause))]
      | .error (.halt _) => []

private theorem deliverFrames_run (payloads : List ByteArray) (link : Link π) :
    Run link (arrivals payloads) (deliverFrames payloads link) := by
  induction payloads generalizing link with
  | nil => exact .refl
  | cons payload rest ih =>
    rw [deliverFrames, arrivals]
    apply Run.noted
    rcases ResponseEnvelope.codec.decode (Bytes.ofBuffer payload) with (cause | reason) | envelope
    · exact stopReading_run cause _
    · exact .of_eq rfl rfl
    · exact .step (.arrived .reader envelope) (ih _)

private theorem arrivals_isRead (payloads : List ByteArray) :
    (arrivals payloads).all Happening.isRead = true := by
  induction payloads with
  | nil => rfl
  | cons payload rest ih =>
    rw [arrivals]
    rcases ResponseEnvelope.codec.decode (Bytes.ofBuffer payload) with (cause | reason) | envelope
    · rfl
    · rfl
    · exact ih

/-- Reading brings about arrivals, and at most the closing of the connection. -/
theorem read_run (link : Link π) :
    ∃ later, Run link later link.read ∧ later.all Happening.isRead = true := by
  unfold read
  split
  · exact ⟨[], .refl, rfl⟩
  · rcases Framing.receiveAll link.inbound with ⟨payloads, pause, inbound⟩
    have delivered := deliverFrames_run payloads { link with inbound }
    have begun : Run link (arrivals payloads) (deliverFrames payloads { link with inbound }) :=
      delivered.behind rfl rfl
    have onlyRead := arrivals_isRead payloads
    dsimp only
    split
    · exact ⟨_, begun, onlyRead⟩
    · have ends {ending : Happening} {last : Link π} (shuts : ending.isRead = true)
          (rest : Run (deliverFrames payloads { link with inbound }) [ending] last) :
          ∃ later, Run link later last ∧ later.all Happening.isRead = true := by
        refine ⟨_, begun.trans rest, ?_⟩
        rw [List.all_append, onlyRead, List.all_cons, shuts]
        rfl
      cases pause with
      | waiting => exact ⟨_, begun, onlyRead⟩
      | failed cause => exact ends rfl (stopReading_run cause _)
      | ended => exact ends rfl (.noted (shut_run _ .reader _ .stopped))

/-- What comes from the other end is read. -/
theorem accept_run (thread : Thread) (reaction : Reaction) (link : Link π) :
    ∃ later, Run link later (link.accept thread reaction) ∧ later.all Happening.isRead = true := by
  obtain ⟨calls_eq, channels_eq⟩ := noteAll_eq thread reaction.notes link
  obtain ⟨later, run, onlyRead⟩ := read_run
    { link.noteAll thread reaction.notes with
      inbound := (link.noteAll thread reaction.notes).inbound.push reaction.events }
  exact ⟨later, run.behind calls_eq channels_eq, onlyRead⟩

/-- Stopping to deliver to a call. -/
theorem cancel_run (id : UInt64) (link : Link π) : Run link [.cancelled id] (link.cancel id).2 :=
  .step (.cancelled id) .refl

/-- A channel that is dropped may as well change before. -/
theorem setChannel_dropChannel (id : UInt64) (channel : Channel) (link : Link π) :
    (link.setChannel id channel).dropChannel id = link.dropChannel id := by
  unfold setChannel dropChannel
  congr 1
  dsimp only
  induction link.channels with
  | nil => rfl
  | cons entry rest ih =>
    rw [List.map_cons, List.filter_cons, List.filter_cons, ih]
    by_cases same : entry.1 = id
    · simp [same]
    · simp [same]

/-- What a receiver takes at once is the first delivery that its channel holds, or nothing. -/
theorem take?_cases {channel rest : Channel} {received : Except Error (Option Response)}
    (taken : channel.take? = some (received, rest)) :
    (∃ delivery queue, channel.queue = delivery :: queue ∧
      rest = { channel with queue, done := delivery.isFinal }) ∨ (channel.fed = true → rest = channel) := by
  unfold Channel.take? at taken
  split at taken
  · obtain ⟨-, rfl⟩ := Prod.mk.inj (Option.some.inj taken)
    exact .inr fun _ => rfl
  · split at taken
    · next response last queue held =>
      obtain ⟨-, rfl⟩ := Prod.mk.inj (Option.some.inj taken)
      exact .inl ⟨_, queue, held, rfl⟩
    · next cause queue held =>
      obtain ⟨-, rfl⟩ := Prod.mk.inj (Option.some.inj taken)
      exact .inl ⟨_, queue, held, rfl⟩
    · split at taken
      · contradiction
      · next gone => exact .inr fun fed => absurd fed gone

/-- Closing the connection reads first what is still there. -/
theorem close_run (link : Link π) :
    ∃ later, Run link later link.close ∧ later.countP Happening.isSubmitted = 0 := by
  have finish {later : List Happening} {next : Link π} (run : Run link.beginClosing later next)
      (onlyRead : later.all Happening.isRead = true) :
      ∃ later, Run link later (next.shut .caller none) ∧ later.countP Happening.isSubmitted = 0 := by
    refine ⟨_, .step .closing (run.trans (.step (.shut .caller none) .refl)), ?_⟩
    rw [List.countP_cons, List.countP_append, Happening.countP_isSubmitted_of_isRead onlyRead]
    rfl
  unfold close
  split
  · exact ⟨[], .refl, rfl⟩
  · dsimp only
    split
    · obtain ⟨later, read, onlyRead⟩ := read_run
        { link.beginClosing with inbound := link.beginClosing.inbound.finish }
      have begun : Run link.beginClosing later _ := read.behind rfl rfl
      unfold readOut
      dsimp only
      split
      · exact finish (begun.note_after .caller .readerHalted) onlyRead
      · exact finish begun onlyRead
    · exact finish (.noted .refl) rfl

/-- Waiting for a reply: it is taken, or the call is forgotten. -/
theorem await_run (thread : Thread) (id : UInt64) (limit : Duration) (link : Link π) :
    ∃ later, Run link later (await thread id limit link).2 ∧ later.countP Happening.isSubmitted = 0 := by
  have drops (reply : Except Error Response) (found : link.reply? id = some reply) :
      ∃ later, Run link later (link.dropChannel id) ∧ later.countP Happening.isSubmitted = 0 := by
    unfold reply? at found
    rcases known : link.channel? id with _ | channel
    · rw [known] at found
      contradiction
    · rcases taken : channel.take? with _ | ⟨received, rest⟩
      · rw [known, Option.bind_some, taken] at found
        contradiction
      · rcases take?_cases taken with ⟨delivery, queue, held, -⟩ | -
        · have run : Run link [.taken id delivery, .released id] _ :=
            .step (.taken known held) (.step (.released id) .refl)
          rw [setChannel_dropChannel] at run
          exact ⟨_, run, rfl⟩
        · exact ⟨_, .step (.released id) .refl, rfl⟩
  unfold await
  split
  · next response found => exact drops _ found
  · next cause found => exact drops _ found
  · split
    · exact ⟨[], .refl, rfl⟩
    · exact ⟨[.forgotten id], .step (.forgotten id) (.noted .refl), rfl⟩

variable [Peer π]

theorem exchange_run (thread : Thread) (link : Link π) :
    ∃ later, Run link later (link.exchange thread) ∧ later.all Happening.isRead = true := by
  unfold exchange
  rcases link.outbound.take with ⟨bytes, outbound⟩
  dsimp only
  rcases Peer.react bytes link.peer with ⟨reaction, peer⟩
  obtain ⟨later, run, onlyRead⟩ := accept_run thread reaction { link with outbound, peer }
  exact ⟨later, run.behind rfl rfl, onlyRead⟩

/-- A request that cannot be sent: the call is forgotten, and the connection closed. -/
theorem submit_refused_run {thread : Thread} {shape : Shape} {request : Request} {registering : Link π}
    {cause : WireError} {outbound : Outbound} (registered : link.register shape = (.ok id, registering))
    (refused : Framing.send (RequestEnvelope.codec.encode ⟨id, request⟩).toBuffer registering.outbound =
      (.error cause, outbound)) :
    Run link [.submitted shape, .forgotten id, .shut (some (.ofWire cause))]
      (submit thread shape request link).2 := by
  have begun : Step link (.submitted shape) (link.register shape).2 := .submitted shape
  rw [registered] at begun
  unfold submit
  rw [registered]
  dsimp only
  rw [refused]
  have ends : Run { registering with outbound } [.forgotten id, .shut (some (.ofWire cause))] _ :=
    .step (.forgotten id) (.step (.shut thread _) .refl)
  exact .step begun (ends.behind rfl rfl)

end Link

end PagedResults
