import PagedResults.Proofs.Channel
import PagedResults.Proofs.Session.Turns

/-! # The books of a session's connection

Whatever a session does, turn by turn, what was written are frames of requests; the table of a closed connection
is empty; and everything that happened to the calls makes up one run, so that there is one moment at which the
connection was closed, and all who waited then were told.
-/

namespace PagedResults

namespace Link

section Channels

variable {π : Type} {link next last : Link π} {happening : Happening} {happenings : List Happening}
  {channel : Channel} {id : UInt64} {count : Nat}

/-! ## Channels -/

/-- Every call has one channel at most, and more may be handed in at each of them. -/
structure Orderly (link : Link π) : Prop where
  distinct : (link.channels.map (·.1)).Nodup
  fed : ∀ entry ∈ link.channels, entry.2.fed = true

theorem Orderly.of_eq (orderly : link.Orderly) (channels_eq : next.channels = link.channels) : next.Orderly :=
  ⟨channels_eq ▸ orderly.distinct, channels_eq ▸ orderly.fed⟩

private theorem Orderly.channel?_fed (orderly : link.Orderly) (found : link.channel? id = some channel) :
    channel.fed = true := by
  obtain ⟨front, back, split, -⟩ := List.lookup_eq_some_iff.mp found
  exact orderly.fed (id, channel) (split ▸ List.mem_append_right _ (List.mem_cons_self ..))

theorem Orderly.setChannel (orderly : link.Orderly) (id : UInt64) (channel : Channel)
    (feeding : channel.fed = true) : (link.setChannel id channel).Orderly := by
  have ids : (link.setChannel id channel).channels.map (·.1) = link.channels.map (·.1) := ids_setChannel id channel
  refine ⟨ids ▸ orderly.distinct, fun entry member => ?_⟩
  obtain ⟨old, listed, rfl⟩ := List.mem_map.mp member
  split
  · exact feeding
  · exact orderly.fed old listed

theorem Orderly.dropChannel (orderly : link.Orderly) (id : UInt64) : (link.dropChannel id).Orderly :=
  ⟨orderly.distinct.sublist (List.filter_sublist.map _), fun entry member =>
    orderly.fed entry (List.mem_of_mem_filter member)⟩

theorem Orderly.settle (orderly : link.Orderly) (thread : Thread) (step : Calls × List Effect) :
    (link.settle thread step).Orderly := by
  have all (effects : List Effect) (link : Link π) (orderly : link.Orderly) :
      (effects.foldl (apply thread) link).Orderly := by
    induction effects generalizing link with
    | nil => exact orderly
    | cons effect rest ih =>
      refine ih _ ?_
      cases effect with
      | note event => exact orderly.of_eq rfl
      | deliver id delivery =>
        rw [apply]
        split
        · next channel found =>
          have feeding : channel.fed = true := orderly.channel?_fed found
          exact orderly.setChannel id (channel.push delivery) feeding
        · exact orderly
  exact all step.2 _ (orderly.of_eq rfl)

/-- Channels stay in order as long as an id is not given out while it is still in use. -/
theorem Step.orderly (step : Step link happening next) (orderly : link.Orderly)
    (fresh : link.calls.standing = .live → link.channel? link.calls.nextId = none) : next.Orderly := by
  cases step with
  | submitted shape =>
    cases standing : link.calls.standing with
    | closed cause =>
      rw [register_closed standing]
      exact orderly.of_eq rfl
    | live =>
      rw [register_live standing]
      have absent := List.lookup_eq_none_iff.mp (fresh standing)
      constructor
      · change ((link.channels ++ [(link.calls.nextId, ({} : Channel))]).map (·.1)).Nodup
        rw [List.map_append]
        refine List.Nodup.append orderly.distinct (List.nodup_singleton _) ?_
        intro id old new
        obtain ⟨entry, member, rfl⟩ := List.mem_map.mp old
        exact bne_iff_ne.mp (absent entry member) (List.mem_singleton.mp new).symm
      · intro entry member
        rcases List.mem_append.mp member with old | new
        · exact orderly.fed entry old
        · rw [List.mem_singleton.mp new]
  | arrived thread envelope => exact orderly.settle ..
  | forgotten id =>
    have same : Orderly { link with calls := link.calls.withdraw id } := orderly.of_eq rfl
    exact same.dropChannel id
  | cancelled id => exact orderly.settle ..
  | closing => exact orderly.of_eq rfl
  | shut thread cause => exact orderly.settle ..
  | taken found held =>
    have feeding := orderly.channel?_fed found
    exact orderly.setChannel _ _ feeding
  | released id => exact orderly.dropChannel id

theorem Run.orderly (run : Run link happenings last) (orderly : link.Orderly) (tidy : link.Tidy count)
    (few : count + happenings.countP Happening.isSubmitted < UInt64.size) : last.Orderly := by
  induction run generalizing count with
  | refl => exact orderly
  | aside calls_eq channels_eq _ ih =>
    exact ih (orderly.of_eq channels_eq) (tidy.aside calls_eq channels_eq) few
  | step step _ ih =>
    rw [List.countP_cons] at few
    exact ih (step.orderly orderly fun _ => tidy.channel?_nextId (by omega)) (step.tidy tidy (by omega))
      (by omega)

/-- No call is registered on a closed connection. -/
theorem Run.orderly_of_closed (run : Run link happenings last) (orderly : link.Orderly)
    (closed : link.calls.standing ≠ .live) : last.Orderly := by
  induction run with
  | refl => exact orderly
  | aside calls_eq channels_eq _ ih => exact ih (orderly.of_eq channels_eq) (by rw [calls_eq]; exact closed)
  | step step _ ih =>
    have single : Run _ [_] _ := .step step .refl
    exact ih (step.orderly orderly fun live => absurd live closed) fun live => closed (single.live live)

private theorem setChannel_absent (absent : link.channel? id = none) (channel : Channel) :
    link.setChannel id channel = link := by
  rw [setChannel, replace_absent absent]

private theorem setChannel_setChannel (id : UInt64) (first second : Channel) (link : Link π) :
    (link.setChannel id first).setChannel id second = link.setChannel id second := by
  unfold Link.setChannel
  rw [List.map_map]
  congr 1
  refine List.map_congr_left fun entry _ => ?_
  by_cases same : entry.1 = id
  · simp [same]
  · simp [same]

/-- Replacing a channel by itself. -/
theorem Orderly.setChannel_self (orderly : link.Orderly) (found : link.channel? id = some channel) :
    link.setChannel id channel = link := by
  obtain ⟨front, back, split, -⟩ := List.lookup_eq_some_iff.mp found
  have listed : (id, channel) ∈ link.channels := split ▸ List.mem_append_right _ (List.mem_cons_self ..)
  unfold Link.setChannel
  congr 1
  refine (List.map_congr_left fun entry member => ?_).trans (List.map_id _)
  split
  · next same => exact List.inj_on_of_nodup_map orderly.distinct listed member same.symm
  · rfl

/-- What a stream takes for a row it takes one delivery after the other. -/
theorem Orderly.nextRow_run (orderly : link.Orderly) (limit : Duration) (stream : RowStream)
    (found : link.channel? id = some channel) :
    ∃ happenings, Run link happenings (link.setChannel id (stream.nextRow limit channel).2.2) ∧
      happenings.countP Happening.isSubmitted = 0 := by
  have stays {link : Link π} {channel : Channel} (orderly : link.Orderly) (found : link.channel? id = some channel) :
      ∃ happenings, Run link happenings (link.setChannel id channel) ∧
        happenings.countP Happening.isSubmitted = 0 := by
    rw [orderly.setChannel_self found]
    exact ⟨[], .refl, rfl⟩
  -- what is left after one delivery was taken, or none
  have takes {link : Link π} {channel rest : Channel} {received : Except Error (Option Response)}
      (orderly : link.Orderly) (found : link.channel? id = some channel)
      (taken : channel.take? = some (received, rest)) :
      ∃ happenings, Run link happenings (link.setChannel id rest) ∧
        happenings.countP Happening.isSubmitted = 0 := by
    rcases take?_cases taken with ⟨delivery, queue, held, rfl⟩ | same
    · exact ⟨[.taken id delivery], .step (.taken found held) .refl, rfl⟩
    · rw [same (orderly.channel?_fed found)]
      exact stays orderly found
  fun_induction RowStream.nextRow limit stream channel generalizing link with
  | case1 stream channel row others held => exact stays orderly found
  | case2 stream channel empty waits => exact stays orderly found
  | case3 stream channel empty left taken => exact takes orderly found taken
  | case4 stream channel empty cause left taken => exact takes orderly found taken
  | case5 stream channel empty response left taken next accepted ih =>
    obtain ⟨first, run, calm⟩ := takes orderly found taken
    have feeding : left.fed = true := (Channel.take?_fed taken).trans (orderly.channel?_fed found)
    have now : (link.setChannel id left).channel? id = some left := by
      rw [channel?_setChannel, if_pos rfl, found]
      rfl
    obtain ⟨later, rest, calmly⟩ := ih (orderly.setChannel id left feeding) now
    rw [setChannel_setChannel] at rest
    exact ⟨first ++ later, run.trans rest, by rw [List.countP_append, calm, calmly]⟩
  | case6 stream channel empty response left taken failure next refused => exact takes orderly found taken

end Channels

section Closing

variable {π : Type} {start link next last : Link π} {happening : Happening} {happenings later : List Happening}
  {id : UInt64} {count more : Nat}

/-! ## The moment of closing -/

/-- A connection that is closed during a run is closed at one moment of it. -/
theorem Run.closing_moment (run : Run link happenings last) (live : link.calls.standing = .live)
    (closed : last.calls.standing ≠ .live) :
    ∃ before cause later here next, happenings = before ++ .shut cause :: later ∧ Run link before here ∧
      here.calls.standing = .live ∧ Step here (.shut cause) next ∧ Run next later last := by
  induction run with
  | refl => exact absurd live closed
  | aside calls_eq channels_eq _ ih =>
    obtain ⟨before, cause, later, here, next, split, earlier, rest⟩ := ih (by rw [calls_eq]; exact live) closed
    exact ⟨before, cause, later, here, next, split, .aside calls_eq channels_eq earlier, rest⟩
  | @step link middle last happening happenings step rest ih =>
    by_cases still : middle.calls.standing = .live
    · obtain ⟨before, cause, later, here, next, rfl, earlier, rest⟩ := ih still closed
      exact ⟨happening :: before, cause, later, here, next, rfl, .step step earlier, rest⟩
    · cases happening with
      | shut cause => exact ⟨[], cause, happenings, link, middle, rfl, .refl, live, step, rest⟩
      | _ => exact absurd ((step.standing_eq nofun).trans live) still

/-- Nothing comes to an end on a closed connection, since nothing is left. -/
theorem Run.endings_closed (run : Run link later last) (closed : link.calls.standing ≠ .live)
    (empty : link.calls.pending = []) : link.calls.endings id later = [] := by
  induction run with
  | refl => rfl
  | aside calls_eq _ _ ih =>
    rw [← calls_eq]
    exact ih (by rw [calls_eq]; exact closed) (by rw [calls_eq]; exact empty)
  | @step link middle last happening happenings step _ ih =>
    obtain ⟨stillClosed, stillEmpty⟩ := step.empty closed empty
    have nothing : link.calls.ended id happening = [] :=
      Calls.ended_idle (by rw [empty]; exact List.nodup_nil) (shape?_of_empty empty)
    rw [Calls.endings, nothing, ← step.calls_eq, ih stillClosed stillEmpty]
    rfl

/-- Closing a live connection empties its table. -/
theorem Step.shut_empty {cause : Option Error} (step : Step link (.shut cause) next)
    (live : link.calls.standing = .live) : next.calls.standing ≠ .live ∧ next.calls.pending = [] := by
  obtain ⟨told, empty, -⟩ := Calls.shut_live live cause
  rw [step.calls_eq, Calls.step]
  refine ⟨fun still => ?_, empty⟩
  rw [still] at told
  contradiction

/-- The table of a closed connection is empty. -/
def Vacant (link : Link π) : Prop := link.calls.standing ≠ .live → link.calls.pending = []

theorem Run.vacant (run : Run link later last) (vacant : link.Vacant) : last.Vacant := by
  induction run with
  | refl => exact vacant
  | aside calls_eq _ _ ih => exact ih (by rw [Vacant, calls_eq]; exact vacant)
  | @step link middle last happening happenings step _ ih =>
    refine ih fun closed => ?_
    by_cases live : link.calls.standing = .live
    · cases happening with
      | shut cause => exact (step.shut_empty live).2
      | _ => exact absurd ((step.standing_eq nofun).trans live) closed
    · exact (step.empty live (vacant live)).2

/-- What happened on a connection to which `count` requests were sent, one run from its start on. Once it is
closed, only what happened up to the moment of closing is counted. -/
inductive Explained (start : Link π) (count : Nat) (link : Link π) : Prop
  | underway {happenings : List Happening} (run : Run start happenings link) (live : link.calls.standing = .live)
      (few : happenings.countP Happening.isSubmitted = count)
  | closed {before later : List Happening} {cause : Option Error} {here next : Link π}
      (earlier : Run start before here) (live : here.calls.standing = .live)
      (step : Step here (.shut cause) next) (rest : Run next later link)
      (few : before.countP Happening.isSubmitted ≤ count + 1)

/-- There was one moment at which the connection was closed, and whoever was on the table then got the one error
that closed it, and comes to no other end. -/
def Parted (start last : Link π) : Prop :=
  ∃ before cause later here next, Run start before here ∧ here.isOpen = true ∧ Step here (.shut cause) next ∧
    Run next later last ∧ ∀ id shape, (id, shape) ∈ here.calls.pending →
      next.channel? id = (here.channel? id).map
        (Channel.pushAll [.failure (here.calls.closingError cause)]) ∧
      start.calls.endings id (before ++ .shut cause :: later) =
        [.told (.failure (here.calls.closingError cause))]

namespace Explained

theorem ended (explained : Explained start count link) (run : Run link later next)
    (closed : link.calls.standing ≠ .live) : Explained start count next := by
  cases explained with
  | underway _ live _ => exact absurd live closed
  | closed earlier live step rest few => exact .closed earlier live step (rest.trans run) few

/-- What happens then may send more requests; one that cannot be sent closes the connection. -/
theorem extend (explained : Explained start count link) (new : start.New) (run : Run link later next)
    (most : later.countP Happening.isSubmitted ≤ more + 1)
    (exact : next.calls.standing = .live → later.countP Happening.isSubmitted = more) :
    Explained start (count + more) next := by
  cases explained with
  | @underway happenings earlier live few =>
    have whole := earlier.trans run
    by_cases still : next.calls.standing = .live
    · refine .underway whole still ?_
      rw [List.countP_append, few, exact still]
    · obtain ⟨before, cause, behind, here, after, split, begun, isLive, step, rest⟩ :=
        whole.closing_moment new.live still
      refine .closed begun isLive step rest ?_
      have counts := congrArg (List.countP Happening.isSubmitted) split
      rw [List.countP_append, List.countP_append] at counts
      omega
  | closed earlier live step rest few =>
    exact .closed earlier live step (rest.trans run) (by omega)

theorem orderly (explained : Explained start count link) (new : start.New) (few : count + 1 < UInt64.size) :
    link.Orderly := by
  have fresh : start.Orderly := by
    constructor <;> rw [new.channels_eq]
    · exact List.nodup_nil
    · exact nofun
  cases explained with
  | underway run live count_eq => exact run.orderly fresh new.tidy (by omega)
  | @closed before later cause here next earlier live step rest most =>
    have begun : Run start (before ++ [.shut cause]) next := earlier.trans (.step step .refl)
    have orderly : next.Orderly := by
      refine begun.orderly fresh new.tidy ?_
      rw [List.countP_append]
      change 0 + (_ + 0) < _
      omega
    exact rest.orderly_of_closed orderly (step.shut_empty live).1

theorem parted (explained : Explained start count link) (new : start.New) (few : count + 1 < UInt64.size)
    (closed : link.calls.standing ≠ .live) : Parted start link := by
  cases explained with
  | underway _ live _ => exact absurd live closed
  | @closed before later cause here next earlier live step rest most =>
    have run : Run start (before ++ [.shut cause]) next := earlier.trans (.step step .refl)
    have counts : (before ++ [Happening.shut cause]).countP Happening.isSubmitted < UInt64.size := by
      rw [List.countP_append]
      change _ + 0 < _
      omega
    obtain ⟨-, told⟩ := new.closing run counts earlier live step
    refine ⟨before, cause, later, here, next, earlier, isOpen_eq_true.mpr live, step, rest, ?_⟩
    intro id shape listed
    obtain ⟨handed, ended⟩ := told id shape listed
    refine ⟨handed, ?_⟩
    obtain ⟨closed, empty⟩ := step.shut_empty live
    have split : before ++ Happening.shut cause :: later = before ++ [.shut cause] ++ later := List.append_cons ..
    rw [split, run.endings_append, ended, rest.endings_closed closed empty]
    rfl

end Explained

end Closing

end Link

/-! ## What the other end hears -/

/-- A peer together with the bytes that it was sent. -/
structure Overheard (π : Type) where
  peer : π
  heard : List ByteArray := []

instance {π : Type} [Peer π] : Peer (Overheard π) where
  react bytes overheard :=
    let (reaction, peer) := Peer.react bytes overheard.peer
    (reaction, { peer, heard := overheard.heard ++ [bytes] })

private theorem Overheard.heard_react {π : Type} [Peer π] (bytes : ByteArray) (overheard : Overheard π) :
    (Peer.react bytes overheard).2.heard = overheard.heard ++ [bytes] := rfl

/-- The request says goodbye. -/
def RequestEnvelope.isGoodbye (envelope : RequestEnvelope) : Bool := envelope.request = .closeConnection

namespace Link

variable {π : Type} [Peer π] {start link next : Link (Overheard π)} {envelopes said : List RequestEnvelope}

/-- All that was written on a connection, passed on or not. -/
def written (link : Link (Overheard π)) : Bytes :=
  link.peer.heard.flatMap Bytes.ofBuffer ++ Bytes.ofBuffer link.outbound.written

/-- What was written on a connection are the frames of these requests, the last of which may be incomplete once
the connection is closed. -/
structure Writes (envelopes : List RequestEnvelope) (link : Link (Overheard π)) : Prop where
  fits : ∀ envelope ∈ envelopes, (RequestEnvelope.codec.encode envelope).length ≤ maxFrameLength
  begun : link.written <+: RequestEnvelope.bytes envelopes
  whole : link.calls.standing = .live →
    link.written = RequestEnvelope.bytes envelopes ∧ link.outbound.written = .empty

omit [Peer π] in
theorem Writes.of_eq (writes : Writes envelopes link) (peer_eq : next.peer = link.peer)
    (written_eq : next.outbound.written = link.outbound.written)
    (live : next.calls.standing = .live → link.calls.standing = .live) : Writes envelopes next := by
  have same : next.written = link.written := by rw [written, written, peer_eq, written_eq]
  exact ⟨writes.fits, same ▸ writes.begun, fun still => by rw [same, written_eq]; exact writes.whole (live still)⟩

omit [Peer π] in
theorem Writes.aside (writes : Writes envelopes link) (aside : Aside link next) : Writes envelopes next := by
  obtain ⟨happenings, run, -⟩ := aside.run
  exact writes.of_eq aside.peer_eq aside.written_eq run.live

/-- What is written in a turn comes behind the rest. -/
theorem Writes.turn (writes : Writes envelopes link) (turn : Turn link said next) :
    Writes (envelopes ++ said) next := by
  cases turn with
  | aside aside _ =>
    rw [List.append_nil]
    exact writes.aside aside
  | take stream limit =>
    rw [List.append_nil]
    exact writes.of_eq rfl rfl id
  | refused closed shape =>
    rw [List.append_nil]
    exact writes.of_eq (peer_register shape link) (congrArg Outbound.written (outbound_register shape link))
      (standing_register shape link).symm.trans
  | failed live peer_eq _ fits begun run =>
    obtain ⟨part, only, written_eq⟩ := begun
    have closed : next.calls.standing ≠ .live := fun still => by
      have never := (run.live_iff live).mp still
      contradiction
    have grown : next.written = link.written ++ part := by
      rw [written, written, peer_eq, written_eq, List.append_assoc]
    refine ⟨List.forall_mem_append.mpr ⟨writes.fits, fits⟩, ?_, fun still => absurd still closed⟩
    rw [grown, (writes.whole live).1, RequestEnvelope.bytes_append]
    exact (List.prefix_append_right_inj _).mpr only
  | @sent envelope _ shape bytes later live _ fits bytes_eq peer_eq written_eq run _ =>
    have grown : next.written = RequestEnvelope.bytes (envelopes ++ [envelope]) := by
      rw [RequestEnvelope.bytes_append, RequestEnvelope.bytes_singleton, ← (writes.whole live).1, written, written,
        peer_eq, written_eq, List.append_assoc, ← bytes_eq, Overheard.heard_react, List.flatMap_append,
        List.flatMap_singleton]
      exact List.append_nil _
    refine ⟨List.forall_mem_append.mpr ⟨writes.fits, List.forall_mem_singleton.mpr fits⟩, ?_, fun _ => ?_⟩
    · rw [grown]
    · exact ⟨grown, written_eq⟩

/-! ## What every turn keeps -/

/-- A connection in order, on which the client has said goodbye so many times at most. -/
structure Sound (start : Link (Overheard π)) (goodbyes : Nat) (link : Link (Overheard π)) : Prop where
  writes : ∃ envelopes, Writes envelopes link ∧ envelopes.countP RequestEnvelope.isGoodbye ≤ goodbyes
  vacant : link.Vacant
  explained : link.peer.heard.length + 1 < UInt64.size → Explained start link.peer.heard.length link

variable {goodbyes more : Nat}

theorem Vacant.turn (vacant : link.Vacant) (turn : Turn link said next) : next.Vacant := by
  cases turn with
  | aside aside _ =>
    obtain ⟨happenings, run, -⟩ := aside.run
    exact run.vacant vacant
  | take stream limit => exact vacant
  | refused closed shape =>
    have run : Run link [.submitted shape] (link.register shape).2 := .step (.submitted shape) .refl
    exact run.vacant vacant
  | failed _ _ _ _ _ run => exact run.vacant vacant
  | sent _ _ _ _ _ _ run _ => exact run.vacant vacant

/-- What happens in a turn. A call is submitted if the other end hears of it, and otherwise only if the connection
is closed afterwards. -/
theorem Orderly.turn_run (orderly : link.Orderly) (turn : Turn link said next) :
    ∃ happenings more, Run link happenings next ∧
      next.peer.heard.length = link.peer.heard.length + more ∧
      happenings.countP Happening.isSubmitted ≤ more + 1 ∧
      (next.calls.standing = .live → happenings.countP Happening.isSubmitted = more) := by
  cases turn with
  | aside aside _ =>
    obtain ⟨happenings, run, calm⟩ := aside.run
    exact ⟨happenings, 0, run, by rw [aside.peer_eq]; rfl, by omega, fun _ => calm⟩
  | take stream limit =>
    cases found : link.channel? stream.id with
    | none =>
      rw [setChannel_absent found]
      exact ⟨[], 0, .refl, rfl, Nat.zero_le _, fun _ => rfl⟩
    | some channel =>
      obtain ⟨happenings, run, calm⟩ := orderly.nextRow_run limit stream found
      exact ⟨happenings, 0, run, rfl, by omega, fun _ => calm⟩
  | refused closed shape =>
    have run : Run link [.submitted shape] (link.register shape).2 := .step (.submitted shape) .refl
    refine ⟨_, 0, run, by rw [peer_register]; rfl, Nat.le_refl _, fun live => ?_⟩
    rw [run.live live] at closed
    contradiction
  | failed live peer_eq _ _ _ run =>
    refine ⟨_, 0, run, by rw [peer_eq]; rfl, Nat.le_refl _, fun still => ?_⟩
    have never := (run.live_iff live).mp still
    contradiction
  | @sent envelope _ shape bytes later live _ fits bytes_eq peer_eq written_eq run reads =>
    have calm := Happening.countP_isSubmitted_of_isRead reads
    have once : (Happening.submitted shape :: later).countP Happening.isSubmitted = 1 := by
      rw [List.countP_cons, calm]
      rfl
    refine ⟨_, 1, run, ?_, by omega, fun _ => once⟩
    rw [peer_eq, Overheard.heard_react, List.length_append]
    rfl

/-- The other end forgets nothing that it has heard. -/
theorem Turn.heard_le (turn : Turn link said next) : link.peer.heard.length ≤ next.peer.heard.length := by
  cases turn with
  | aside aside _ => rw [aside.peer_eq]
  | take stream limit => exact Nat.le_refl _
  | refused closed shape => rw [peer_register]
  | failed _ peer_eq _ _ _ _ => rw [peer_eq]
  | sent _ _ _ _ peer_eq _ _ _ =>
    rw [peer_eq, Overheard.heard_react, List.length_append]
    exact Nat.le_add_right _ _

omit [Peer π] in
theorem Sound.aside (sound : Sound start goodbyes link) (new : start.New) (aside : Aside link next) :
    Sound start goodbyes next := by
  obtain ⟨envelopes, writes, few⟩ := sound.writes
  obtain ⟨happenings, run, calm⟩ := aside.run
  refine ⟨⟨envelopes, writes.aside aside, few⟩, run.vacant sound.vacant, ?_⟩
  rw [aside.peer_eq]
  exact fun small => (sound.explained small).extend new run (by omega) fun _ => calm

/-- Every turn keeps a connection in order. -/
theorem Sound.turn (sound : Sound start goodbyes link) (new : start.New) (turn : Turn link said next)
    (few : said.countP RequestEnvelope.isGoodbye ≤ more) : Sound start (goodbyes + more) next := by
  obtain ⟨envelopes, writes, most⟩ := sound.writes
  refine ⟨⟨envelopes ++ said, writes.turn turn, ?_⟩, sound.vacant.turn turn, fun small => ?_⟩
  · rw [List.countP_append]
    omega
  · have before : link.peer.heard.length + 1 < UInt64.size := by
      have := turn.heard_le
      omega
    have explained := sound.explained before
    obtain ⟨happenings, added, run, heard_eq, bound, exactly⟩ := (explained.orderly new before).turn_run turn
    rw [heard_eq]
    exact explained.extend new run bound exactly

omit [Peer π] in
/-- A new connection on which nothing was written. -/
theorem Sound.of_new (new : start.New) (unheard : start.peer.heard = [])
    (unwritten : start.outbound.written = .empty) : Sound start 0 start := by
  have nothing : start.written = [] := by
    rw [written, unheard, unwritten]
    rfl
  refine ⟨⟨[], ⟨nofun, ?_, fun _ => ⟨nothing, unwritten⟩⟩, Nat.le_refl _⟩, fun closed => ?_, fun _ => ?_⟩
  · rw [nothing]
    exact List.nil_prefix
  · exact absurd new.live closed
  · rw [unheard]
    exact .underway .refl new.live rfl

end Link

end PagedResults
