import PagedResults.Link
import PagedResults.Proofs.Calls

/-! # What may happen on a connection

As far as its calls are concerned, a connection goes through happenings: a call is submitted, a response
arrives, a call is forgotten or cancelled, the connection is closed, a receiver takes a delivery. They
may come in any order, from any thread, and `Link.Run` strings them together. Every operation of a
connection is such a run, whatever the bytes are that it reads and sends.
-/

namespace PagedResults

/-- What may happen on a connection. -/
inductive Happening where
  | submitted (shape : Shape)
  | arrived (envelope : ResponseEnvelope)
  /-- The time of a call ran out, or its request could not be sent. -/
  | forgotten (id : UInt64)
  | cancelled (id : UInt64)
  /-- The client begins to close the connection. -/
  | closing
  | shut (cause : Option Error)
  /-- The receiver of a call takes a delivery. -/
  | taken (id : UInt64) (delivery : Delivery)
  /-- The receiver of a call goes away. -/
  | released (id : UInt64)
deriving DecidableEq, Repr

namespace Happening

def isSubmitted : Happening → Bool
  | submitted _ => true
  | _ => false

def isShut : Happening → Bool
  | shut _ => true
  | _ => false

end Happening

/-- The channel after several deliveries were handed in. -/
def Channel.pushAll (deliveries : List Delivery) (channel : Channel) : Channel :=
  { channel with queue := channel.queue ++ deliveries }

theorem Channel.map_pushAll_nil (channel : Option Channel) : channel.map (pushAll []) = channel := by
  cases channel with
  | none => rfl
  | some channel => rw [Option.map_some, pushAll, List.append_nil]

theorem Channel.pushAll_comp (first second : List Delivery) :
    pushAll second ∘ pushAll first = pushAll (first ++ second) := by
  funext channel
  rw [Function.comp_apply, pushAll, pushAll, pushAll, List.append_assoc]

theorem Effect.handed_deliver (id other : UInt64) (delivery : Delivery) :
    handed id [.deliver other delivery] = if other = id then [delivery] else [] := by
  unfold handed
  split <;> simp [*]

namespace Link

variable {π : Type}

/-- What one happening does to a connection. -/
inductive Step : Link π → Happening → Link π → Prop
  | submitted {link : Link π} (shape : Shape) : Step link (.submitted shape) (link.register shape).2
  | arrived {link : Link π} (thread : Thread) (envelope : ResponseEnvelope) :
      Step link (.arrived envelope) (link.arrive thread envelope)
  | forgotten {link : Link π} (id : UInt64) : Step link (.forgotten id) (link.forget id)
  | cancelled {link : Link π} (id : UInt64) : Step link (.cancelled id) (link.cancel id).2
  | closing {link : Link π} : Step link .closing link.beginClosing
  | shut {link : Link π} (thread : Thread) (cause : Option Error) :
      Step link (.shut cause) (link.shut thread cause)
  | taken {link : Link π} {id : UInt64} {channel : Channel} {delivery : Delivery}
      {queue : List Delivery} (found : link.channel? id = some channel)
      (held : channel.queue = delivery :: queue) :
      Step link (.taken id delivery)
        (link.setChannel id { channel with queue, done := delivery.isFinal })
  | released {link : Link π} (id : UInt64) : Step link (.released id) (link.dropChannel id)

/-- From one state of a connection to another by what happened, from the first to the last. Nothing else
that a connection does touches its calls or their channels. -/
inductive Run : Link π → List Happening → Link π → Prop
  | refl {link : Link π} : Run link [] link
  | aside {link next last : Link π} {happenings : List Happening} (calls_eq : next.calls = link.calls)
      (channels_eq : next.channels = link.channels) (rest : Run next happenings last) :
      Run link happenings last
  | step {link next last : Link π} {happening : Happening} {happenings : List Happening}
      (step : Step link happening next) (rest : Run next happenings last) :
      Run link (happening :: happenings) last

variable {link next last : Link π} {happenings later : List Happening} {id other : UInt64}

theorem Run.trans (left : Run link happenings next) (right : Run next later last) :
    Run link (happenings ++ later) last := by
  induction left with
  | refl => exact right
  | aside calls_eq channels_eq _ ih => exact .aside calls_eq channels_eq (ih right)
  | step step _ ih => exact .step step (ih right)

/-- What happened first, and what happened then. -/
theorem Run.split (run : Run link (happenings ++ later) last) :
    ∃ next, Run link happenings next ∧ Run next later last := by
  generalize all : happenings ++ later = whole at run
  induction run generalizing happenings with
  | refl =>
    obtain ⟨rfl, rfl⟩ := List.append_eq_nil_iff.mp all
    exact ⟨_, .refl, .refl⟩
  | aside calls_eq channels_eq _ ih =>
    obtain ⟨next, left, right⟩ := ih all
    exact ⟨next, .aside calls_eq channels_eq left, right⟩
  | step step rest ih =>
    cases happenings with
    | nil =>
      obtain rfl : later = _ := all
      exact ⟨_, .refl, .step step rest⟩
    | cons first happenings =>
      obtain ⟨rfl, others⟩ := List.cons.inj all
      obtain ⟨next, left, right⟩ := ih others
      exact ⟨next, .step step left, right⟩

/-! ## Channels -/

theorem channel?_setChannel (channel : Channel) : (link.setChannel other channel).channel? id =
    if id = other then (link.channel? other).map fun _ => channel else link.channel? id :=
  lookup_replace channel

theorem ids_setChannel (other : UInt64) (channel : Channel) :
    (link.setChannel other channel).channels.map (·.1) = link.channels.map (·.1) := by
  unfold setChannel
  rw [List.map_map]
  apply List.map_congr_left
  intro entry _
  dsimp only [Function.comp]
  split
  · next same => exact same.symm
  · rfl

theorem channel?_dropChannel : (link.dropChannel other).channel? id =
    if id = other then none else link.channel? id := lookup_filter_ne

/-- Bringing about effects hands each receiver its own deliveries and nothing else. -/
theorem channel?_settle (thread : Thread) (step : Calls × List Effect) :
    (link.settle thread step).channel? id =
      (link.channel? id).map (Channel.pushAll (Effect.handed id step.2)) := by
  have apply_eq (effect : Effect) (link : Link π) : (link.apply thread effect).channel? id =
      (link.channel? id).map (Channel.pushAll (Effect.handed id [effect])) := by
    cases effect with
    | note event => exact (Channel.map_pushAll_nil _).symm
    | deliver other delivery =>
      rw [Effect.handed_deliver, apply]
      by_cases same : id = other
      · subst same
        rw [if_pos rfl]
        cases known : link.channel? id with
        | none => exact known
        | some channel =>
          dsimp only
          rw [channel?_setChannel, if_pos rfl, known]
          rfl
      · rw [if_neg (Ne.symm same), Channel.map_pushAll_nil]
        split
        · rw [channel?_setChannel, if_neg same]
        · rfl
  have all (effects : List Effect) (link : Link π) :
      (effects.foldl (apply thread) link).channel? id =
        (link.channel? id).map (Channel.pushAll (Effect.handed id effects)) := by
    induction effects generalizing link with
    | nil => exact (Channel.map_pushAll_nil _).symm
    | cons effect rest ih =>
      rw [List.foldl_cons, ih, apply_eq, Option.map_map, Channel.pushAll_comp, ← Effect.handed_append]
      rfl
  exact all step.2 _

/-- What neither noting an event nor feeding a channel changes, bringing about effects does not change. -/
theorem view_settle {α : Type} (view : Link π → α)
    (noted : ∀ thread event (link : Link π), view (link.note thread event) = view link)
    (fed : ∀ id channel (link : Link π), view (link.setChannel id channel) = view link)
    (thread : Thread) (step : Calls × List Effect) :
    view (link.settle thread step) = view { link with calls := step.1 } := by
  have all (effects : List Effect) (link : Link π) :
      view (effects.foldl (apply thread) link) = view link := by
    induction effects generalizing link with
    | nil => rfl
    | cons effect rest ih =>
      rw [List.foldl_cons, ih]
      cases effect with
      | note event => exact noted thread event link
      | deliver id delivery =>
        rw [apply]
        split
        · exact fed ..
        · rfl
  exact all step.2 _

theorem calls_settle (thread : Thread) (step : Calls × List Effect) :
    (link.settle thread step).calls = step.1 :=
  view_settle calls (fun _ _ _ => rfl) (fun _ _ _ => rfl) thread step

/-- Bringing about effects opens and drops no channel. -/
theorem ids_settle (thread : Thread) (step : Calls × List Effect) :
    (link.settle thread step).channels.map (·.1) = link.channels.map (·.1) :=
  view_settle (fun link => link.channels.map (·.1)) (fun _ _ _ => rfl)
    (fun id channel _ => ids_setChannel id channel) thread step

/-! ## One id for each call -/

/-- The books of a connection after `count` calls. -/
structure Tidy (count : Nat) (link : Link π) : Prop where
  calls : link.calls.Tidy count
  ids : ∀ id ∈ link.channels.map (·.1), ∃ index < count, id = UInt64.ofNat (index + 1)

variable {happening : Happening} {count index : Nat}

theorem register_live (live : link.calls.standing = .live) (shape : Shape) : link.register shape =
    (.ok link.calls.nextId, { link with
      calls := (link.calls.register shape).2
      channels := link.channels ++ [(link.calls.nextId, ({} : Channel))] }) := by
  rw [register, Calls.register_live live]

theorem register_closed {cause : Option Error} (closed : link.calls.standing = .closed cause)
    (shape : Shape) : link.register shape =
      (.error (cause.getD .connectionClosed), { link with calls := (link.calls.register shape).2 }) := by
  rw [register, Calls.register_closed closed]

theorem Tidy.settle (tidy : link.Tidy count) {thread : Thread} {step : Calls × List Effect}
    (kept : step.1.Tidy count) : (link.settle thread step).Tidy count := by
  constructor
  · rw [calls_settle]
    exact kept
  · rw [ids_settle]
    exact tidy.ids

theorem Tidy.dropChannel (tidy : link.Tidy count) (id : UInt64) : (link.dropChannel id).Tidy count := by
  refine ⟨tidy.calls, ?_⟩
  intro other member
  exact tidy.ids other ((List.filter_sublist.map _).subset member)

theorem Tidy.register (tidy : link.Tidy count) (few : count < UInt64.size) (shape : Shape) :
    (link.register shape).2.Tidy (count + 1) := by
  have ids : ∀ id ∈ link.channels.map (·.1), ∃ index < count + 1, id = UInt64.ofNat (index + 1) := by
    intro id member
    obtain ⟨index, before, same⟩ := tidy.ids id member
    exact ⟨index, by omega, same⟩
  cases standing : link.calls.standing with
  | closed cause =>
    rw [register_closed standing]
    exact ⟨tidy.calls.register few shape, ids⟩
  | live =>
    rw [register_live standing]
    refine ⟨tidy.calls.register few shape, ?_⟩
    intro id member
    change id ∈ (link.channels ++ [(link.calls.nextId, ({} : Channel))]).map (·.1) at member
    rw [List.map_append, List.mem_append] at member
    rcases member with old | new
    · exact ids id old
    · exact ⟨count, by omega, (List.mem_singleton.mp new).trans tidy.calls.nextId_eq⟩

/-- Every step keeps the books. -/
theorem Step.tidy (step : Step link happening next) (tidy : link.Tidy count)
    (few : count + (if happening.isSubmitted then 1 else 0) ≤ UInt64.size) :
    next.Tidy (count + if happening.isSubmitted then 1 else 0) := by
  cases step with
  | submitted shape => exact tidy.register few shape
  | arrived thread envelope => exact tidy.settle (tidy.calls.arrive envelope)
  | forgotten id =>
    have withdrawn : Tidy count { link with calls := link.calls.withdraw id } :=
      ⟨tidy.calls.withdraw id, tidy.ids⟩
    exact withdrawn.dropChannel id
  | cancelled id => exact tidy.settle (tidy.calls.cancel id)
  | closing => exact ⟨{ tidy.calls with }, tidy.ids⟩
  | shut thread cause => exact tidy.settle (tidy.calls.shut cause)
  | taken found held =>
    refine ⟨tidy.calls, ?_⟩
    rw [ids_setChannel]
    exact tidy.ids
  | released id => exact tidy.dropChannel id

theorem Run.tidy (run : Run link happenings last) (tidy : link.Tidy count)
    (few : count + happenings.countP Happening.isSubmitted ≤ UInt64.size) :
    last.Tidy (count + happenings.countP Happening.isSubmitted) := by
  induction run generalizing count with
  | refl => exact tidy
  | aside calls_eq channels_eq _ ih =>
    exact ih ⟨by rw [calls_eq]; exact tidy.calls, by rw [channels_eq]; exact tidy.ids⟩ few
  | step step _ ih =>
    rw [List.countP_cons] at few ⊢
    rw [Nat.add_comm (List.countP _ _), ← Nat.add_assoc]
    exact ih (step.tidy tidy (by omega)) (by omega)

/-- A channel that was never opened, or whose receiver went away, does not come back for an old id. -/
theorem Tidy.channel?_nextId (tidy : link.Tidy count) (few : count < UInt64.size) :
    link.channel? link.calls.nextId = none := by
  rw [channel?, List.lookup_eq_none_iff]
  intro entry member
  obtain ⟨index, before, same⟩ := tidy.ids entry.1 (List.mem_map_of_mem member)
  rw [same, tidy.calls.nextId_eq, bne_iff_ne]
  exact (Calls.ofNat_succ_ne before few).symm

end Link

end PagedResults
