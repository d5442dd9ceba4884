import PagedResults.Proofs.Operations
import PagedResults.Proofs.RowStream.Consumption

/-! # What a streamed call is still owed

A streamed call that is pending is owed the responses that come under its id, up to the first that ends it;
one that is not pending is owed nothing any more. Whatever happens on the connection, as long as nobody else
takes from the channel of the call, the responses that are owed go into the channel one after the other.
-/

namespace PagedResults

namespace Happening

/-- The happening leaves the receiver of the call alone. -/
def Spares (id : UInt64) : Happening → Prop
  | taken other _ | forgotten other | released other => other ≠ id
  | _ => True

variable {id : UInt64} {shape : Shape} {happening : Happening} {later : List Happening}

/-- Only responses and the end of the connection come from reading. -/
theorem Spares.of_isRead (reads : happening.isRead = true) (id : UInt64) : happening.Spares id := by
  cases happening with
  | arrived envelope | shut cause => exact trivial
  | _ => contradiction

/-- Which error closed the connection makes no difference to the responses. -/
theorem responses_due (id : UInt64) (shape : Shape) (later : List Happening) (error other : Error) :
    Delivery.responses (due id shape error later) = Delivery.responses (due id shape other later) := by
  induction later with
  | nil => rfl
  | cons happening later ih =>
    rw [due, due]
    split
    · cases happening <;> rfl
    · split
      · exact ih
      · next delivery answered =>
        split
        · rfl
        · rw [Delivery.responses_cons, Delivery.responses_cons delivery (due id shape other later), ih]

/-- What is owed to a call are the first of the responses that come under its id. -/
theorem responses_due_begins (id : UInt64) (shape : Shape) (error : Error) (later : List Happening) :
    Delivery.responses (due id shape error later) <+: Delivery.responses (later.filterMap (answer? id shape)) := by
  induction later with
  | nil => exact List.prefix_refl _
  | cons happening later ih =>
    rw [due]
    split
    · have silent : Delivery.responses (happening.notice id error) = [] := by cases happening <;> rfl
      rw [silent]
      exact List.nil_prefix
    · cases answered : happening.answer? id shape with
      | none =>
        rw [List.filterMap_cons_none answered]
        exact ih
      | some delivery =>
        rw [List.filterMap_cons_some answered, Delivery.responses_cons]
        dsimp only
        split
        · exact List.prefix_append _ _
        · rw [Delivery.responses_cons]
          exact (List.prefix_append_right_inj _).mpr ih

end Happening

namespace Link

variable {π : Type} {link next : Link π} {happening : Happening} {happenings later : List Happening}
  {id : UInt64} {channel : Channel} {owed : List Response} {count index : Nat}

/-- The responses that a streamed call is still owed. -/
def Owes (id : UInt64) (link : Link π) (later : List Happening) (owed : List Response) : Prop :=
  (link.calls.shape? id = some .stream ∧
    owed = Delivery.responses (Happening.due id .stream .connectionClosed later)) ∨
  (link.calls.shape? id = none ∧ owed = [])

/-- A channel stays as long as its receiver is left alone. -/
theorem Step.keeps_channel (step : Step link happening next) (spares : happening.Spares id)
    (found : link.channel? id = some channel) : ∃ left, next.channel? id = some left := by
  have settles (thread : Thread) (change : Calls × List Effect) :
      ∃ left, (link.settle thread change).channel? id = some left := by
    rw [channel?_settle, found]
    exact ⟨_, rfl⟩
  cases step with
  | submitted shape =>
    cases standing : link.calls.standing with
    | closed cause =>
      rw [register_closed standing]
      exact ⟨channel, found⟩
    | live =>
      rw [register_live standing]
      refine ⟨channel, ?_⟩
      change (link.channels ++ _).lookup id = _
      rw [List.lookup_append, show link.channels.lookup id = _ from found]
      rfl
  | arrived thread envelope => exact settles ..
  | forgotten other =>
    refine ⟨channel, channel?_dropChannel.trans ?_⟩
    rw [if_neg (Ne.symm spares)]
    exact found
  | cancelled other => exact settles ..
  | closing => exact ⟨channel, found⟩
  | shut thread cause => exact settles ..
  | taken _ _ =>
    refine ⟨channel, (channel?_setChannel _).trans ?_⟩
    rw [if_neg (Ne.symm spares), found]
  | released other =>
    refine ⟨channel, channel?_dropChannel.trans ?_⟩
    rw [if_neg (Ne.symm spares), found]

/-- Whatever happens, what is owed now is what comes into the channel now and what is owed afterwards. -/
theorem Step.owes (step : Step link happening next) (tidy : link.Tidy count)
    (differs : happening.isSubmitted = true → id ≠ link.calls.nextId) (spares : happening.Spares id)
    (found : link.channel? id = some channel) (owes : Owes id link (happening :: later) owed) :
    ∃ handed rest, next.channel? id = some (channel.pushAll handed) ∧ Owes id next later rest ∧
      owed = Delivery.responses handed ++ rest := by
  have fed {handed : List Delivery} (feeds : Feeds id link next happening handed) :
      next.channel? id = some (channel.pushAll handed) := by
    cases feeds with
    | fed untaken channel_eq => rw [channel_eq, found, Option.map_some]
    | gone untaken channel_eq =>
      obtain ⟨left, kept⟩ := step.keeps_channel spares found
      rw [channel_eq] at kept
      cases kept
    | taken => exact absurd rfl spares
  rcases owes with ⟨known, rfl⟩ | ⟨unknown, rfl⟩
  · obtain ⟨error, failed⟩ : ∃ error, happening.isShut = true → next.calls.standing.error? = some error := by
      by_cases shuts : happening.isShut = true
      · obtain ⟨error, told⟩ := step.shut_error shuts
        exact ⟨error, fun _ => told⟩
      · exact ⟨.connectionClosed, fun shut => absurd shut shuts⟩
    obtain ⟨handed, feeds, fate⟩ := step.pending tidy differs known failed
    rw [Happening.responses_due id .stream (happening :: later) .connectionClosed error]
    rcases fate with ⟨still, dues⟩ | ⟨gone, dues⟩
    · refine ⟨handed, _, fed feeds, .inl ⟨still, rfl⟩, ?_⟩
      rw [(dues later).1, Delivery.responses_append, Happening.responses_due id .stream later error]
    · exact ⟨handed, [], fed feeds, .inr ⟨gone, rfl⟩, by rw [(dues later).1, List.append_nil]⟩
  · obtain ⟨still, feeds⟩ := step.idle tidy differs unknown
    exact ⟨[], [], fed feeds, .inr ⟨still, rfl⟩, rfl⟩

/-- The same over all that happens in the meantime. -/
theorem Run.owes (run : Run link happenings next) (tidy : link.Tidy count)
    (few : count + happenings.countP Happening.isSubmitted ≤ UInt64.size) (old : index < count)
    (spares : ∀ happening ∈ happenings, happening.Spares (UInt64.ofNat (index + 1)))
    (found : link.channel? (UInt64.ofNat (index + 1)) = some channel)
    (owes : Owes (UInt64.ofNat (index + 1)) link (happenings ++ later) owed) :
    ∃ handed rest, next.channel? (UInt64.ofNat (index + 1)) = some (channel.pushAll handed) ∧
      Owes (UInt64.ofNat (index + 1)) next later rest ∧ owed = Delivery.responses handed ++ rest := by
  induction run generalizing count channel owed with
  | refl =>
    refine ⟨[], owed, ?_, owes, rfl⟩
    rw [found, Channel.pushAll, List.append_nil]
  | aside calls_eq channels_eq rest ih =>
    refine ih (tidy.aside calls_eq channels_eq) few old spares ?_ ?_
    · rw [channel?, channels_eq]
      exact found
    · rw [Owes, calls_eq]
      exact owes
  | step step rest ih =>
    rw [List.countP_cons] at few
    obtain ⟨spared, others⟩ := List.forall_mem_cons.mp spares
    obtain ⟨handed, due, held, still, rfl⟩ :=
      step.owes tidy (tidy.differs_of_step few old) spared found owes
    obtain ⟨behind, left, filled, remains, rfl⟩ :=
      ih (step.tidy tidy (by omega)) (by omega) (by omega) others held still
    refine ⟨handed ++ behind, left, ?_, remains, ?_⟩
    · rw [filled, ← Channel.pushAll_comp, Function.comp_apply]
    · rw [Delivery.responses_append, List.append_assoc]

/-- A call that is submitted gets the next id, and only responses and the end of the connection come in while
its request is sent. -/
theorem submit_ok [Peer π] {thread : Thread} {shape : Shape} {request : Request}
    (submitted : submit thread shape request link = (.ok id, next)) :
    link.calls.standing = .live ∧ id = link.calls.nextId ∧
      ∃ later, Run link (.submitted shape :: later) next ∧ later.all Happening.isRead = true := by
  cases standing : link.calls.standing with
  | closed cause =>
    rw [submit, register_closed standing] at submitted
    cases submitted
  | live =>
    have begun : Step link (.submitted shape) (link.register shape).2 := .submitted shape
    rw [submit] at submitted
    rw [register_live standing] at submitted begun
    dsimp only at submitted
    split at submitted
    · cases submitted
    · next outbound sent =>
      obtain ⟨same, rfl⟩ := Prod.mk.inj submitted
      obtain ⟨later, run, reads⟩ := exchange_run thread { (link.register shape).2 with outbound }
      rw [register_live standing] at run
      exact ⟨rfl, (Except.ok.inj same).symm, later,
        .step begun (((run.note_after thread _).note_after thread _).behind rfl rfl), reads⟩

end Link

end PagedResults
