import PagedResults.Proofs.Link

/-! # What a call receives

The receiver of a call gets the responses under the id of the call, in the order in which they arrive,
up to the first that ends the call, and none once the call was forgotten or cancelled or the connection
was closed. What happens to other calls makes no difference. The proof follows one id through a run: at
every step, what the call is still owed is what it is handed now and what it is owed afterwards.
-/

namespace PagedResults

/-- The deliveries up to the first that ends a call. -/
def Delivery.upToFinal : List Delivery → List Delivery
  | [] => []
  | delivery :: rest => if delivery.isFinal then [delivery] else delivery :: upToFinal rest

namespace Happening

/-- The call ends, whatever it was answered. -/
def ends (id : UInt64) : Happening → Bool
  | forgotten other | cancelled other => other = id
  | shut _ => true
  | _ => false

/-- What the call is answered. -/
def answer? (id : UInt64) (shape : Shape) : Happening → Option Delivery
  | arrived envelope =>
      if envelope.id = id then some (Calls.deliveryOf shape envelope.last envelope.response) else none
  | _ => none

/-- How the call learns that it ends without an answer, where `error` closed the connection. -/
def notice (id : UInt64) (error : Error) : Happening → List Delivery
  | cancelled _ => [.failure (.interrupted s!"request {id} cancelled")]
  | shut _ => [.failure error]
  | _ => []

/-- What the receiver of the call takes. -/
def take? (id : UInt64) : Happening → Option Delivery
  | taken other delivery => if other = id then some delivery else none
  | _ => none

/-- The answers to a call among what happens after it was submitted. -/
def answers (id : UInt64) (shape : Shape) (later : List Happening) : List Delivery :=
  Delivery.upToFinal ((later.takeWhile fun happening => !happening.ends id).filterMap (answer? id shape))

/-- All that the receiver of a call gets. -/
def deliveries (id : UInt64) (shape : Shape) (error : Error) (later : List Happening) : List Delivery :=
  let answers := answers id shape later
  answers ++
    if answers.any Delivery.isFinal then []
    else ((later.find? (ends id)).map (notice id error)).getD []

/-- The call as it is pending after all that happened, if it still is. -/
def pendingAfter (id : UInt64) (shape : Shape) (later : List Happening) : Option Shape :=
  if later.any (ends id) || (answers id shape later).any Delivery.isFinal then none else some shape

/-- All that the receiver of a call gets, one happening after the other. -/
def due (id : UInt64) (shape : Shape) (error : Error) : List Happening → List Delivery
  | [] => []
  | happening :: later =>
      if happening.ends id then happening.notice id error
      else
        match happening.answer? id shape with
        | none => due id shape error later
        | some delivery => if delivery.isFinal then [delivery] else delivery :: due id shape error later

variable {id : UInt64} {shape : Shape} {error : Error} {happening : Happening} {later : List Happening}

private theorem deliveries_eq_due : deliveries id shape error later = due id shape error later := by
  induction later with
  | nil => rfl
  | cons happening later ih =>
    unfold deliveries answers at ih
    rw [due, deliveries, answers, List.find?_cons]
    by_cases ended : happening.ends id = true
    · simp [ended, Delivery.upToFinal]
    · have goesOn : happening.ends id = false := by simpa using ended
      simp only [goesOn, Bool.not_false, List.takeWhile_cons_of_pos, Bool.false_eq_true, if_false]
      cases answered : happening.answer? id shape with
      | none =>
        rw [List.filterMap_cons_none answered]
        exact ih
      | some delivery =>
        rw [List.filterMap_cons_some answered, Delivery.upToFinal]
        by_cases final : delivery.isFinal = true
        · simp [final]
        · simp [final, ← ih]

theorem pendingAfter_cons : pendingAfter id shape (happening :: later) =
    if happening.ends id then none
    else
      match happening.answer? id shape with
      | none => pendingAfter id shape later
      | some delivery => if delivery.isFinal then none else pendingAfter id shape later := by
  rw [pendingAfter, answers, List.any_cons]
  by_cases ended : happening.ends id = true
  · simp [ended]
  · have goesOn : happening.ends id = false := by simpa using ended
    simp only [goesOn, Bool.not_false, List.takeWhile_cons_of_pos, Bool.false_eq_true, if_false,
      Bool.false_or]
    cases answered : happening.answer? id shape with
    | none =>
      rw [List.filterMap_cons_none answered]
      rfl
    | some delivery =>
      rw [List.filterMap_cons_some answered, Delivery.upToFinal]
      by_cases final : delivery.isFinal = true
      · simp [final]
      · have open_end : delivery.isFinal = false := by simpa using final
        simp only [open_end, Bool.false_eq_true, if_false, List.any_cons, Bool.false_or]
        rfl

/-- The happening is about the call, or about all calls. -/
def concerns (id : UInt64) : Happening → Bool
  | arrived envelope => envelope.id = id
  | happening => happening.ends id

private theorem due_filter : due id shape error (later.filter (concerns id)) = due id shape error later := by
  induction later with
  | nil => rfl
  | cons happening later ih =>
    by_cases concerned : happening.concerns id = true
    · rw [List.filter_cons_of_pos concerned, due, due, ih]
    · have goesOn : happening.ends id = false := by
        cases happening <;> simp_all [concerns, ends]
      have unanswered : happening.answer? id shape = none := by
        cases happening <;> simp_all [concerns, answer?]
      rw [List.filter_cons_of_neg concerned, ih, due, goesOn, unanswered]
      rfl

end Happening

namespace Link

variable {π : Type} {link next last : Link π} {happening : Happening} {later : List Happening}
  {id : UInt64} {shape : Shape} {error : Error} {count index : Nat}

/-- What one step did to the channel of an id: it was handed some deliveries, or its receiver went away,
or the receiver took the first delivery it held. -/
inductive Feeds (id : UInt64) (link next : Link π) : Happening → List Delivery → Prop
  | fed {happening : Happening} {handed : List Delivery} (untaken : happening.take? id = none)
      (channel_eq : next.channel? id = (link.channel? id).map (Channel.pushAll handed)) :
      Feeds id link next happening handed
  | gone {happening : Happening} {handed : List Delivery} (untaken : happening.take? id = none)
      (channel_eq : next.channel? id = none) : Feeds id link next happening handed
  | taken {channel left : Channel} {delivery : Delivery} (found : link.channel? id = some channel)
      (held : channel.queue = delivery :: left.queue) (channel_eq : next.channel? id = some left) :
      Feeds id link next (.taken id delivery) []

theorem Feeds.settle {thread : Thread} {step : Calls × List Effect} {handed : List Delivery}
    (untaken : happening.take? id = none) (same : Effect.handed id step.2 = handed) :
    Feeds id link (link.settle thread step) happening handed :=
  .fed untaken (by rw [channel?_settle, same])

theorem Feeds.unchanged (untaken : happening.take? id = none)
    (same : next.channel? id = link.channel? id) : Feeds id link next happening [] :=
  .fed untaken (by rw [same, Channel.map_pushAll_nil])

theorem Feeds.dropped {other : UInt64} (untaken : happening.take? id = none)
    (same : next.channel? id = if id = other then none else link.channel? id) :
    Feeds id link next happening [] := by
  split at same
  · exact .gone untaken same
  · exact .unchanged untaken same

/-- Taking from a channel concerns no other channel and no entry of the table. -/
theorem Feeds.of_taken {other : UInt64} {channel : Channel} {delivery : Delivery}
    {queue : List Delivery} (found : link.channel? other = some channel)
    (held : channel.queue = delivery :: queue) :
    Feeds id link (link.setChannel other { channel with queue, done := delivery.isFinal })
      (.taken other delivery) [] := by
  by_cases same : other = id
  · subst same
    have left : (link.setChannel other { channel with queue, done := delivery.isFinal }).channel? other =
        some { channel with queue, done := delivery.isFinal } := by
      rw [channel?_setChannel, if_pos rfl, found]
      rfl
    exact .taken found held left
  · refine .unchanged ?_ ?_
    · rw [Happening.take?, if_neg same]
    · rw [channel?_setChannel, if_neg (Ne.symm same)]

/-- A new call gets a channel and an entry of its own. -/
theorem register_other (differs : id ≠ link.calls.nextId) (shape : Shape) :
    (link.register shape).2.calls.shape? id = link.calls.shape? id ∧
      (link.register shape).2.channel? id = link.channel? id := by
  cases standing : link.calls.standing with
  | closed cause =>
    rw [register_closed standing, Calls.register_closed standing]
    exact ⟨rfl, rfl⟩
  | live =>
    rw [register_live standing, Calls.register_live standing]
    exact ⟨lookup_append_of_ne differs _, lookup_append_of_ne differs _⟩

theorem shape?_of_empty {calls : Calls} (empty : calls.pending = []) : calls.shape? id = none := by
  rw [Calls.shape?, empty]
  rfl

/-- A call that is not pending is handed nothing, and never becomes pending again. -/
theorem Step.idle (step : Step link happening next) (tidy : link.Tidy count)
    (differs : happening.isSubmitted = true → id ≠ link.calls.nextId) (idle : link.calls.shape? id = none) :
    next.calls.shape? id = none ∧ Feeds id link next happening [] := by
  cases step with
  | submitted shape =>
    obtain ⟨entry, channel⟩ := register_other (differs rfl) shape
    exact ⟨entry.trans idle, .unchanged rfl channel⟩
  | arrived thread envelope =>
    rw [arrive, calls_settle]
    cases known : link.calls.shape? envelope.id with
    | none =>
      rw [Calls.arrive_unknown known]
      exact ⟨idle, .settle rfl rfl⟩
    | some shape =>
      have other : envelope.id ≠ id := by
        rintro rfl
        rw [known] at idle
        contradiction
      rw [Calls.arrive_known known]
      refine ⟨?_, .settle rfl ?_⟩
      · dsimp only
        split
        · rw [Calls.shape?_withdraw, if_neg other.symm]
          exact idle
        · exact idle
      · change Effect.handed id [.deliver _ _] = []
        rw [Effect.handed_deliver, if_neg other]
  | forgotten other =>
    refine ⟨?_, .dropped rfl channel?_dropChannel⟩
    change (link.calls.withdraw other).shape? id = none
    rw [Calls.shape?_withdraw, idle, ite_self]
  | cancelled other =>
    rw [Link.cancel, calls_settle]
    cases known : link.calls.shape? other with
    | none =>
      rw [Calls.cancel_unknown known]
      exact ⟨idle, .settle rfl rfl⟩
    | some shape =>
      have differ : other ≠ id := by
        rintro rfl
        rw [known] at idle
        contradiction
      rw [Calls.cancel_known known]
      refine ⟨?_, .settle rfl ?_⟩
      · dsimp only
        rw [Calls.shape?_withdraw, idle, ite_self]
      · rw [Effect.handed_deliver, if_neg differ]
  | closing => exact ⟨idle, .unchanged rfl rfl⟩
  | shut thread cause =>
    rw [Link.shut, calls_settle]
    cases standing : link.calls.standing with
    | closed first =>
      rw [Calls.shut_closed standing]
      exact ⟨idle, .settle rfl rfl⟩
    | live =>
      refine ⟨shape?_of_empty (Calls.shut_live standing cause).2.1, .settle rfl ?_⟩
      rw [Calls.handed_shut standing tidy.calls.distinct, idle]
      rfl
  | taken found held => exact ⟨idle, .of_taken found held⟩
  | released other => exact ⟨idle, .dropped rfl channel?_dropChannel⟩

/-- A pending call is handed what it is owed now; it stays pending, or it is owed nothing afterwards. -/
theorem Step.pending (step : Step link happening next) (tidy : link.Tidy count)
    (differs : happening.isSubmitted = true → id ≠ link.calls.nextId)
    (known : link.calls.shape? id = some shape)
    (failed : happening.isShut = true → next.calls.standing.error? = some error) :
    ∃ handed, Feeds id link next happening handed ∧
      ((next.calls.shape? id = some shape ∧ ∀ later,
          Happening.due id shape error (happening :: later) =
            handed ++ Happening.due id shape error later ∧
          Happening.pendingAfter id shape (happening :: later) = Happening.pendingAfter id shape later) ∨
        (next.calls.shape? id = none ∧ ∀ later,
          Happening.due id shape error (happening :: later) = handed ∧
          Happening.pendingAfter id shape (happening :: later) = none)) := by
  have stays (unended : happening.ends id = false) (unanswered : happening.answer? id shape = none) later :
      Happening.due id shape error (happening :: later) = [] ++ Happening.due id shape error later ∧
        Happening.pendingAfter id shape (happening :: later) = Happening.pendingAfter id shape later := by
    rw [Happening.due, Happening.pendingAfter_cons, unended, unanswered]
    exact ⟨rfl, rfl⟩
  have leaves (ended : happening.ends id = true) later :
      Happening.due id shape error (happening :: later) = happening.notice id error ∧
        Happening.pendingAfter id shape (happening :: later) = none := by
    rw [Happening.due, Happening.pendingAfter_cons, ended]
    exact ⟨rfl, rfl⟩
  have isLive : link.calls.standing = .live := by
    by_contra ended
    rw [shape?_of_empty (tidy.calls.closed ended)] at known
    contradiction
  cases step with
  | submitted other =>
    obtain ⟨entry, channel⟩ := register_other (differs rfl) other
    exact ⟨[], .unchanged rfl channel, .inl ⟨entry.trans known, stays rfl rfl⟩⟩
  | arrived thread envelope =>
    rw [arrive, calls_settle]
    by_cases mine : envelope.id = id
    · subst mine
      have answered : Happening.answer? envelope.id shape (.arrived envelope) =
          some (Calls.deliveryOf shape envelope.last envelope.response) := if_pos rfl
      rw [Calls.arrive_known known]
      refine ⟨[Calls.deliveryOf shape envelope.last envelope.response], .settle rfl ?_, ?_⟩
      · exact (Effect.handed_deliver ..).trans (if_pos rfl)
      · simp only [Happening.due, Happening.pendingAfter_cons, answered]
        by_cases final : (Calls.deliveryOf shape envelope.last envelope.response).isFinal = true
        · refine .inr ⟨?_, fun later => ?_⟩
          · rw [if_pos final, Calls.shape?_withdraw, if_pos rfl]
          · simp [final, Happening.ends]
        · refine .inl ⟨?_, fun later => ?_⟩
          · rw [if_neg final]
            exact known
          · simp [final, Happening.ends]
    · have unanswered : Happening.answer? id shape (.arrived envelope) = none := if_neg mine
      cases entry : link.calls.shape? envelope.id with
      | none =>
        rw [Calls.arrive_unknown entry]
        exact ⟨[], .settle rfl rfl, .inl ⟨known, stays rfl unanswered⟩⟩
      | some other =>
        rw [Calls.arrive_known entry]
        refine ⟨[], .settle rfl ?_, .inl ⟨?_, stays rfl unanswered⟩⟩
        · exact (Effect.handed_deliver ..).trans (if_neg mine)
        · dsimp only
          split
          · rw [Calls.shape?_withdraw, if_neg (Ne.symm mine)]
            exact known
          · exact known
  | forgotten other =>
    refine ⟨[], .dropped rfl channel?_dropChannel, ?_⟩
    have entry : (link.forget other).calls.shape? id = if id = other then none else some shape :=
      known ▸ Calls.shape?_withdraw
    by_cases same : id = other
    · rw [if_pos same] at entry
      exact .inr ⟨entry, leaves (by simp [Happening.ends, same])⟩
    · rw [if_neg same] at entry
      exact .inl ⟨entry, stays (by simp [Happening.ends, Ne.symm same]) rfl⟩
  | cancelled other =>
    rw [Link.cancel, calls_settle]
    by_cases mine : other = id
    · subst mine
      rw [Calls.cancel_known known]
      refine ⟨_, .settle rfl (Effect.handed_deliver ..), .inr ⟨?_, ?_⟩⟩
      · dsimp only
        rw [Calls.shape?_withdraw, if_pos rfl]
      · rw [if_pos rfl]
        exact leaves (by simp [Happening.ends])
    · have goesOn : Happening.ends id (.cancelled other) = false := by simp [Happening.ends, mine]
      cases entry : link.calls.shape? other with
      | none =>
        rw [Calls.cancel_unknown entry]
        exact ⟨[], .settle rfl rfl, .inl ⟨known, stays goesOn rfl⟩⟩
      | some others =>
        rw [Calls.cancel_known entry]
        refine ⟨[], .settle rfl ?_, .inl ⟨?_, stays goesOn rfl⟩⟩
        · exact (Effect.handed_deliver ..).trans (if_neg mine)
        · dsimp only
          rw [Calls.shape?_withdraw, if_neg (Ne.symm mine)]
          exact known
  | closing => exact ⟨[], .unchanged rfl rfl, .inl ⟨known, stays rfl rfl⟩⟩
  | shut thread cause =>
    have empty := (Calls.shut_live isLive cause).2.1
    have closed := (Calls.shut_live isLive cause).1
    have told := failed rfl
    rw [Link.shut, calls_settle] at told ⊢
    rw [closed] at told
    refine ⟨_, .settle rfl (Calls.handed_shut isLive tidy.calls.distinct cause),
      .inr ⟨shape?_of_empty empty, ?_⟩⟩
    rw [known, Option.some.inj told]
    exact leaves rfl
  | taken found held => exact ⟨[], .of_taken found held, .inl ⟨known, stays rfl rfl⟩⟩
  | released other => exact ⟨[], .dropped rfl channel?_dropChannel, .inl ⟨known, stays rfl rfl⟩⟩

/-- What the receiver of an id takes during a run, and what its channel still holds then, are what the
channel held and what the receiver is still owed. -/
structure Served (id : UInt64) (link : Link π) (happenings : List Happening) (last : Link π)
    (owed : List Delivery) : Prop where
  absent : link.channel? id = none →
    happenings.filterMap (Happening.take? id) = [] ∧ last.channel? id = none
  prefixed : ∀ channel, link.channel? id = some channel →
    happenings.filterMap (Happening.take? id) <+: channel.queue ++ owed
  whole : ∀ channel left, link.channel? id = some channel → last.channel? id = some left →
    happenings.filterMap (Happening.take? id) ++ left.queue = channel.queue ++ owed

theorem Served.step {handed owed : List Delivery} (feeds : Feeds id link next happening handed)
    (served : Served id next later last owed) :
    Served id link (happening :: later) last (handed ++ owed) := by
  cases feeds with
  | fed untaken channel_eq =>
    have same : (happening :: later).filterMap (Happening.take? id) =
      later.filterMap (Happening.take? id) := List.filterMap_cons_none untaken
    refine ⟨?_, ?_, ?_⟩
    · intro absent
      rw [absent] at channel_eq
      rw [same]
      exact served.absent channel_eq
    · intro channel found
      rw [found] at channel_eq
      rw [same, ← List.append_assoc]
      exact served.prefixed _ channel_eq
    · intro channel left found final
      rw [found] at channel_eq
      rw [same, ← List.append_assoc]
      exact served.whole _ left channel_eq final
  | gone untaken channel_eq =>
    obtain ⟨nothing, final⟩ := served.absent channel_eq
    rw [← List.filterMap_cons_none untaken] at nothing
    refine ⟨fun _ => ⟨nothing, final⟩, ?_, ?_⟩
    · intro channel _
      rw [nothing]
      exact List.nil_prefix
    · intro channel left _ kept
      rw [final] at kept
      contradiction
  | @taken channel rest delivery found held channel_eq =>
    have first : (Happening.taken id delivery :: later).filterMap (Happening.take? id) =
        delivery :: later.filterMap (Happening.take? id) := List.filterMap_cons_some (if_pos rfl)
    refine ⟨?_, ?_, ?_⟩
    · intro absent
      rw [absent] at found
      contradiction
    · intro other same
      obtain rfl : channel = other := Option.some.inj (found.symm.trans same)
      rw [first, held, List.nil_append, List.cons_append, List.cons_prefix_cons]
      exact ⟨rfl, served.prefixed _ channel_eq⟩
    · intro other left same final
      obtain rfl : channel = other := Option.some.inj (found.symm.trans same)
      rw [first, held, List.nil_append, List.cons_append, List.cons_append,
        served.whole _ left channel_eq final]

/-- Nothing but the end of a live connection changes how the connection stands. -/
theorem Step.standing_eq (step : Step link happening next)
    (stays : happening.isShut = true → ∃ cause, link.calls.standing = .closed cause) :
    next.calls.standing = link.calls.standing := by
  cases step with
  | submitted shape =>
    cases standing : link.calls.standing with
    | live => rw [register_live standing, Calls.register_live standing]; exact standing
    | closed cause => rw [register_closed standing, Calls.register_closed standing]; exact standing
  | arrived thread envelope =>
    rw [arrive, calls_settle]
    cases known : link.calls.shape? envelope.id with
    | none => rw [Calls.arrive_unknown known]
    | some shape =>
      rw [Calls.arrive_known known]
      dsimp only
      split <;> rfl
  | cancelled id =>
    rw [Link.cancel, calls_settle]
    cases known : link.calls.shape? id with
    | none => rw [Calls.cancel_unknown known]
    | some shape => rw [Calls.cancel_known known]; rfl
  | shut thread cause =>
    obtain ⟨first, standing⟩ := stays rfl
    rw [Link.shut, calls_settle, Calls.shut_closed standing]
  | _ => rfl

/-- The error that closed a connection stays. -/
theorem Step.closed_error (step : Step link happening next)
    (closed : link.calls.standing.error? = some error) : next.calls.standing.error? = some error := by
  rw [step.standing_eq]
  · exact closed
  · intro _
    cases standing : link.calls.standing with
    | live =>
      rw [standing] at closed
      contradiction
    | closed cause => exact ⟨cause, rfl⟩

theorem Run.closed_error (run : Run link later last) (closed : link.calls.standing.error? = some error) :
    last.calls.standing.error? = some error := by
  induction run with
  | refl => exact closed
  | aside calls_eq _ _ ih => exact ih (by rw [calls_eq]; exact closed)
  | step step _ ih => exact ih (step.closed_error closed)

/-- A connection that was shut is closed by some error. -/
theorem Step.shut_error (step : Step link happening next) (shuts : happening.isShut = true) :
    ∃ error, next.calls.standing.error? = some error := by
  cases step with
  | shut thread cause =>
    rw [Link.shut, calls_settle]
    cases standing : link.calls.standing with
    | live => exact ⟨_, (Calls.shut_live standing cause).1⟩
    | closed first =>
      rw [Calls.shut_closed standing, standing]
      exact ⟨_, rfl⟩
  | _ => contradiction

theorem Tidy.differs (tidy : link.Tidy count) (few : count < UInt64.size) (old : index < count) :
    UInt64.ofNat (index + 1) ≠ link.calls.nextId := by
  rw [tidy.calls.nextId_eq]
  exact Calls.ofNat_succ_ne old few

/-- A new id is only needed for a new call, and then there is one. -/
theorem Tidy.differs_of_step (tidy : link.Tidy count)
    (few : count + (later.countP Happening.isSubmitted + if happening.isSubmitted then 1 else 0) ≤ UInt64.size)
    (old : index < count) : happening.isSubmitted = true → UInt64.ofNat (index + 1) ≠ link.calls.nextId := by
  intro submits
  rw [if_pos submits] at few
  exact tidy.differs (by omega) old

theorem Served.refl (id : UInt64) (link : Link π) : Served id link [] link [] where
  absent absent := ⟨rfl, absent⟩
  prefixed _ _ := List.nil_prefix
  whole channel left found final := by
    obtain rfl : channel = left := Option.some.inj (found.symm.trans final)
    exact (List.append_nil _).symm

theorem Served.aside {owed : List Delivery} (channels_eq : next.channels = link.channels)
    (served : Served id next later last owed) : Served id link later last owed := by
  have same : next.channel? id = link.channel? id := by
    rw [channel?, channel?, channels_eq]
  obtain ⟨absent, prefixed, whole⟩ := served
  rw [same] at absent prefixed whole
  exact ⟨absent, prefixed, whole⟩

theorem Tidy.aside (tidy : link.Tidy count) (calls_eq : next.calls = link.calls)
    (channels_eq : next.channels = link.channels) : next.Tidy count :=
  ⟨by rw [calls_eq]; exact tidy.calls, by rw [channels_eq]; exact tidy.ids⟩

/-- A call that is not pending gets only what its channel holds. -/
theorem Run.idle (run : Run link later last) (tidy : link.Tidy count)
    (few : count + later.countP Happening.isSubmitted ≤ UInt64.size) (old : index < count)
    (idle : link.calls.shape? (UInt64.ofNat (index + 1)) = none) :
    last.calls.shape? (UInt64.ofNat (index + 1)) = none ∧
      Served (UInt64.ofNat (index + 1)) link later last [] := by
  induction run generalizing count with
  | refl => exact ⟨idle, .refl _ _⟩
  | aside calls_eq channels_eq rest ih =>
    obtain ⟨gone, served⟩ :=
      ih (tidy.aside calls_eq channels_eq) few old (by rw [calls_eq]; exact idle)
    exact ⟨gone, served.aside channels_eq⟩
  | step step rest ih =>
    rw [List.countP_cons] at few
    obtain ⟨still, feeds⟩ := step.idle tidy (tidy.differs_of_step few old) idle
    obtain ⟨gone, served⟩ := ih (step.tidy tidy (by omega)) (by omega) (by omega) still
    exact ⟨gone, served.step feeds⟩

/-- A pending call gets what its channel holds and what it is due. -/
theorem Run.pending (run : Run link later last) (tidy : link.Tidy count)
    (few : count + later.countP Happening.isSubmitted ≤ UInt64.size) (old : index < count)
    (known : link.calls.shape? (UInt64.ofNat (index + 1)) = some shape)
    (closed : last.calls.standing.error?.getD .connectionClosed = error) :
    last.calls.shape? (UInt64.ofNat (index + 1)) =
        Happening.pendingAfter (UInt64.ofNat (index + 1)) shape later ∧
      Served (UInt64.ofNat (index + 1)) link later last
        (Happening.due (UInt64.ofNat (index + 1)) shape error later) := by
  induction run generalizing count with
  | refl => exact ⟨known, .refl _ _⟩
  | aside calls_eq channels_eq rest ih =>
    obtain ⟨after, served⟩ :=
      ih (tidy.aside calls_eq channels_eq) few old (by rw [calls_eq]; exact known) closed
    exact ⟨after, served.aside channels_eq⟩
  | @step link next last happening later step rest ih =>
    rw [List.countP_cons] at few
    have failed : happening.isShut = true → next.calls.standing.error? = some error := by
      intro shuts
      obtain ⟨first, told⟩ := step.shut_error shuts
      rw [rest.closed_error told] at closed
      exact told.trans (congrArg some closed)
    obtain ⟨handed, feeds, fate⟩ := step.pending tidy (tidy.differs_of_step few old) known failed
    have kept := step.tidy tidy (by omega)
    rcases fate with ⟨entry, owes⟩ | ⟨entry, owes⟩
    · obtain ⟨after, served⟩ := ih kept (by omega) (by omega) entry closed
      rw [(owes later).1, (owes later).2]
      exact ⟨after, served.step feeds⟩
    · obtain ⟨gone, served⟩ := rest.idle kept (by omega) (by omega) entry
      have all := served.step feeds
      rw [List.append_nil] at all
      rw [(owes later).1, (owes later).2]
      exact ⟨gone, all⟩

/-- A live connection stays live until it is shut. -/
theorem Run.live_iff (run : Run link later last) (live : link.calls.standing = .live) :
    last.calls.standing = .live ↔ later.any Happening.isShut = false := by
  induction run with
  | refl => exact ⟨fun _ => rfl, fun _ => live⟩
  | aside calls_eq _ _ ih => exact ih (by rw [calls_eq]; exact live)
  | @step link next last happening later step rest ih =>
    rw [List.any_cons]
    cases shuts : happening.isShut with
    | false =>
      rw [Bool.false_or]
      have stays : next.calls.standing = link.calls.standing := step.standing_eq (by rw [shuts]; nofun)
      exact ih (stays.trans live)
    | true =>
      obtain ⟨error, told⟩ := step.shut_error shuts
      have closed := rest.closed_error told
      constructor
      · intro still
        rw [still] at closed
        contradiction
      · intro never
        contradiction

/-- The first thing that happened, after others that touch no call. -/
theorem Run.cons_cases (run : Run link (happening :: later) last) :
    ∃ here next, here.calls = link.calls ∧ here.channels = link.channels ∧
      Step here happening next ∧ Run next later last := by
  generalize all : happening :: later = whole at run
  induction run with
  | refl => contradiction
  | aside calls_eq channels_eq _ ih =>
    obtain ⟨here, next, sameCalls, sameChannels, step, rest⟩ := ih all
    exact ⟨here, next, sameCalls.trans calls_eq, sameChannels.trans channels_eq, step, rest⟩
  | step step rest =>
    obtain ⟨rfl, rfl⟩ := List.cons.inj all
    exact ⟨_, _, rfl, rfl, step, rest⟩

/-- Every call of a connection gets what is its own, whatever happens to the others. -/
structure Routed (happenings : List Happening) (last : Link π) : Prop where
  /-- The receiver of a call takes its deliveries in order, and its channel holds the rest of them. -/
  received : ∀ before shape later, happenings = before ++ .submitted shape :: later →
    before.any Happening.isShut = false →
    let id := UInt64.ofNat (before.countP Happening.isSubmitted + 1)
    let error := last.calls.standing.error?.getD .connectionClosed
    later.filterMap (Happening.take? id) <+: Happening.deliveries id shape error later ∧
      (∀ channel, last.channel? id = some channel →
        later.filterMap (Happening.take? id) ++ channel.queue =
          Happening.deliveries id shape error later) ∧
      last.calls.shape? id = Happening.pendingAfter id shape later
  /-- An id that was never given out is not pending. -/
  unknown : ∀ id, (∀ index < happenings.countP Happening.isSubmitted, id ≠ UInt64.ofNat (index + 1)) →
    last.calls.shape? id = none
  /-- A response to no pending call is noted, and changes nothing. -/
  dropped : ∀ thread envelope, last.calls.shape? envelope.id = none →
    last.arrive thread envelope = last.note thread (.responseDropped envelope.id)
  /-- What happens to other calls makes no difference to a call. -/
  independent : ∀ id shape error later others,
    later.filter (Happening.concerns id) = others.filter (Happening.concerns id) →
    Happening.deliveries id shape error later = Happening.deliveries id shape error others
  /-- An error that a server reports for one call is what this call gets. -/
  service : ∀ id last detail shape, Happening.answer? id shape (.arrived ⟨id, last, .error detail⟩) =
    some (.failure (.service detail))
  /-- The connection is closed by nothing but its end. -/
  isOpen_iff : last.isOpen = true ↔ happenings.any Happening.isShut = false

/-- Whatever happens on a new connection, and in whatever order, every call gets what is its own. Ids are
given out again only after all of them were used. -/
theorem Run.routed {start : Link π} {happenings : List Happening} (calls_eq : start.calls = {})
    (channels_eq : start.channels = [])
    (few : happenings.countP Happening.isSubmitted ≤ UInt64.size) (run : Run start happenings last) :
    Routed happenings last := by
  have fresh : start.Tidy 0 := by
    constructor
    · rw [calls_eq]
      exact ⟨rfl, fun _ member => absurd member List.not_mem_nil, List.nodup_nil, fun _ => rfl⟩
    · rw [channels_eq]
      exact fun _ member => absurd member List.not_mem_nil
  have live : start.calls.standing = .live := by rw [calls_eq]
  refine ⟨?_, ?_, ?_, ?_, ?_, ?_⟩
  · rintro before shape later rfl unshut
    obtain ⟨middle, earlier, run⟩ := run.split
    obtain ⟨here, next, calls_eq, channels_eq, step, rest⟩ := run.cons_cases
    rw [List.countP_append, List.countP_cons] at few
    change _ + (_ + 1) ≤ UInt64.size at few
    have tidy : here.Tidy (before.countP Happening.isSubmitted) := by
      have kept := earlier.tidy fresh (by omega)
      rw [Nat.zero_add] at kept
      exact kept.aside calls_eq channels_eq
    have isLive : here.calls.standing = .live := by
      rw [calls_eq]
      exact (earlier.live_iff live).mpr unshut
    have numbered := tidy.calls.nextId_eq
    have registered := step.tidy tidy (by change _ + 1 ≤ _; omega)
    change next.Tidy (_ + 1) at registered
    obtain ⟨known, held⟩ : next.calls.shape? here.calls.nextId = some shape ∧
        next.channel? here.calls.nextId = some {} := by
      cases step
      rw [register_live isLive, Calls.register_live isLive]
      exact ⟨lookup_append_new (tidy.calls.shape?_nextId (by omega)) _,
        lookup_append_new (tidy.channel?_nextId (by omega)) _⟩
    rw [numbered] at known held
    obtain ⟨after, served⟩ := rest.pending registered (by omega) (Nat.lt_succ_self _) known rfl
    simp only [Happening.deliveries_eq_due]
    exact ⟨served.prefixed _ held, fun channel kept => served.whole _ channel held kept, after⟩
  · intro id unknown
    have kept := run.tidy fresh (by omega)
    rw [Calls.shape?, List.lookup_eq_none_iff]
    intro entry member
    obtain ⟨index, before, same⟩ := kept.calls.ids entry member
    rw [bne_iff_ne, same]
    exact unknown index (by omega)
  · intro thread envelope unknown
    rw [arrive, Calls.arrive_unknown unknown]
    rfl
  · intro id shape error later others same
    rw [Happening.deliveries_eq_due, Happening.deliveries_eq_due, ← Happening.due_filter, same,
      Happening.due_filter]
  · intro id last detail shape
    exact if_pos rfl
  · rw [← run.live_iff live, isOpen, beq_iff_eq]

/-- A unary call that is refused by the server and answered once more, and a stream that is cancelled
after its first message, on a connection that is closed in the end. -/
def twoCalls : List Happening :=
  [.submitted .unary, .submitted .stream, .arrived ⟨2, false, .pong⟩,
    .arrived ⟨1, true, .error ⟨7, "refused", none⟩⟩, .arrived ⟨1, true, .ok⟩,
    .taken 2 (.message .pong false), .cancelled 2, .shut none]

theorem routed_twoCalls : ∃ last : Link Unit, Run { peer := () } twoCalls last ∧ Routed twoCalls last := by
  have run : ∃ last : Link Unit, Run { peer := () } twoCalls last :=
    ⟨_, .step (.submitted _) <| .step (.submitted _) <| .step (.arrived .reader _) <|
      .step (.arrived .reader _) <| .step (.arrived .reader _) <|
      .step (@Step.taken Unit _ 2 { queue := [.message .pong false] } (.message .pong false) [] rfl rfl) <|
      .step (.cancelled _) <| .step (.shut .caller _) .refl⟩
  obtain ⟨last, run⟩ := run
  exact ⟨last, run, Run.routed rfl rfl (by decide) run⟩

end Link

end PagedResults
