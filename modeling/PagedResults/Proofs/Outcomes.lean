import PagedResults.Proofs.Operations

/-! # One outcome for every call

A call is on the table from its registration to the first happening that ends it: its answer, or the last
message or an error of a stream; the end of its time, or a request that cannot be sent; its cancelling;
the closing of the connection. Each of them takes the call off the table and tells its receiver, unless its
caller knows already, and nothing that comes later finds the call again. The closing tells everybody who
is left, and the table of a closed connection stays empty.

One step of the table looks at the entry of one id alone, which gives the two cases of the induction: an
id that is not on the table and not given out comes to no end, and an id on the table comes to one.
-/

namespace PagedResults

/-- An error ends a stream, even where it is not marked as the last response. -/
def Response.isError : Response → Bool
  | error _ => true
  | _ => false

/-- How a call comes to its end. -/
inductive Ending where
  /-- Its receiver is handed a delivery behind which no other comes. -/
  | told (delivery : Delivery)
  /-- Its caller takes it off the table, since its time ran out or its request could not be sent. -/
  | forgotten
deriving DecidableEq, Repr

namespace Happening

/-- The happening ends a call that is on the table. -/
def terminates (id : UInt64) (shape : Shape) : Happening → Bool
  | arrived envelope =>
      envelope.id = id && (shape = .unary || envelope.last || envelope.response.isError)
  | forgotten other | cancelled other => other = id
  | shut _ => true
  | _ => false

/-- How it ends the call, where `error` closed the connection. -/
def ending (id : UInt64) (shape : Shape) (error : Error) : Happening → Ending
  | arrived envelope => .told (Calls.deliveryOf shape envelope.last envelope.response)
  | cancelled _ => .told (.failure (.interrupted s!"request {id} cancelled"))
  | shut _ => .told (.failure error)
  | _ => .forgotten

end Happening

namespace Calls

/-- What a happening does to the table, and what it brings about. -/
def step : Happening → Calls → Calls × List Effect
  | .submitted shape, calls => ((calls.register shape).2, [])
  | .arrived envelope, calls => calls.arrive envelope
  | .forgotten id, calls => (calls.withdraw id, [])
  | .cancelled id, calls => (calls.cancel id).2
  | .closing, calls => ({ calls with closing := true }, [])
  | .shut cause, calls => calls.shut cause
  | .taken _ _, calls | .released _, calls => (calls, [])

/-- The table after all that happened. -/
def after (happenings : List Happening) (calls : Calls) : Calls :=
  happenings.foldl (fun calls happening => (calls.step happening).1) calls

/-- The end to which the caller of an id brings the call. -/
def withdrawn (id : UInt64) : Happening → Calls → List Ending
  | .forgotten other, calls =>
      if other = id then ((calls.shape? id).map fun _ => .forgotten).toList else []
  | _, _ => []

/-- The ends to which a happening brings the call of an id: the final deliveries that its receiver is
handed, and its removal by its caller. -/
def ended (id : UInt64) (happening : Happening) (calls : Calls) : List Ending :=
  ((Effect.handed id (calls.step happening).2).filter Delivery.isFinal).map .told ++
    calls.withdrawn id happening

/-- All ends to which the call of an id comes, one happening after the other. -/
def endings (id : UInt64) : List Happening → Calls → List Ending
  | [], _ => []
  | happening :: later, calls => calls.ended id happening ++ (calls.step happening).1.endings id later

variable {calls : Calls} {happening : Happening} {id : UInt64} {shape : Shape} {error : Error}

private theorem deliveryOf_isFinal (shape : Shape) (last : Bool) (response : Response) :
    (deliveryOf shape last response).isFinal = (shape = .unary || last || response.isError) := by
  cases response with
  | error detail => simp [deliveryOf, Delivery.isFinal, Response.isError]
  | _ => simp [deliveryOf, Delivery.isFinal, Response.isError, Bool.or_comm]

/-- A response is handed to the receiver of its own id, if the id is on the table. -/
theorem handed_arrive (envelope : ResponseEnvelope) : Effect.handed id (calls.arrive envelope).2 =
    if envelope.id = id then
      ((calls.shape? id).map fun shape => deliveryOf shape envelope.last envelope.response).toList
    else [] := by
  cases known : calls.shape? envelope.id with
  | none =>
    rw [arrive_unknown known]
    split
    · next mine =>
      rw [← mine, known]
      rfl
    · rfl
  | some shape =>
    rw [arrive_known known]
    refine (Effect.handed_deliver ..).trans ?_
    split
    · next mine =>
      rw [← mine, known]
      rfl
    · rfl

/-- Who is on the table learns that the call is cancelled. -/
theorem handed_cancel (other : UInt64) : Effect.handed id (calls.cancel other).2.2 =
    if other = id then
      ((calls.shape? id).map fun _ => .failure (.interrupted s!"request {id} cancelled")).toList
    else [] := by
  cases known : calls.shape? other with
  | none =>
    rw [cancel_unknown known]
    split
    · next mine =>
      rw [← mine, known]
      rfl
    · rfl
  | some shape =>
    rw [cancel_known known, Effect.handed_deliver]
    split
    · next mine =>
      rw [← mine, known]
      rfl
    · rfl

/-- A call that is not on the table comes to no end. -/
theorem ended_idle (distinct : (calls.pending.map (·.1)).Nodup) (idle : calls.shape? id = none) :
    calls.ended id happening = [] := by
  cases happening with
  | arrived envelope =>
    rw [ended, step, handed_arrive, idle, Option.map_none, Option.toList_none, ite_self]
    rfl
  | forgotten other =>
    rw [ended, withdrawn, idle, Option.map_none, Option.toList_none, ite_self]
    rfl
  | cancelled other =>
    rw [ended, step, handed_cancel, idle, Option.map_none, Option.toList_none, ite_self]
    rfl
  | shut cause =>
    rw [ended, step]
    cases standing : calls.standing with
    | closed first =>
      rw [shut_closed standing]
      rfl
    | live =>
      rw [handed_shut standing distinct, idle]
      rfl
  | _ => rfl

/-- A call on the table comes to an end by the happenings that are said to end it, and by no other. -/
theorem ended_pending (live : calls.standing = .live) (distinct : (calls.pending.map (·.1)).Nodup)
    (known : calls.shape? id = some shape)
    (failed : happening.isShut = true → (calls.step happening).1.standing.error? = some error) :
    calls.ended id happening =
      if happening.terminates id shape then [happening.ending id shape error] else [] := by
  cases happening with
  | arrived envelope =>
    rw [ended, step, handed_arrive, known, Happening.terminates]
    by_cases mine : envelope.id = id
    · rw [if_pos mine, decide_eq_true mine, Bool.true_and, ← deliveryOf_isFinal]
      simp only [Option.map_some, Option.toList_some, List.filter_cons, List.filter_nil]
      split <;> rfl
    · rw [if_neg mine, decide_eq_false mine]
      rfl
  | forgotten other =>
    rw [ended, withdrawn, known, Happening.terminates]
    by_cases mine : other = id
    · rw [if_pos mine, decide_eq_true mine]
      rfl
    · rw [if_neg mine, decide_eq_false mine]
      rfl
  | cancelled other =>
    rw [ended, step, handed_cancel, known, Happening.terminates]
    by_cases mine : other = id
    · rw [if_pos mine, decide_eq_true mine]
      rfl
    · rw [if_neg mine, decide_eq_false mine]
      rfl
  | shut cause =>
    have told : some (calls.closingError cause) = some error :=
      (shut_live live cause).1.symm.trans (failed rfl)
    rw [ended, step, handed_shut live distinct, known, Option.some.inj told]
    rfl
  | _ => rfl

end Calls

/-- After all that happened a call is on the table if nothing of it ended the call. -/
theorem Happening.pendingAfter_eq {id : UInt64} {shape : Shape} (later : List Happening) :
    pendingAfter id shape later = if later.any (terminates id shape) then none else some shape := by
  induction later with
  | nil => rfl
  | cons happening later ih =>
    rw [pendingAfter_cons, List.any_cons, ih]
    cases happening with
    | arrived envelope =>
      by_cases mine : envelope.id = id
      · have answered : answer? id shape (.arrived envelope) =
            some (Calls.deliveryOf shape envelope.last envelope.response) := if_pos mine
        rw [answered]
        simp only [ends, terminates, mine, ← Calls.deliveryOf_isFinal, decide_true, Bool.true_and,
          Bool.false_eq_true, if_false]
        cases (Calls.deliveryOf shape envelope.last envelope.response).isFinal <;> simp
      · have unanswered : answer? id shape (.arrived envelope) = none := if_neg mine
        rw [unanswered]
        simp [ends, terminates, mine]
    | forgotten other =>
      by_cases mine : other = id <;> simp [ends, terminates, answer?, mine]
    | cancelled other =>
      by_cases mine : other = id <;> simp [ends, terminates, answer?, mine]
    | shut cause => simp [ends, terminates]
    | _ => simp [ends, terminates, answer?]

/-- Every number below that of the submissions is the number of those before one of them. -/
theorem Happening.exists_submitted {happenings : List Happening} {index : Nat}
    (small : index < happenings.countP isSubmitted) :
    ∃ before shape later, happenings = before ++ .submitted shape :: later ∧
      before.countP isSubmitted = index := by
  induction happenings generalizing index with
  | nil => exact absurd small (Nat.not_lt_zero _)
  | cons happening rest ih =>
    rw [List.countP_cons] at small
    cases submits : happening.isSubmitted with
    | false =>
      rw [submits] at small
      obtain ⟨before, shape, later, rfl, rfl⟩ := ih small
      exact ⟨happening :: before, shape, later, rfl, by rw [List.countP_cons, submits]; rfl⟩
    | true =>
      rw [submits, if_pos rfl] at small
      cases index with
      | zero =>
        cases happening with
        | submitted shape => exact ⟨[], shape, rest, rfl, rfl⟩
        | _ => contradiction
      | succ index =>
        obtain ⟨before, shape, later, rfl, rfl⟩ := ih (Nat.lt_of_succ_lt_succ small)
        exact ⟨happening :: before, shape, later, rfl, by rw [List.countP_cons, submits]; rfl⟩

/-- Two submissions with equally many before them are the same. -/
theorem Happening.before_eq {before later other others : List Happening} {shape otherShape : Shape}
    (same : before ++ .submitted shape :: later = other ++ .submitted otherShape :: others)
    (count_eq : before.countP isSubmitted = other.countP isSubmitted) : before = other := by
  rcases List.append_eq_append_iff.mp same with ⟨between, rfl, rest⟩ | ⟨between, rfl, rest⟩
  · cases between with
    | nil => exact (List.append_nil _).symm
    | cons first between =>
      obtain ⟨rfl, -⟩ := List.cons.inj rest
      rw [List.countP_append, List.countP_cons] at count_eq
      change _ = _ + (_ + 1) at count_eq
      omega
  · cases between with
    | nil => exact List.append_nil _
    | cons first between =>
      obtain ⟨rfl, -⟩ := List.cons.inj rest
      rw [List.countP_append, List.countP_cons] at count_eq
      change _ + (_ + 1) = _ at count_eq
      omega

private theorem Calls.mem_pending_iff {calls : Calls} {id : UInt64} {shape : Shape}
    (distinct : (calls.pending.map (·.1)).Nodup) :
    (id, shape) ∈ calls.pending ↔ calls.shape? id = some shape := by
  rw [shape?, List.lookup_eq_some_iff]
  constructor
  · intro member
    obtain ⟨front, back, split⟩ := List.append_of_mem member
    refine ⟨front, back, split, fun entry earlier => bne_iff_ne.mpr ?_⟩
    rintro rfl
    rw [split, List.map_append, List.nodup_append] at distinct
    exact distinct.2.2 entry.1 (List.mem_map_of_mem earlier) entry.1 (List.mem_cons_self ..) rfl
  · rintro ⟨front, back, split, -⟩
    rw [split]
    exact List.mem_append_right _ (List.mem_cons_self ..)

namespace Link

variable {π : Type} {link next last : Link π} {happening : Happening} {before later : List Happening}
  {id : UInt64} {shape : Shape} {error : Error} {count index : Nat}

/-- Only a live connection has calls on its table. -/
theorem Tidy.live (tidy : link.Tidy count) (known : link.calls.shape? id = some shape) :
    link.calls.standing = .live := by
  by_contra ended
  rw [shape?_of_empty (tidy.calls.closed ended)] at known
  contradiction

/-- Of the parts of a connection a step of the table looks at the table alone. -/
theorem Step.calls_eq (step : Step link happening next) :
    next.calls = (link.calls.step happening).1 := by
  cases step with
  | submitted shape =>
    cases standing : link.calls.standing with
    | live => rw [register_live standing, Calls.step]
    | closed cause => rw [register_closed standing, Calls.step]
  | arrived thread envelope => exact calls_settle ..
  | cancelled id => exact calls_settle ..
  | shut thread cause => exact calls_settle ..
  | _ => rfl

/-- What a step of the table brings about is handed in at the channels. -/
theorem Step.handed (step : Step link happening next) (brings : (link.calls.step happening).2 ≠ []) :
    next.channel? id =
      (link.channel? id).map (Channel.pushAll (Effect.handed id (link.calls.step happening).2)) := by
  cases step with
  | arrived thread envelope => exact channel?_settle ..
  | cancelled id => exact channel?_settle ..
  | shut thread cause => exact channel?_settle ..
  | _ => exact absurd rfl brings

/-- Whoever is on the table when a live connection is closed is told why. -/
theorem Step.told {cause : Option Error} (step : Step link (.shut cause) next) (tidy : link.Tidy count)
    (live : link.calls.standing = .live) (listed : (id, shape) ∈ link.calls.pending) :
    next.channel? id = (link.channel? id).map
      (Channel.pushAll [.failure (link.calls.closingError cause)]) := by
  have known := (Calls.mem_pending_iff tidy.calls.distinct).mp listed
  have handed : Effect.handed id (link.calls.shut cause).2 = _ :=
    Calls.handed_shut live tidy.calls.distinct cause
  rw [known] at handed
  have brings : (link.calls.step (.shut cause)).2 ≠ [] := by
    intro nothing
    rw [Calls.step] at nothing
    rw [nothing] at handed
    contradiction
  rw [step.handed brings, Calls.step, handed]
  rfl

theorem Run.calls_eq (run : Run link later last) : last.calls = link.calls.after later := by
  induction run with
  | refl => rfl
  | aside calls_eq _ _ ih => rw [ih, calls_eq]
  | step step _ ih => rw [ih, step.calls_eq, Calls.after, Calls.after, List.foldl_cons]

/-- What a run brings to its end, it brings there before or behind any moment. -/
theorem Run.endings_append (run : Run link before next) :
    link.calls.endings id (before ++ later) =
      link.calls.endings id before ++ next.calls.endings id later := by
  induction run with
  | refl => rfl
  | aside calls_eq _ _ ih =>
    rw [calls_eq] at ih
    exact ih
  | step step _ ih =>
    rw [List.cons_append, Calls.endings, Calls.endings, ← step.calls_eq, ih, List.append_assoc]

/-- A call that is not on the table, and is not given out, comes to no end. -/
theorem Run.endings_idle (run : Run link later last) (tidy : link.Tidy count)
    (few : count + later.countP Happening.isSubmitted ≤ UInt64.size)
    (others : ∀ index ≥ count, index < count + later.countP Happening.isSubmitted →
      id ≠ UInt64.ofNat (index + 1))
    (idle : link.calls.shape? id = none) : link.calls.endings id later = [] := by
  induction run generalizing count with
  | refl => rfl
  | aside calls_eq channels_eq _ ih =>
    rw [← calls_eq] at idle ⊢
    exact ih (tidy.aside calls_eq channels_eq) few others idle
  | @step link next last happening later step rest ih =>
    rw [List.countP_cons] at few others
    have differs : happening.isSubmitted = true → id ≠ link.calls.nextId := by
      intro submits
      rw [tidy.calls.nextId_eq]
      rw [if_pos submits] at others
      exact others count (Nat.le_refl _) (by omega)
    have still := (step.idle tidy differs idle).1
    have nothing := ih (step.tidy tidy (by omega)) (by omega)
      (fun index above below => others index (by omega) (by omega)) still
    rw [Calls.endings, ← step.calls_eq, nothing, Calls.ended_idle tidy.calls.distinct idle]
    rfl

/-- A call on the table comes to the one end that the first happening brings which ends it. -/
theorem Run.endings_pending (run : Run link later last) (tidy : link.Tidy count)
    (few : count + later.countP Happening.isSubmitted ≤ UInt64.size) (old : index < count)
    (known : link.calls.shape? (UInt64.ofNat (index + 1)) = some shape)
    (closed : last.calls.standing.error?.getD .connectionClosed = error) :
    link.calls.endings (UInt64.ofNat (index + 1)) later =
      ((later.find? (Happening.terminates (UInt64.ofNat (index + 1)) shape)).map
        (Happening.ending (UInt64.ofNat (index + 1)) shape error)).toList := by
  induction run generalizing count with
  | refl => rfl
  | aside calls_eq channels_eq _ ih =>
    rw [← calls_eq] at known ⊢
    exact ih (tidy.aside calls_eq channels_eq) few old known closed
  | @step link next last happening later step rest ih =>
    rw [List.countP_cons] at few
    have live := tidy.live known
    have failed : happening.isShut = true → (link.calls.step happening).1.standing.error? = some error := by
      intro shuts
      obtain ⟨first, told⟩ := step.shut_error shuts
      rw [rest.closed_error told] at closed
      rw [← step.calls_eq]
      exact told.trans (congrArg some closed)
    have kept := step.tidy tidy (by omega)
    have single : Run link [happening] next := .step step .refl
    have entry := (single.pending tidy (by rw [List.countP_singleton]; omega) old known rfl).1
    rw [Happening.pendingAfter_eq, List.any_cons, List.any_nil, Bool.or_false] at entry
    rw [Calls.endings, ← step.calls_eq, Calls.ended_pending live tidy.calls.distinct known failed,
      List.find?_cons]
    cases ended : happening.terminates (UInt64.ofNat (index + 1)) shape with
    | true =>
      rw [ended] at entry
      rw [rest.endings_idle kept (by omega) (fun other above below => ?_) entry]
      · rfl
      · exact Calls.ofNat_succ_ne (by omega) (by omega)
    | false =>
      rw [ended] at entry
      exact ih kept (by omega) (by omega) entry closed

/-- A connection that is closed stays closed, and its table stays empty. -/
theorem Step.empty (step : Step link happening next) (closed : link.calls.standing ≠ .live)
    (empty : link.calls.pending = []) : next.calls.standing ≠ .live ∧ next.calls.pending = [] := by
  have unknown (id : UInt64) : link.calls.shape? id = none := shape?_of_empty empty
  cases standing : link.calls.standing with
  | live => exact absurd standing closed
  | closed cause =>
    have same : next.calls.standing = link.calls.standing := step.standing_eq fun _ => ⟨cause, standing⟩
    refine ⟨same.symm ▸ closed, ?_⟩
    rw [step.calls_eq]
    cases happening with
    | submitted shape =>
      rw [Calls.step, Calls.register_closed standing]
      exact empty
    | arrived envelope =>
      rw [Calls.step, Calls.arrive_unknown (unknown envelope.id)]
      exact empty
    | forgotten id =>
      rw [Calls.step, Calls.withdraw, empty]
      rfl
    | cancelled id =>
      rw [Calls.step, Calls.cancel_unknown (unknown id)]
      exact empty
    | shut cause =>
      rw [Calls.step, Calls.shut_closed standing]
      exact empty
    | _ => exact empty

theorem Run.empty (run : Run link later last) (closed : link.calls.standing ≠ .live)
    (empty : link.calls.pending = []) : last.calls.standing ≠ .live ∧ last.calls.pending = [] := by
  induction run with
  | refl => exact ⟨closed, empty⟩
  | aside calls_eq _ _ ih => exact ih (by rw [calls_eq]; exact closed) (by rw [calls_eq]; exact empty)
  | step step _ ih =>
    obtain ⟨stillClosed, stillEmpty⟩ := step.empty closed empty
    exact ih stillClosed stillEmpty

/-! ## The books of a connection -/

/-- A connection on which nothing happened so far. -/
structure New (link : Link π) : Prop where
  calls_eq : link.calls = {}
  channels_eq : link.channels = []

/-- When `before` has happened, a call of this shape is registered under `id`. -/
def Registers (start : Link π) (before : List Happening) (shape : Shape) (id : UInt64) : Prop :=
  ∃ here, Run start before here ∧ (here.register shape).1 = .ok id

/-- The books of a connection, from its start to its last state. -/
structure Accounted (start : Link π) (happenings : List Happening) (last : Link π) : Prop where
  /-- Ids are the numbers of the submissions, from 1, as long as the connection is not closed. -/
  registers_iff : ∀ before shape later id, happenings = before ++ .submitted shape :: later →
    (Registers start before shape id ↔
      id.toNat = before.countP Happening.isSubmitted + 1 ∧ before.any Happening.isShut = false)
  /-- No id is given out twice. -/
  unique : ∀ before shape later other otherShape others id,
    happenings = before ++ .submitted shape :: later → Registers start before shape id →
    happenings = other ++ .submitted otherShape :: others → Registers start other otherShape id →
    before = other
  /-- The table holds the calls that were registered and not ended by anything since then. -/
  pending_iff : ∀ id shape, (id, shape) ∈ last.calls.pending ↔
    ∃ before later, happenings = before ++ .submitted shape :: later ∧
      Registers start before shape id ∧ later.any (Happening.terminates id shape) = false
  distinct : (last.calls.pending.map (·.1)).Nodup
  /-- A call comes to one end, by the first happening that ends it, or to none so far. -/
  endings_eq : ∀ before shape later id, happenings = before ++ .submitted shape :: later →
    Registers start before shape id →
    start.calls.endings id happenings =
      ((later.find? (Happening.terminates id shape)).map (Happening.ending id shape
        (last.calls.standing.error?.getD .connectionClosed))).toList
  /-- Whoever is on the table when the connection closes is told the error that closes it. -/
  closing : ∀ before cause later here next, happenings = before ++ .shut cause :: later →
    Run start before here → here.isOpen = true → Step here (.shut cause) next →
    last.calls.standing.error? = some (here.calls.closingError cause) ∧
      ∀ id shape, (id, shape) ∈ here.calls.pending →
        next.channel? id = (here.channel? id).map
          (Channel.pushAll [.failure (here.calls.closingError cause)]) ∧
        start.calls.endings id happenings = [.told (.failure (here.calls.closingError cause))]
  /-- The table is empty as soon as the connection is closed, and from then on. -/
  closed : last.isOpen = false → last.calls.pending = [] ∧
    ∀ later final, Run last later final → final.isOpen = false ∧ final.calls.pending = []

theorem isOpen_eq_true : link.isOpen = true ↔ link.calls.standing = .live := by
  rw [isOpen, beq_iff_eq]

theorem isOpen_eq_false : link.isOpen = false ↔ link.calls.standing ≠ .live := by
  rw [isOpen, beq_eq_false_iff_ne]

theorem New.live (new : New link) : link.calls.standing = .live := by rw [new.calls_eq]

theorem New.tidy (new : New link) : link.Tidy 0 := by
  constructor
  · rw [new.calls_eq]
    exact ⟨rfl, fun _ member => absurd member List.not_mem_nil, List.nodup_nil, fun _ => rfl⟩
  · rw [new.channels_eq]
    exact fun _ member => absurd member List.not_mem_nil

theorem New.after (new : New link) (run : Run link before next)
    (few : before.countP Happening.isSubmitted ≤ UInt64.size) :
    next.Tidy (before.countP Happening.isSubmitted) := by
  have kept := run.tidy new.tidy (by omega)
  rw [Nat.zero_add] at kept
  exact kept

private theorem New.register_iff (new : New link) (run : Run link before next)
    (few : before.countP Happening.isSubmitted + 1 < UInt64.size) :
    (next.register shape).1 = .ok id ↔
      id = UInt64.ofNat (before.countP Happening.isSubmitted + 1) ∧
        before.any Happening.isShut = false := by
  rw [← run.live_iff new.live, ← (new.after run (by omega)).calls.nextId_eq]
  cases standing : next.calls.standing with
  | live =>
    rw [register_live standing]
    exact ⟨fun same => ⟨(Except.ok.inj same).symm, rfl⟩, fun same => congrArg _ same.1.symm⟩
  | closed cause =>
    rw [register_closed standing]
    exact ⟨nofun, nofun⟩

/-- The number of a call is its id. -/
theorem toNat_eq_iff (few : count + 1 < UInt64.size) :
    id.toNat = count + 1 ↔ id = UInt64.ofNat (count + 1) := by
  rw [← UInt64.toNat_inj, UInt64.toNat_ofNat_of_lt' few]

/-- A call that is registered is on the table, under an id that no other call has. -/
theorem New.registered (new : New link) (run : Run link (before ++ .submitted shape :: later) last)
    (few : before.countP Happening.isSubmitted + 1 < UInt64.size)
    (open_ : before.any Happening.isShut = false) :
    ∃ here next, Run link before here ∧ Step here (.submitted shape) next ∧ Run next later last ∧
      here.calls.shape? (UInt64.ofNat (before.countP Happening.isSubmitted + 1)) = none ∧
      next.Tidy (before.countP Happening.isSubmitted + 1) ∧
      next.calls.shape? (UInt64.ofNat (before.countP Happening.isSubmitted + 1)) = some shape := by
  obtain ⟨middle, earlier, run⟩ := run.split
  obtain ⟨here, next, calls_eq, channels_eq, step, rest⟩ := run.cons_cases
  have begun : Run link before here := by
    have same : Run middle [] here := .of_eq calls_eq channels_eq
    have both := earlier.trans same
    rw [List.append_nil] at both
    exact both
  have tidy := new.after begun (by omega)
  have absent := tidy.calls.shape?_nextId (by omega)
  have kept := step.tidy tidy (by change _ + 1 ≤ _; omega)
  rw [← tidy.calls.nextId_eq]
  refine ⟨here, next, begun, step, rest, absent, kept, ?_⟩
  have live := (begun.live_iff new.live).mpr open_
  rw [step.calls_eq, Calls.step, Calls.register_live live]
  exact lookup_append_new absent _

section Books

variable {start here : Link π} {happenings : List Happening}

private theorem New.registers_iff (new : New start) (run : Run start happenings last)
    (few : happenings.countP Happening.isSubmitted < UInt64.size)
    (split : happenings = before ++ .submitted shape :: later) :
    Registers start before shape id ↔
      id.toNat = before.countP Happening.isSubmitted + 1 ∧ before.any Happening.isShut = false := by
  subst split
  rw [List.countP_append, List.countP_cons] at few
  change _ + (_ + 1) < UInt64.size at few
  rw [toNat_eq_iff (by omega)]
  constructor
  · rintro ⟨here, earlier, given⟩
    exact (new.register_iff earlier (by omega)).mp given
  · intro numbered
    obtain ⟨here, earlier, -⟩ := run.split
    exact ⟨here, earlier, (new.register_iff earlier (by omega)).mpr numbered⟩

private theorem New.pending_iff (new : New start) (run : Run start happenings last)
    (few : happenings.countP Happening.isSubmitted < UInt64.size) :
    (id, shape) ∈ last.calls.pending ↔
      ∃ before later, happenings = before ++ .submitted shape :: later ∧
        Registers start before shape id ∧ later.any (Happening.terminates id shape) = false := by
  have tidy := new.after run (by omega)
  have entry {before later : List Happening} {other : Shape}
      (split : happenings = before ++ .submitted other :: later)
      (unshut : before.any Happening.isShut = false)
      (numbered : id = UInt64.ofNat (before.countP Happening.isSubmitted + 1)) :
      last.calls.shape? id = if later.any (Happening.terminates id other) then none else some other := by
    subst split numbered
    rw [List.countP_append, List.countP_cons] at few
    change _ + (_ + 1) < UInt64.size at few
    obtain ⟨here, next, -, -, rest, -, kept, known⟩ := new.registered run (by omega) unshut
    rw [← Happening.pendingAfter_eq]
    exact (rest.pending kept (by omega) (Nat.lt_succ_self _) known rfl).1
  rw [Calls.mem_pending_iff tidy.calls.distinct]
  constructor
  · intro known
    have listed := (Calls.mem_pending_iff tidy.calls.distinct).mpr known
    obtain ⟨index, small, numbered⟩ := tidy.calls.ids _ listed
    obtain ⟨before, other, later, split, rfl⟩ := Happening.exists_submitted small
    have unshut : before.any Happening.isShut = false := by
      have never := (run.live_iff new.live).mp (tidy.live known)
      rw [split, List.any_append, Bool.or_eq_false_iff] at never
      exact never.1
    have stays := entry split unshut numbered
    rw [known] at stays
    split at stays
    · contradiction
    · next unended =>
      obtain rfl : shape = other := Option.some.inj stays
      have small : before.countP Happening.isSubmitted + 1 < UInt64.size := by omega
      refine ⟨before, later, split, ?_, Bool.eq_false_iff.mpr unended⟩
      exact (new.registers_iff run few split).mpr ⟨(toNat_eq_iff small).mpr numbered, unshut⟩
  · rintro ⟨before, later, split, registers, unended⟩
    obtain ⟨numbered, unshut⟩ := (new.registers_iff run few split).mp registers
    have small : before.countP Happening.isSubmitted + 1 < UInt64.size := numbered ▸ id.toNat_lt
    rw [entry split unshut ((toNat_eq_iff small).mp numbered), unended]
    rfl

private theorem New.endings_eq (new : New start) (run : Run start happenings last)
    (few : happenings.countP Happening.isSubmitted < UInt64.size)
    (split : happenings = before ++ .submitted shape :: later) (registers : Registers start before shape id) :
    start.calls.endings id happenings =
      ((later.find? (Happening.terminates id shape)).map (Happening.ending id shape
        (last.calls.standing.error?.getD .connectionClosed))).toList := by
  obtain ⟨numbered, unshut⟩ := (new.registers_iff run few split).mp registers
  subst split
  rw [List.countP_append, List.countP_cons] at few
  change _ + (_ + 1) < UInt64.size at few
  obtain rfl := (toNat_eq_iff (by omega)).mp numbered
  obtain ⟨here, next, earlier, step, rest, absent, kept, known⟩ := new.registered run (by omega) unshut
  have silent : start.calls.endings (UInt64.ofNat (before.countP Happening.isSubmitted + 1)) before = [] := by
    refine earlier.endings_idle new.tidy (by omega) (fun index _ below => ?_) ?_
    · exact (Calls.ofNat_succ_ne (by omega) (by omega)).symm
    · rw [new.calls_eq]
      rfl
  have nothing : here.calls.ended (UInt64.ofNat (before.countP Happening.isSubmitted + 1))
      (.submitted shape) = [] :=
    Calls.ended_idle (new.after earlier (by omega)).calls.distinct absent
  rw [earlier.endings_append, silent, Calls.endings, nothing, ← step.calls_eq,
    rest.endings_pending kept (by omega) (Nat.lt_succ_self _) known rfl]
  rfl

theorem New.closing (new : New start) {cause : Option Error}
    (run : Run start (before ++ .shut cause :: later) last)
    (few : (before ++ .shut cause :: later).countP Happening.isSubmitted < UInt64.size)
    (earlier : Run start before here) (isLive : here.calls.standing = .live)
    (step : Step here (.shut cause) next) :
    last.calls.standing.error? = some (here.calls.closingError cause) ∧
      ∀ id shape, (id, shape) ∈ here.calls.pending →
        next.channel? id = (here.channel? id).map
          (Channel.pushAll [.failure (here.calls.closingError cause)]) ∧
        start.calls.endings id (before ++ .shut cause :: later) =
          [.told (.failure (here.calls.closingError cause))] := by
  obtain ⟨middle, start_before, run_later⟩ := run.split
  obtain ⟨there, following, same, -, shuts, rest⟩ := run_later.cons_cases
  have calls_eq : there.calls = here.calls := by rw [same, start_before.calls_eq, earlier.calls_eq]
  have error_eq : last.calls.standing.error? = some (here.calls.closingError cause) := by
    apply rest.closed_error
    rw [shuts.calls_eq, calls_eq]
    exact (Calls.shut_live isLive cause).1
  refine ⟨error_eq, ?_⟩
  rw [List.countP_append] at few
  have tidy := new.after earlier (by omega)
  intro id shape listed
  constructor
  · exact step.told tidy isLive listed
  · obtain ⟨first, between, split, registers, unended⟩ := (new.pending_iff earlier (by omega)).mp listed
    have whole : before ++ .shut cause :: later =
        first ++ .submitted shape :: (between ++ .shut cause :: later) := by
      rw [split, List.append_assoc, List.cons_append]
    have nothing : between.find? (Happening.terminates id shape) = none := by
      rw [List.find?_eq_none]
      rwa [List.any_eq_false] at unended
    have now : (Happening.shut cause).terminates id shape = true := rfl
    rw [new.endings_eq run (by rw [List.countP_append]; exact few) whole registers, error_eq,
      List.find?_append, nothing, List.find?_cons_of_pos now]
    rfl

end Books

/-- On a new connection, and whatever happens on it in whatever order, every call comes to one end at
most, and none is left behind. Only as many ids are there as words of 64 bits. -/
theorem Run.accounted {start : Link π} {happenings : List Happening} (calls_eq : start.calls = {})
    (channels_eq : start.channels = []) (few : happenings.countP Happening.isSubmitted < UInt64.size)
    (run : Run start happenings last) : Accounted start happenings last := by
  have new : New start := ⟨calls_eq, channels_eq⟩
  have tidy := new.after run (Nat.le_of_lt few)
  refine ⟨?_, ?_, ?_, tidy.calls.distinct, ?_, ?_, ?_⟩
  · intro before shape later id split
    exact new.registers_iff run few split
  · intro before shape later other otherShape others id split registers split' registers'
    obtain ⟨numbered, -⟩ := (new.registers_iff run few split).mp registers
    obtain ⟨numbered', -⟩ := (new.registers_iff run few split').mp registers'
    exact Happening.before_eq (split.symm.trans split') (Nat.succ.inj (numbered.symm.trans numbered'))
  · intro id shape
    exact new.pending_iff run few
  · intro before shape later id split registers
    exact new.endings_eq run few split registers
  · rintro before cause later here next rfl earlier isLive step
    exact new.closing run few earlier (isOpen_eq_true.mp isLive) step
  · intro isClosed
    have closed := isOpen_eq_false.mp isClosed
    have empty := tidy.calls.closed closed
    refine ⟨empty, fun later final more => ?_⟩
    obtain ⟨still, nobody⟩ := more.empty closed empty
    exact ⟨isOpen_eq_false.mpr still, nobody⟩

/-- A call that is answered, a stream that is not at its end, and a call whose request cannot be sent, so
that the connection is closed. -/
def brokenPipe : List Happening :=
  [.submitted .unary, .submitted .stream, .arrived ⟨1, false, .ok⟩, .arrived ⟨2, false, .pong⟩,
    .submitted .unary, .forgotten 3, .shut (some (.transport "broken pipe")),
    .arrived ⟨2, true, .pong⟩, .submitted .unary, .cancelled 2]

theorem accounted_brokenPipe : ∃ last : Link Unit,
    Run { peer := () } brokenPipe last ∧ Accounted { peer := () } brokenPipe last ∧
      Calls.endings 1 brokenPipe {} = [.told (.message .ok true)] ∧
      Calls.endings 2 brokenPipe {} = [.told (.failure (.transport "broken pipe"))] ∧
      Calls.endings 3 brokenPipe {} = [.forgotten] ∧ Calls.endings 4 brokenPipe {} = [] := by
  have run : ∃ last : Link Unit, Run { peer := () } brokenPipe last :=
    ⟨_, .step (.submitted _) <| .step (.submitted _) <| .step (.arrived .reader _) <|
      .step (.arrived .reader _) <| .step (.submitted _) <| .step (.forgotten _) <|
      .step (.shut .caller _) <| .step (.arrived .reader _) <| .step (.submitted _) <|
      .step (.cancelled _) .refl⟩
  obtain ⟨last, run⟩ := run
  exact ⟨last, run, Run.accounted rfl rfl (by decide) run, by decide, by decide, by decide, by decide⟩

end Link

end PagedResults
