import Mathlib.Data.List.Perm.Subperm
import Mathlib.Logic.Function.Basic
import PagedResults.Proofs.Conversation.Statements
import PagedResults.Proofs.Link.Remote
import PagedResults.Proofs.SessionSource
import PagedResults.Session.Shared

/-! # Requests under way

Whatever happens between two steps of the calling thread, and in whatever order, every request under way gets
the reply that was settled when it was sent: the reply is on its way, or with whoever waits for it.
`Shared.Sound` says so, and every move keeps it. Once everything has arrived that is on its way, nobody waits
any more.
-/

namespace PagedResults

/-- A request for a page of a table that the server holds as the result of the statement, and its answer. -/
structure Serves (talk : Conversation) (arities : List (UInt64 × Nat)) (response : Response)
    (request : PageRequest) (table : Table) : Prop where
  shows : talk.Shows request.statement table
  arity_eq : arities.lookup request.statement = some table.columns.length
  response_eq : response = .page (table.page request.offset request.size)
  fits : response.Fits

namespace Errand

variable {π : Type} {session : Session π} {page? : Option PageRequest} {id : UInt64}

/-- How far an errand has come. -/
def stage : Errand → Nat
  | begun _ => 0
  | waiting .. => 1
  | answered .. => 2
  | settled .. => 3

private theorem wake_of_none (absent : session.link.reply? id = none) :
    (waiting page? id).wake session = (waiting page? id, session) := by
  simp only [wake, absent]

private theorem wake_of_some {reply : Except Error Response} (there : session.link.reply? id = some reply) :
    (waiting page? id).wake session =
      (answered page? (reply.mapError .error), { session with link := session.link.dropChannel id }) := by
  simp only [wake, there]

/-- What an errand has, or will have, is what was settled for it. -/
structure Honest (talk : Conversation) (arities : List (UInt64 × Nat)) (response : Response)
    (errand : Errand) : Prop where
  page : ∀ request, errand.page? = some request → ∃ table, Serves talk arities response request table
  reply : ∀ page? reply, errand = answered page? reply → reply = response.outcome
  outcome : ∀ request outcome table, errand = settled request outcome →
    Serves talk arities response request table →
    outcome = Page.ofWire table.columns.length (table.page request.offset request.size)

/-- What is done with other statements does not concern an errand. -/
theorem Honest.elsewhere {talk later : Conversation} {arities others : List (UInt64 × Nat)} {response : Response}
    {errand : Errand} (honest : errand.Honest talk arities response)
    (talk_eq : ∀ request, errand.page? = some request →
      later.statement? request.statement = talk.statement? request.statement)
    (arity_eq : ∀ request, errand.page? = some request →
      others.lookup request.statement = arities.lookup request.statement) :
    errand.Honest later others response where
  page request fetched := by
    obtain ⟨table, shows, known, response_eq, fits⟩ := honest.page request fetched
    refine ⟨table, ?_, (arity_eq request fetched).trans known, response_eq, fits⟩
    rwa [Conversation.Shows, talk_eq request fetched]
  reply := honest.reply
  outcome := by
    rintro request outcome table rfl ⟨shows, known, response_eq, fits⟩
    rw [Conversation.Shows, talk_eq request rfl] at shows
    rw [arity_eq request rfl] at known
    exact honest.outcome request outcome table rfl ⟨shows, known, response_eq, fits⟩

variable [Peer π]

/-- An errand that goes on has asked at least. -/
theorem one_le_stage_step (errand : Errand) (session : Session π) : 1 ≤ (errand.step session).1.stage := by
  cases errand with
  | begun request =>
    rw [step]
    rcases session.askPage request with ⟨_ | id, after⟩
    · exact (by decide : 1 ≤ 3)
    · exact Nat.le_refl 1
  | waiting page? id =>
    change 1 ≤ ((waiting page? id).wake session).1.stage
    cases there : session.link.reply? id with
    | none =>
      rw [wake_of_none there]
      exact Nat.le_refl 1
    | some reply =>
      rw [wake_of_some there]
      exact Nat.le_succ 1
  | answered page? reply =>
    cases page? with
    | none => exact (by decide : 1 ≤ 2)
    | some request => exact (by decide : 1 ≤ 3)
  | settled request outcome => exact (by decide : 1 ≤ 3)

/-- A page whose reply is there has been read when its errand has gone on. -/
theorem exists_settled {errand : Errand} {request : PageRequest} (fetched : errand.page? = some request)
    (answered : 2 ≤ errand.stage) (session : Session π) :
    ∃ outcome, (errand.step session).1 = settled request outcome := by
  cases errand with
  | begun _ => exact absurd answered (by decide : ¬ 2 ≤ 0)
  | waiting _ _ => exact absurd answered (by decide : ¬ 2 ≤ 1)
  | answered page? reply =>
    obtain rfl : page? = some request := fetched
    exact ⟨_, rfl⟩
  | settled other outcome =>
    obtain rfl := Option.some.inj fetched
    exact ⟨outcome, rfl⟩

omit [Peer π] in
/-- A call of the calling thread ends with its reply. -/
theorem exists_answered {errand : Errand} (own : errand.page? = none) (answered : 2 ≤ errand.stage) :
    ∃ reply, errand = .answered none reply := by
  cases errand with
  | begun _ => cases own
  | waiting _ _ => exact absurd answered (by decide : ¬ 2 ≤ 1)
  | answered page? reply =>
    obtain rfl : page? = none := own
    exact ⟨reply, rfl⟩
  | settled _ _ => cases own

end Errand

namespace Shared

variable {π : Type} {data : Dataset} {replies : Nat → Response} {mail rest : List (Nat × UInt64)}
  {shared before middle after : Shared Serving} {session : Session (Remote Serving)} {number : Nat}
  {errand next : Errand}

/-- The conversation that the server will have had once it has received everything. -/
def talk (shared : Shared Serving) : Conversation := shared.session.link.talk

/-- The pages that are fetched, by number; a call of the calling thread has none. -/
def pages (shared : Shared π) : List (Nat × Option PageRequest) :=
  shared.errands.map fun entry => (entry.1, entry.2.page?)

private theorem numbers_eq (shared : Shared π) : shared.pages.map (·.1) = shared.errands.map (·.1) := by
  simp [pages, Function.comp_def]

/-- Every request under way gets the reply that was settled for it, and the calls in `mail` are those that
still wait. -/
structure Sound (data : Dataset) (replies : Nat → Response) (mail : List (Nat × UInt64))
    (shared : Shared Serving) : Prop where
  is_open : shared.session.closed = false
  flows : shared.session.link.Flows data (mail.map fun entry => (entry.2, replies entry.1))
  distinct : (shared.pages.map (·.1)).Nodup
  spawned : ∀ entry ∈ shared.pages, entry.1 < shared.spawned
  few : shared.pages.length ≤ UInt64.size
  owners : (mail.map (·.1)).Nodup
  waiting : ∀ number id, (number, id) ∈ mail ↔ ∃ page?, shared.errands.lookup number = some (.waiting page? id)
  honest : ∀ number errand, shared.errands.lookup number = some errand →
    errand.Honest shared.talk shared.session.arities (replies number)

/-- What may happen meanwhile: errands go on, and nothing else is touched. -/
structure Moved (before after : Shared Serving) : Prop where
  pages_eq : after.pages = before.pages
  spawned_eq : after.spawned = before.spawned
  talk_eq : after.talk = before.talk
  arities_eq : after.session.arities = before.session.arities
  further : ∀ number errand, before.errands.lookup number = some errand →
    ∃ next, after.errands.lookup number = some next ∧ next.page? = errand.page? ∧ errand.stage ≤ next.stage

theorem Moved.refl (shared : Shared Serving) : Moved shared shared :=
  ⟨rfl, rfl, rfl, rfl, fun _ errand found => ⟨errand, found, rfl, Nat.le_refl _⟩⟩

theorem Moved.trans (first : Moved before middle) (second : Moved middle after) : Moved before after where
  pages_eq := second.pages_eq.trans first.pages_eq
  spawned_eq := second.spawned_eq.trans first.spawned_eq
  talk_eq := second.talk_eq.trans first.talk_eq
  arities_eq := second.arities_eq.trans first.arities_eq
  further number errand found := by
    obtain ⟨next, there, page_eq, le⟩ := first.further number errand found
    obtain ⟨last, here, same, further⟩ := second.further number next there
    exact ⟨last, here, same.trans page_eq, le.trans further⟩

/-! ## One errand goes on -/

theorem Sound.lookup_iff (sound : Sound data replies mail shared) :
    shared.errands.lookup number = some errand ↔ (number, errand) ∈ shared.errands := by
  have distinct := sound.distinct
  rw [numbers_eq] at distinct
  exact lookup_eq_some_iff distinct

private theorem lookup_setErrand {other : Nat} : (shared.setErrand number next).errands.lookup other =
    if other = number then (shared.errands.lookup number).map fun _ => next
    else shared.errands.lookup other :=
  lookup_replace next

private theorem Sound.pages_setErrand (sound : Sound data replies mail shared)
    (found : shared.errands.lookup number = some errand) (page_eq : next.page? = errand.page?) :
    (shared.setErrand number next).pages = shared.pages := by
  unfold pages setErrand
  rw [List.map_map]
  refine List.map_congr_left fun entry member => ?_
  dsimp only [Function.comp]
  split
  · next same =>
    have here : shared.errands.lookup number = some entry.2 := same ▸ sound.lookup_iff.mpr member
    obtain rfl := Option.some.inj (found.symm.trans here)
    rw [page_eq, same]
  · rfl

/-- An errand goes on as it was meant to, with the reply that it had or waits for. -/
theorem Sound.setErrand (sound : Sound data replies mail shared) (session : Session (Remote Serving))
    (next : Errand) (found : shared.errands.lookup number = some errand) (page_eq : next.page? = errand.page?)
    (le : errand.stage ≤ next.stage) (is_open : session.closed = false)
    (arities_eq : session.arities = shared.session.arities) (talk_eq : session.link.talk = shared.talk)
    (flows : session.link.Flows data (rest.map fun entry => (entry.2, replies entry.1)))
    (owners : (rest.map (·.1)).Nodup)
    (waiting : ∀ other id, (other, id) ∈ rest ↔
      if other = number then ∃ page?, next = .waiting page? id else (other, id) ∈ mail)
    (honest : next.Honest shared.talk shared.session.arities (replies number)) :
    Sound data replies rest ({ shared with session }.setErrand number next) ∧
      Moved shared ({ shared with session }.setErrand number next) := by
  have pages_eq : ({ shared with session }.setErrand number next).pages = shared.pages :=
    sound.pages_setErrand found page_eq
  have lookup_eq (other : Nat) : ({ shared with session }.setErrand number next).errands.lookup other =
      if other = number then some next else shared.errands.lookup other := by
    have replaced : _ = if other = number then (shared.errands.lookup number).map fun _ => next
      else shared.errands.lookup other := lookup_setErrand
    rw [found] at replaced
    exact replaced
  constructor
  · refine {
      is_open, flows, owners
      distinct := by rw [pages_eq]; exact sound.distinct
      spawned := by rw [pages_eq]; exact sound.spawned
      few := by rw [pages_eq]; exact sound.few
      waiting := fun other id => ?_
      honest := fun other errand there => ?_ }
    · rw [waiting, lookup_eq]
      split
      · simp only [Option.some.injEq]
      · exact sound.waiting other id
    · rw [lookup_eq] at there
      change errand.Honest session.link.talk session.arities _
      rw [talk_eq, arities_eq]
      split at there
      · next same =>
        obtain rfl := Option.some.inj there
        exact same ▸ honest
      · exact sound.honest other errand there
  · refine ⟨pages_eq, rfl, talk_eq, arities_eq, fun other before there => ?_⟩
    rw [lookup_eq]
    split
    · next same =>
      subst same
      obtain rfl := Option.some.inj (found.symm.trans there)
      exact ⟨next, rfl, page_eq, le⟩
    · exact ⟨before, there, rfl, Nat.le_refl _⟩

private theorem setErrand_self (found : shared.errands.lookup number = some errand)
    (sound : Sound data replies mail shared) : shared.setErrand number errand = shared := by
  have same : (shared.errands.map fun entry => if entry.1 = number then (number, errand) else entry) =
      shared.errands := by
    refine (List.map_congr_left fun entry member => ?_).trans (List.map_id _)
    split
    · next here =>
      have there : shared.errands.lookup number = some entry.2 := here ▸ sound.lookup_iff.mpr member
      obtain rfl := Option.some.inj (found.symm.trans there)
      exact Prod.ext here.symm rfl
    · rfl
  rw [setErrand, same]

/-- An errand that waits, waits for a reply that is on its way. -/
theorem Sound.reply?_eq {page? : Option PageRequest} {id : UInt64} (sound : Sound data replies mail shared)
    (found : shared.errands.lookup number = some (.waiting page? id)) :
    shared.session.link.reply? id = none := by
  refine sound.flows.reply?_eq ?_
  rw [List.map_map]
  exact List.mem_map.mpr ⟨(number, id), (sound.waiting number id).mpr ⟨page?, found⟩, rfl⟩

/-- Whoever has a call on its way is under way, and waits. -/
private theorem Sound.exists_waiting (sound : Sound data replies mail shared) (member : number ∈ mail.map (·.1)) :
    ∃ page? id, shared.errands.lookup number = some (.waiting page? id) := by
  obtain ⟨⟨_, id⟩, listed, rfl⟩ := List.mem_map.mp member
  obtain ⟨page?, found⟩ := (sound.waiting _ _).mp listed
  exact ⟨page?, id, found⟩

/-- Whoever has just called waits for its reply. -/
private theorem mem_mail_snoc {page? : Option PageRequest} {id : UInt64} (idle : number ∉ mail.map (·.1))
    (other : Nat) (sent : UInt64) : (other, sent) ∈ mail ++ [(number, id)] ↔
      if other = number then ∃ page?', Errand.waiting page? id = .waiting page?' sent else (other, sent) ∈ mail := by
  rw [List.mem_append, List.mem_singleton]
  split
  · next same =>
    subst same
    have nowhere : (other, sent) ∉ mail := fun member => idle (List.mem_map_of_mem member)
    simp [nowhere, eq_comm]
  · next differs => simp [differs]

theorem Sound.askPage {request : PageRequest} (sound : Sound data replies mail shared)
    (found : shared.errands.lookup number = some (.begun request)) :
    ∃ id session, Session.askPage request shared.session = (.ok id, session) ∧
      Sound data replies (mail ++ [(number, id)])
        ({ shared with session }.setErrand number (.waiting (some request) id)) ∧
      Moved shared ({ shared with session }.setErrand number (.waiting (some request) id)) := by
  have honest := sound.honest number _ found
  obtain ⟨table, serves⟩ := honest.page request rfl
  have fits : (Response.page (table.page request.offset request.size)).Fits := serves.response_eq ▸ serves.fits
  obtain ⟨id, link, submitted, flows, talk_eq⟩ := sound.flows.submit (Request.fetch_fits _ _ _)
    (Conversation.answer_fetch serves.shows request.offset request.size) fits .fetch
  have idle : number ∉ mail.map (·.1) := by
    intro member
    obtain ⟨page?, other, there⟩ := sound.exists_waiting member
    cases found.symm.trans there
  refine ⟨id, { shared.session with link }, ?_, sound.setErrand _ _ found rfl (Nat.zero_le _) sound.is_open rfl
    talk_eq ?_ ?_ (mem_mail_snoc idle) ⟨honest.page, nofun, nofun⟩⟩
  · rw [Session.askPage, Op.bind_of_ok (Session.checkOpen_apply sound.is_open), Session.onLink_apply, submitted]
  · rw [List.map_append, List.map_singleton, serves.response_eq]
    exact flows
  · rw [List.map_append]
    exact sound.owners.append (List.nodup_singleton _) (List.disjoint_singleton.mpr idle)

/-- The thread of a page reads what it was sent. -/
theorem Sound.readPage {request : PageRequest} {reply : Outcome Error Response}
    (sound : Sound data replies mail shared)
    (found : shared.errands.lookup number = some (.answered (some request) reply)) :
    ∃ outcome, (Op.ofOutcome reply >>= Session.readPage request.statement) shared.session =
        (outcome, shared.session) ∧
      Sound data replies mail (shared.setErrand number (.settled request outcome)) ∧
      Moved shared (shared.setErrand number (.settled request outcome)) := by
  have honest := sound.honest number _ found
  obtain ⟨table, serves⟩ := honest.page request rfl
  have read : (Op.ofOutcome reply >>= Session.readPage request.statement) shared.session =
      (Page.ofWire table.columns.length (table.page request.offset request.size), shared.session) := by
    have there : reply = .ok (.page (table.page request.offset request.size)) := by
      rw [honest.reply _ _ rfl, serves.response_eq]
      rfl
    rw [there, Op.bind_of_ok (Op.ofOutcome_apply _ _), Session.readPage, Op.bind_of_ok (Op.get_apply _),
      serves.arity_eq]
    rfl
  refine ⟨_, read, sound.setErrand _ _ found rfl (Nat.le_succ _) sound.is_open rfl rfl sound.flows sound.owners
    (fun other id => ?_) ⟨honest.page, ?_, ?_⟩⟩
  · split
    · next same =>
      subst same
      constructor
      · intro member
        obtain ⟨page?, there⟩ := (sound.waiting _ _).mp member
        cases found.symm.trans there
      · rintro ⟨_, ⟨⟩⟩
    · exact Iff.rfl
  · rintro _ _ ⟨⟩
  · rintro other outcome found ⟨⟩ also
    rw [serves.shows.unique also.shows]

private theorem perform_step (found : shared.errands.lookup number = some errand) :
    shared.perform (.step number) =
      { shared with session := (errand.step shared.session).2 }.setErrand number (errand.step shared.session).1 := by
  rw [perform, found]

theorem lookup_step (found : shared.errands.lookup number = some errand) :
    (shared.perform (.step number)).errands.lookup number = some (errand.step shared.session).1 := by
  rw [perform_step found, lookup_setErrand, if_pos rfl]
  exact congrArg (Option.map _) found

/-- Whichever errand goes on, it goes on as it was meant to. -/
theorem Sound.step (sound : Sound data replies mail shared) (number : Nat) :
    ∃ rest, Sound data replies rest (shared.perform (.step number)) ∧
      Moved shared (shared.perform (.step number)) := by
  cases found : shared.errands.lookup number with
  | none =>
    rw [perform, found]
    exact ⟨mail, sound, .refl shared⟩
  | some errand =>
    rw [perform_step found]
    have stays : ∃ rest, Sound data replies rest (shared.setErrand number errand) ∧
        Moved shared (shared.setErrand number errand) := by
      rw [setErrand_self found sound]
      exact ⟨mail, sound, .refl shared⟩
    cases errand with
    | begun request =>
      obtain ⟨id, session, asked, sound, moved⟩ := sound.askPage found
      simp only [Errand.step, asked]
      exact ⟨_, sound, moved⟩
    | waiting page? id =>
      have asleep : (Errand.waiting page? id).step shared.session = (.waiting page? id, shared.session) :=
        Errand.wake_of_none (sound.reply?_eq found)
      rw [asleep]
      exact stays
    | answered page? reply =>
      cases page? with
      | none => exact stays
      | some request =>
        obtain ⟨outcome, read, sound, moved⟩ := sound.readPage found
        simp only [Errand.step, read]
        exact ⟨_, sound, moved⟩
    | settled request outcome => exact stays

/-! ## Replies arrive -/

section WakeAll

variable {entries others : List (Nat × Errand)} {session : Session (Remote π)} {page? : Option PageRequest}
  {id : UInt64} {reply : Except Error Response}

/-- None of the errands can take a reply. -/
def Asleep (entries : List (Nat × Errand)) (session : Session (Remote π)) : Prop :=
  ∀ number page? id, (number, .waiting page? id) ∈ entries → session.link.reply? id = none

private theorem Asleep.wake_head (asleep : Asleep ((number, errand) :: others) session) :
    errand.wake session = (errand, session) := by
  cases errand with
  | waiting page? id => exact Errand.wake_of_none (asleep number page? id (List.mem_cons_self ..))
  | begun _ | answered _ _ | settled _ _ => rfl

private theorem Asleep.tail {entry : Nat × Errand} (asleep : Asleep (entry :: others) session) :
    Asleep others session :=
  fun number page? id member => asleep number page? id (List.mem_cons_of_mem _ member)

private theorem wakeAll_asleep (asleep : Asleep entries session) : wakeAll entries session = (entries, session) := by
  induction entries with
  | nil => rfl
  | cons entry rest ih => simp only [wakeAll, asleep.wake_head, ih asleep.tail]

/-- One of the errands takes its reply. -/
theorem wakeAll_one (first : Asleep entries session)
    (there : session.link.reply? id = some reply)
    (last : Asleep others { session with link := session.link.dropChannel id }) :
    wakeAll (entries ++ (number, .waiting page? id) :: others) session =
      (entries ++ (number, .answered page? (reply.mapError .error)) :: others,
        { session with link := session.link.dropChannel id }) := by
  induction entries with
  | nil => simp only [List.nil_append, wakeAll, Errand.wake_of_some there, wakeAll_asleep last]
  | cons entry rest ih => simp only [List.cons_append, wakeAll, first.wake_head, ih first.tail]

end WakeAll

/-- No more calls wait than errands are under way. -/
theorem Sound.length_le (sound : Sound data replies mail shared) : mail.length ≤ UInt64.size := by
  have known : mail.map (·.1) ⊆ shared.pages.map (·.1) := by
    intro number member
    obtain ⟨page?, id, found⟩ := sound.exists_waiting member
    rw [numbers_eq]
    exact List.mem_map.mpr ⟨_, sound.lookup_iff.mp found, rfl⟩
  have le := (sound.owners.subperm known).length_le
  rw [List.length_map, List.length_map] at le
  exact le.trans sound.few

/-- With nothing to arrive, nobody wakes. -/
private theorem Sound.deliver_nothing (sound : Sound data replies mail shared)
    (nothing : shared.session.link.peer.inward = []) : shared.perform .deliver = shared := by
  have same : shared.session.link.deliver = shared.session.link := by
    rw [Link.deliver, nothing]
  have asleep : Asleep shared.errands shared.session := fun number page? id member =>
    sound.reply?_eq (sound.lookup_iff.mpr member)
  rw [perform, same]
  dsimp only
  rw [wakeAll_asleep asleep]

/-- Replacing an errand at its place. -/
private theorem setErrand_between {entries others : List (Nat × Errand)}
    (split : shared.errands = entries ++ (number, errand) :: others) (first : entries.lookup number = none)
    (last : others.lookup number = none) (next : Errand) :
    (shared.setErrand number next).errands = entries ++ (number, next) :: others := by
  unfold setErrand
  rw [split, List.map_append, List.map_cons, replace_absent first, replace_absent last, if_pos rfl]

/-- An errand stands between errands with other numbers. -/
private theorem Sound.exists_between (sound : Sound data replies mail shared)
    (found : shared.errands.lookup number = some errand) :
    ∃ entries others, shared.errands = entries ++ (number, errand) :: others ∧ entries.lookup number = none ∧
      others.lookup number = none := by
  obtain ⟨entries, others, split, before⟩ := List.lookup_eq_some_iff.mp found
  have distinct := sound.distinct
  rw [numbers_eq, split, List.map_append, List.map_cons] at distinct
  have behind : number ∉ others.map (·.1) := (List.nodup_cons.mp (List.nodup_append.mp distinct).2.1).1
  refine ⟨entries, others, split, List.lookup_eq_none_iff.mpr before, ?_⟩
  rw [List.lookup_eq_none_iff]
  exact fun entry member => bne_iff_ne.mpr fun same => behind (same ▸ List.mem_map_of_mem member)

/-- The reply to one errand arrives, while all others sleep on. -/
private theorem perform_deliver {entries others : List (Nat × Errand)} {page? : Option PageRequest} {id : UInt64}
    {reply : Except Error Response} (split : shared.errands = entries ++ (number, .waiting page? id) :: others)
    (first : entries.lookup number = none) (last : others.lookup number = none)
    (before : Asleep entries { shared.session with link := shared.session.link.deliver })
    (there : shared.session.link.deliver.reply? id = some reply)
    (behind : Asleep others { shared.session with link := shared.session.link.deliver.dropChannel id }) :
    shared.perform .deliver =
      { shared with session := { shared.session with link := shared.session.link.deliver.dropChannel id } }.setErrand
        number (.answered page? (reply.mapError .error)) := by
  have woken : wakeAll shared.errands { shared.session with link := shared.session.link.deliver } =
      ((shared.setErrand number (.answered page? (reply.mapError .error))).errands,
        { shared.session with link := shared.session.link.deliver.dropChannel id }) := by
    rw [setErrand_between split first last, split]
    exact wakeAll_one before there behind
  rw [perform]
  dsimp only
  rw [woken]
  rfl

/-- What the server sent arrives, and whoever waits for it has its reply then. -/
theorem Sound.deliver (sound : Sound data replies mail shared) :
    ∃ rest, Sound data replies rest (shared.perform .deliver) ∧ Moved shared (shared.perform .deliver) ∧
      (shared.perform .deliver).session.link.peer =
        { shared.session.link.peer with inward := shared.session.link.peer.inward.tail } := by
  by_cases nothing : shared.session.link.peer.inward = []
  · rw [sound.deliver_nothing nothing, nothing]
    refine ⟨mail, sound, .refl shared, ?_⟩
    rw [List.tail_nil, ← nothing]
  obtain ⟨sent, response, arriving, split, ⟨reply, there, reply_eq⟩, aside, -, peer_eq, flows⟩ :=
    sound.flows.deliver (by rw [List.length_map]; exact sound.length_le) nothing
  obtain ⟨⟨number, id⟩, rest, rfl, same, rfl⟩ := List.map_eq_cons_iff.mp split
  obtain ⟨rfl, rfl⟩ := Prod.mk.inj same
  obtain ⟨page?, found⟩ := (sound.waiting number _).mp (List.mem_cons_self ..)
  obtain ⟨entries, others, errands_eq, first, last⟩ := sound.exists_between found
  -- whoever else waits, waits for a later reply
  have later {other : Nat} {page? : Option PageRequest} {id' : UInt64} (differs : other ≠ number)
      (member : (other, .waiting page? id') ∈ shared.errands) :
      id' ∈ (rest.map fun entry => (entry.2, replies entry.1)).map (·.1) := by
    have waits : (other, id') ∈ (number, id) :: rest :=
      (sound.waiting other id').mpr ⟨page?, sound.lookup_iff.mpr member⟩
    have listed := (List.mem_cons.mp waits).resolve_left fun same => differs (Prod.mk.inj same).1
    rw [List.map_map]
    exact List.mem_map.mpr ⟨_, listed, rfl⟩
  have before : Asleep entries { shared.session with link := shared.session.link.deliver } := by
    intro other page? id' member
    have listed : (other, .waiting page? id') ∈ shared.errands := by
      rw [errands_eq]
      exact List.mem_append_left _ member
    exact aside id' (later (ne_of_absent first _ member) listed)
  have behind : Asleep others
      { shared.session with link := shared.session.link.deliver.dropChannel id } := by
    intro other page? id' member
    have listed : (other, .waiting page? id') ∈ shared.errands := by
      rw [errands_eq]
      exact List.mem_append_right _ (List.mem_cons_of_mem _ member)
    exact flows.reply?_eq (later (ne_of_absent last _ member) listed)
  obtain ⟨alone, owners⟩ := List.nodup_cons.mp sound.owners
  rw [perform_deliver errands_eq first last before there behind]
  have honest := sound.honest number _ found
  have talk_eq : shared.session.link.deliver.talk = shared.talk := by
    rw [Link.talk, peer_eq]
    rfl
  have waiting (other : Nat) (sent : UInt64) : (other, sent) ∈ rest ↔ if other = number then
      ∃ page?', Errand.answered page? (reply.mapError .error) = .waiting page?' sent
      else (other, sent) ∈ (number, id) :: rest := by
    split
    · next same =>
      subst same
      constructor
      · exact fun member => absurd (List.mem_map.mpr ⟨_, member, rfl⟩) alone
      · rintro ⟨_, ⟨⟩⟩
    · next differs => simp [differs]
  have answered : (Errand.answered page? (reply.mapError .error)).Honest shared.talk shared.session.arities
      (replies number) := by
    refine ⟨honest.page, ?_, ?_⟩
    · rintro _ _ ⟨⟩
      exact reply_eq
    · rintro _ _ _ ⟨⟩
  obtain ⟨sound, moved⟩ := sound.setErrand
    { shared.session with link := shared.session.link.deliver.dropChannel id }
    (.answered page? (reply.mapError .error)) found rfl (Nat.le_succ _) sound.is_open rfl talk_eq flows owners waiting
    answered
  exact ⟨rest, sound, moved, peer_eq⟩

theorem Sound.serve (sound : Sound data replies mail shared) :
    Sound data replies mail (shared.perform .serve) ∧ Moved shared (shared.perform .serve) := by
  have talk_eq : (shared.perform .serve).talk = shared.talk := Link.talk_serve
  refine ⟨{ sound with flows := sound.flows.serve, honest := fun number errand found => ?_ },
    rfl, rfl, talk_eq, rfl, fun _ errand found => ⟨errand, found, rfl, Nat.le_refl _⟩⟩
  rw [talk_eq]
  exact sound.honest number errand found

/-! ## Whatever happens -/

theorem Sound.perform (sound : Sound data replies mail shared) (move : Move) :
    ∃ rest, Sound data replies rest (shared.perform move) ∧ Moved shared (shared.perform move) := by
  cases move with
  | serve => exact ⟨mail, sound.serve⟩
  | deliver =>
    obtain ⟨rest, sound, moved, -⟩ := sound.deliver
    exact ⟨rest, sound, moved⟩
  | step number => exact sound.step number

theorem Sound.run (sound : Sound data replies mail shared) (moves : List Move) :
    ∃ rest, Sound data replies rest (shared.run moves) ∧ Moved shared (shared.run moves) := by
  induction moves generalizing mail shared with
  | nil => exact ⟨mail, sound, .refl shared⟩
  | cons move moves ih =>
    obtain ⟨middle, sound, moved⟩ := sound.perform move
    obtain ⟨rest, sound, further⟩ := ih sound
    exact ⟨rest, sound, moved.trans further⟩

theorem Sound.pause (sound : Sound data replies mail shared) :
    ∃ rest, Sound data replies rest shared.pause ∧ Moved shared shared.pause := by
  rw [Shared.pause]
  split
  · exact ⟨mail, sound, .refl shared⟩
  · next moves plan planned =>
    have same : Sound data replies mail { shared with plan } := { sound with }
    obtain ⟨rest, sound, moved⟩ := same.run moves
    exact ⟨rest, sound, { moved with }⟩

/-- All messages that were sent arrive at the server. -/
private theorem outward_serves (count : Nat) (shared : Shared Serving) :
    (shared.run (List.replicate count .serve)).session.link.peer.outward =
      shared.session.link.peer.outward.drop count := by
  induction count generalizing shared with
  | zero => rfl
  | succ count ih =>
    have first : (shared.perform .serve).session.link.peer.outward = shared.session.link.peer.outward.tail := by
      change (Remote.serve _).outward = _
      rw [Remote.serve]
      split
      · next nothing => rw [nothing, List.tail_nil]
      · next sent => rw [sent, List.tail_cons]
    rw [List.replicate_succ, Shared.run, List.foldl_cons, ← Shared.run, ih, first, List.drop_tail]

/-- All that the server has sent arrives. -/
private theorem Sound.delivers (sound : Sound data replies mail shared) (count : Nat)
    (served : shared.session.link.peer.outward = []) (few : shared.session.link.peer.inward.length ≤ count) :
    (shared.run (List.replicate count .deliver)).session.link.peer.coming = [] := by
  induction count generalizing mail shared with
  | zero => exact Remote.coming_eq_nil served (List.length_eq_zero_iff.mp (Nat.le_zero.mp few))
  | succ count ih =>
    obtain ⟨rest, sound, -, peer_eq⟩ := sound.deliver
    refine ih sound ?_ ?_
    · rw [peer_eq]
      exact served
    · rw [peer_eq]
      dsimp only
      rw [List.length_tail]
      omega

/-- Once everything has arrived, nobody waits. -/
theorem Sound.arriveAll (sound : Sound data replies mail shared) :
    Sound data replies [] shared.arriveAll ∧ Moved shared shared.arriveAll := by
  obtain ⟨middle, served, first⟩ := sound.run (List.replicate shared.session.link.peer.outward.length .serve)
  obtain ⟨rest, arrived, second⟩ := served.run (List.replicate (shared.run (List.replicate
    shared.session.link.peer.outward.length .serve)).session.link.peer.inward.length .deliver)
  have nothing := served.delivers _ (by rw [outward_serves, List.drop_length]) (Nat.le_refl _)
  have coming := arrived.flows.coming_eq
  rw [nothing] at coming
  obtain rfl : rest = [] := List.map_eq_nil_iff.mp (List.map_eq_nil_iff.mp coming.symm)
  exact ⟨arrived, first.trans second⟩

/-- Whoever has asked has the reply after waiting for it. -/
theorem Sound.await (sound : Sound data replies mail shared) (found : shared.errands.lookup number = some errand)
    (asked : 1 ≤ errand.stage) :
    ∃ rest next, Sound data replies rest (shared.await number) ∧ Moved shared (shared.await number) ∧
      (shared.await number).errands.lookup number = some next ∧ next.page? = errand.page? ∧ 2 ≤ next.stage := by
  obtain ⟨rest, sound, moved⟩ := sound.pause
  obtain ⟨next, there, page_eq, le⟩ := moved.further number errand found
  rw [Shared.await, there]
  cases next with
  | begun request => exact absurd (asked.trans le) (Nat.not_succ_le_zero 0)
  | waiting page? id =>
    obtain ⟨sound, further⟩ := sound.arriveAll
    obtain ⟨last, here, same, le⟩ := further.further number _ there
    refine ⟨[], last, sound, moved.trans further, here, same.trans page_eq, ?_⟩
    cases last with
    | begun request => exact absurd le (Nat.not_succ_le_zero 0)
    | waiting page? id => exact absurd ((sound.waiting number id).mpr ⟨page?, here⟩) List.not_mem_nil
    | answered _ _ => exact Nat.le_refl _
    | settled _ _ => exact Nat.le_succ _
  | answered page? reply => exact ⟨rest, _, sound, moved, there, page_eq, Nat.le_refl _⟩
  | settled request outcome => exact ⟨rest, _, sound, moved, there, page_eq, Nat.le_succ _⟩

/-! ## An errand begins and ends -/

/-- The statements of the pages that are fetched. -/
def statements (shared : Shared π) : List UInt64 := shared.pages.filterMap fun entry => entry.2.map (·.statement)

theorem mem_statements {id : UInt64} : id ∈ shared.statements ↔
    ∃ number request, (number, some request) ∈ shared.pages ∧ request.statement = id := by
  simp [statements]

theorem mem_pages (found : shared.errands.lookup number = some errand)
    (sound : Sound data replies mail shared) : (number, errand.page?) ∈ shared.pages :=
  List.mem_map.mpr ⟨_, sound.lookup_iff.mp found, rfl⟩

theorem Sound.exists_errand {page? : Option PageRequest} (sound : Sound data replies mail shared)
    (listed : (number, page?) ∈ shared.pages) :
    ∃ errand, shared.errands.lookup number = some errand ∧ errand.page? = page? := by
  obtain ⟨⟨_, errand⟩, member, same⟩ := List.mem_map.mp listed
  obtain ⟨rfl, rfl⟩ := Prod.mk.inj same
  exact ⟨errand, sound.lookup_iff.mpr member, rfl⟩

theorem Sound.page_unique {page? other? : Option PageRequest} (sound : Sound data replies mail shared)
    (listed : (number, page?) ∈ shared.pages) (also : (number, other?) ∈ shared.pages) : page? = other? :=
  Option.some.inj (((lookup_eq_some_iff sound.distinct).mpr listed).symm.trans
    ((lookup_eq_some_iff sound.distinct).mpr also))

/-- A new errand, and with it a call if it has been sent. Statements of other errands are not touched. -/
theorem Sound.spawn (sound : Sound data replies mail shared) (session : Session (Remote Serving)) (errand : Errand)
    (response : Response) (few : shared.pages.length < UInt64.size) (is_open : session.closed = false)
    (arities_eq : session.arities = shared.session.arities)
    (stays : ∀ id ∈ shared.statements, session.link.talk.statement? id = shared.talk.statement? id)
    (flows : session.link.Flows data
      (rest.map fun entry => (entry.2, Function.update replies shared.spawned response entry.1)))
    (owners : (rest.map (·.1)).Nodup)
    (waiting : ∀ other id, (other, id) ∈ rest ↔
      if other = shared.spawned then ∃ page?, errand = .waiting page? id else (other, id) ∈ mail)
    (honest : errand.Honest session.link.talk session.arities response) :
    Sound data (Function.update replies shared.spawned response) rest ({ shared with session }.spawn errand).2 := by
  have pages_eq : ({ shared with session }.spawn errand).2.pages = shared.pages ++ [(shared.spawned, errand.page?)] :=
    List.map_append
  have unused : shared.errands.lookup shared.spawned = none := by
    rw [List.lookup_eq_none_iff]
    intro entry member
    have below := sound.spawned _ (List.mem_map_of_mem member)
    exact bne_iff_ne.mpr (Nat.ne_of_gt below)
  have lookup_eq (other : Nat) : ({ shared with session }.spawn errand).2.errands.lookup other =
      if other = shared.spawned then some errand else shared.errands.lookup other := by
    change (shared.errands ++ [(shared.spawned, errand)]).lookup other = _
    split
    · next same =>
      rw [same]
      exact lookup_append_new unused errand
    · next differs => exact lookup_append_of_ne differs errand
  refine {
    is_open, flows, owners
    distinct := ?_
    spawned := ?_
    few := by rw [pages_eq, List.length_append]; exact few
    waiting := fun other id => ?_
    honest := fun other found there => ?_ }
  · rw [pages_eq, List.map_append]
    refine sound.distinct.append (List.nodup_singleton _) (List.disjoint_singleton.mpr fun member => ?_)
    obtain ⟨entry, listed, same⟩ := List.mem_map.mp member
    exact Nat.ne_of_lt (sound.spawned entry listed) same
  · rw [pages_eq]
    refine List.forall_mem_append.mpr ⟨fun entry member => Nat.lt_succ_of_lt (sound.spawned entry member), ?_⟩
    exact List.forall_mem_singleton.mpr (Nat.lt_succ_self _)
  · rw [waiting, lookup_eq]
    split
    · simp only [Option.some.injEq]
    · exact sound.waiting other id
  · rw [lookup_eq] at there
    split at there
    · next same =>
      obtain rfl := Option.some.inj there
      rw [same, Function.update_self]
      exact honest
    · next differs =>
      rw [Function.update_of_ne differs]
      change found.Honest session.link.talk session.arities _
      rw [arities_eq]
      refine (sound.honest other found there).elsewhere (fun request fetched => ?_) fun _ _ => rfl
      exact stays _ (mem_statements.mpr ⟨other, request, fetched ▸ mem_pages there sound, rfl⟩)

theorem Sound.unused (sound : Sound data replies mail shared) : shared.spawned ∉ mail.map (·.1) := by
  intro member
  obtain ⟨page?, id, found⟩ := sound.exists_waiting member
  exact Nat.lt_irrefl _ (sound.spawned _ (mem_pages found sound))

private theorem Sound.letters_update (sound : Sound data replies mail shared) (response : Response) :
    (mail.map fun entry => (entry.2, Function.update replies shared.spawned response entry.1)) =
      mail.map fun entry => (entry.2, replies entry.1) := by
  refine List.map_congr_left fun entry member => ?_
  have differs : entry.1 ≠ shared.spawned := fun same => sound.unused (same ▸ List.mem_map_of_mem member)
  rw [Function.update_of_ne differs]

/-- The thread of a page has begun. -/
theorem Sound.begin {request : PageRequest} {table : Table} (sound : Sound data replies mail shared)
    (few : shared.pages.length < UInt64.size)
    (serves : Serves shared.talk shared.session.arities (.page (table.page request.offset request.size)) request
      table) :
    Sound data (Function.update replies shared.spawned (.page (table.page request.offset request.size))) mail
      (shared.spawn (.begun request)).2 := by
  refine sound.spawn shared.session (.begun request) _ few sound.is_open rfl (fun _ _ => rfl) ?_ sound.owners
    (fun other id => ?_) ⟨?_, nofun, nofun⟩
  · rw [sound.letters_update]
    exact sound.flows
  · split
    · next same =>
      refine iff_of_false (fun member => ?_) (fun ⟨_, waits⟩ => nomatch waits)
      exact sound.unused (same ▸ List.mem_map_of_mem member)
    · exact Iff.rfl
  · rintro _ ⟨⟩
    exact ⟨table, serves⟩

/-- A call of the calling thread has been sent. -/
theorem Sound.submit {request : Request} {response : Response} {next : Conversation}
    (sound : Sound data replies mail shared) (few : shared.pages.length < UInt64.size) (small : request.Fits)
    (answered : shared.talk.answer data request = .ok (.one response, next)) (fits : response.Fits)
    (stays : ∀ id ∈ shared.statements, next.statement? id = shared.talk.statement? id) :
    ∃ id link, Link.submit .caller .unary request shared.session.link = (.ok id, link) ∧ link.talk = next ∧
      Sound data (Function.update replies shared.spawned response) (mail ++ [(shared.spawned, id)])
        ({ shared with session := { shared.session with link } }.spawn (.waiting none id)).2 := by
  obtain ⟨id, link, submitted, flows, talk_eq⟩ := sound.flows.submit small answered fits .caller
  refine ⟨id, link, submitted, talk_eq, sound.spawn { shared.session with link } (.waiting none id) response few
    sound.is_open rfl (by rw [talk_eq]; exact stays) ?_ ?_ (mem_mail_snoc sound.unused) ⟨nofun, nofun, nofun⟩⟩
  · rw [List.map_append, sound.letters_update, List.map_singleton, Function.update_self]
    exact flows
  · rw [List.map_append]
    exact sound.owners.append (List.nodup_singleton _) (List.disjoint_singleton.mpr sound.unused)

/-- Whoever does not wait any more can be dismissed. -/
theorem Sound.dismiss (sound : Sound data replies mail shared)
    (found : shared.errands.lookup number = some errand) (answered : 2 ≤ errand.stage) :
    Sound data replies mail (shared.dismiss number) ∧
      (shared.dismiss number).pages = shared.pages.filter (·.1 ≠ number) := by
  have pages_eq : (shared.dismiss number).pages = shared.pages.filter (·.1 ≠ number) := by
    unfold pages Shared.dismiss
    rw [List.filter_map]
    rfl
  have lookup_eq (other : Nat) : (shared.dismiss number).errands.lookup other =
      if other = number then none else shared.errands.lookup other := lookup_filter_ne
  refine ⟨{ sound with
    distinct := ?_
    spawned := ?_
    few := ?_
    waiting := fun other id => ?_
    honest := fun other found there => ?_ }, pages_eq⟩
  · rw [pages_eq]
    exact sound.distinct.sublist (List.filter_sublist.map _)
  · rw [pages_eq]
    exact fun entry member => sound.spawned entry (List.mem_of_mem_filter member)
  · rw [pages_eq]
    exact (List.length_filter_le _ _).trans sound.few
  · rw [sound.waiting, lookup_eq]
    split
    · next same =>
      subst same
      refine iff_of_false (fun ⟨page?, waits⟩ => ?_) (fun ⟨_, absent⟩ => nomatch absent)
      obtain rfl := Option.some.inj (found.symm.trans waits)
      exact absurd answered (by decide : ¬ 2 ≤ 1)
    · exact Iff.rfl
  · rw [lookup_eq] at there
    split at there
    · cases there
    · exact sound.honest other found there

end Shared

end PagedResults
