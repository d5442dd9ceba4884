import PagedResults.Proofs.Session.Attached
import PagedResults.Proofs.Session.Errands

/-! # A shared session between two calls

Between two calls of the calling thread, all that is under way are pages, no two of them of the same
statement. `Shared.Rests` describes such a session. Whatever is planned to happen meanwhile, a call gets the
response that the server has for it, a page that is waited for is the one that was asked for, and the session
comes to rest again.
-/

namespace PagedResults

namespace Shared

variable {data : Dataset} {spare left : Nat} {shared after : Shared Serving} {number : Nat} {request : PageRequest}
  {table : Table} {id : UInt64} {next : Conversation} {response : Response}

private theorem onSession_apply {π α : Type} (operation : Op Error (Session (Remote π)) α) (shared : Shared π) :
    onSession operation shared =
      ((operation shared.session).1, { shared with session := (operation shared.session).2 }) := rfl

/-- A request of the calling thread is sent. -/
private theorem onSession_submit {request : Request} {link : Link (Remote Serving)}
    (submitted : Link.submit .caller .unary request shared.session.link = (.ok id, link)) :
    onSession (Session.onLink (Link.submit .caller .unary request)) shared =
      (.ok id, { shared with session := { shared.session with link } }) := by
  rw [onSession_apply, Session.onLink_apply, submitted]

/-- A call whose request can be sent, and whose reply comes. -/
private theorem call_of_answered {request : Request} {link : Link (Remote Serving)} {sent : Shared Serving}
    {page? : Option PageRequest} {reply : Outcome Error Response} (is_open : shared.pause.session.closed = false)
    (submitted : Link.submit .caller .unary request shared.pause.session.link = (.ok id, link))
    (spawned : ({ shared.pause with session := { shared.pause.session with link } } : Shared Serving).spawn
      (.waiting none id) = (number, sent))
    (there : (sent.await number).errands.lookup number = some (.answered page? reply)) (limit : Duration) :
    Shared.call request limit shared = (reply, (sent.await number).dismiss number) := by
  have checked : onSession Session.checkOpen shared.pause = (.ok (), shared.pause) := by
    have isOpen : Session.checkOpen shared.pause.session = (.ok (), shared.pause.session) :=
      Session.checkOpen_apply is_open
    rw [onSession_apply, isOpen]
  rw [Shared.call, Op.bind_of_ok (Op.modify_apply _ _), Op.bind_of_ok checked,
    Op.bind_of_ok (onSession_submit submitted)]
  dsimp only
  rw [spawned]
  dsimp only
  rw [there]

/-- Dismissing the errand that came last leaves the pages of the others. -/
private theorem Sound.pages_without_last {replies : Nat → Response} {mail : List (Nat × UInt64)}
    (sound : Sound data replies mail shared) (page? : Option PageRequest) :
    (shared.pages ++ [(shared.spawned, page?)]).filter (·.1 ≠ shared.spawned) = shared.pages := by
  have unused : shared.pages.lookup shared.spawned = none := by
    rw [List.lookup_eq_none_iff]
    exact fun entry member => bne_iff_ne.mpr (Nat.ne_of_gt (sound.spawned entry member))
  rw [List.filter_append, filter_absent unused, List.filter_cons_of_neg (by simp), List.filter_nil, List.append_nil]

/-- A shared session on which nothing is under way but pages, at most one for each statement, and whose server
has ids left. -/
structure Rests (data : Dataset) (spare : Nat) (shared : Shared Serving) : Prop where
  sound : ∃ replies mail, Sound data replies mail shared
  numbered : shared.talk.Numbered spare
  fetching : ∀ entry ∈ shared.pages, entry.2.isSome
  single : ∀ number other request request', (number, some request) ∈ shared.pages →
    (other, some request') ∈ shared.pages → request.statement = request'.statement → number = other

namespace Rests

private theorem of_moved {replies : Nat → Response} {mail : List (Nat × UInt64)} (rests : Rests data spare shared)
    (sound : Sound data replies mail after) (moved : Moved shared after) : Rests data spare after where
  sound := ⟨replies, mail, sound⟩
  numbered := by rw [moved.talk_eq]; exact rests.numbered
  fetching := by rw [moved.pages_eq]; exact rests.fetching
  single := by rw [moved.pages_eq]; exact rests.single

theorem mono {fewer : Nat} (rests : Rests data spare shared) (le : fewer ≤ spare) : Rests data fewer shared :=
  { rests with numbered := rests.numbered.mono le }

/-- The statement of a page that is under way has been given out. -/
theorem statement_le (rests : Rests data spare shared) (member : id ∈ shared.statements) :
    id.toNat ≤ shared.talk.latest.toNat := by
  obtain ⟨number, request, listed, rfl⟩ := mem_statements.mp member
  obtain ⟨replies, mail, sound⟩ := rests.sound
  obtain ⟨errand, found, fetched⟩ := sound.exists_errand listed
  obtain ⟨table, ⟨sql, known⟩, -⟩ := (sound.honest number errand found).page request fetched
  exact rests.numbered.statement?_known known

/-- Each of the pages under way has a statement of its own. -/
private theorem nodup_statements (rests : Rests data spare shared) : shared.statements.Nodup := by
  obtain ⟨replies, mail, sound⟩ := rests.sound
  apply List.pairwise_filterMap.mpr
  refine (List.Nodup.of_map _ sound.distinct).imp_of_mem ?_
  rintro ⟨number, page?⟩ ⟨other, page?'⟩ member member' differs id fetched _ fetched' rfl
  obtain ⟨request, rfl, same⟩ := Option.map_eq_some_iff.mp fetched
  obtain ⟨request', rfl, same'⟩ := Option.map_eq_some_iff.mp fetched'
  obtain rfl := rests.single number other request request' member member' (same.trans same'.symm)
  apply differs
  rw [sound.page_unique member member']

private theorem length_statements (rests : Rests data spare shared) :
    shared.statements.length = shared.pages.length := by
  apply List.filterMap_length_eq_length.mpr
  intro entry member
  rw [Option.isSome_map]
  exact rests.fetching entry member

/-- Where a page may be requested, not all ids are taken. -/
theorem length_lt (rests : Rests data spare shared) (free : id ∉ shared.statements) :
    shared.pages.length < UInt64.size := by
  have distinct : ((id :: shared.statements).map UInt64.toNat).Nodup :=
    (List.nodup_cons.mpr ⟨free, rests.nodup_statements⟩).map fun _ _ => UInt64.toNat_inj.mp
  have below : (id :: shared.statements).map UInt64.toNat ⊆ List.range UInt64.size := by
    intro _ member
    obtain ⟨other, -, rfl⟩ := List.mem_map.mp member
    exact List.mem_range.mpr other.toNat_lt
  have bound := (distinct.subperm below).length_le
  rwa [List.length_map, List.length_cons, rests.length_statements, List.length_range] at bound

theorem note (rests : Rests data spare shared) (thread : Thread) (event : Event) :
    Rests data spare (PageSource.note thread event shared) := by
  obtain ⟨replies, mail, sound⟩ := rests.sound
  exact { rests with sound := ⟨replies, mail, { sound with flows := sound.flows.note thread event }⟩ }

/-- Something is learned, or forgotten, about a statement of which no page is under way. -/
theorem relearn {arities : List (UInt64 × Nat)} (rests : Rests data spare shared)
    (stays : ∀ id ∈ shared.statements, arities.lookup id = shared.session.arities.lookup id) :
    Rests data spare { shared with session := { shared.session with arities } } := by
  obtain ⟨replies, mail, sound⟩ := rests.sound
  refine { rests with sound := ⟨replies, mail, { sound with honest := fun number errand found => ?_ }⟩ }
  refine (sound.honest number errand found).elsewhere (fun _ _ => rfl) fun request fetched => stays _ ?_
  exact mem_statements.mpr ⟨number, request, fetched ▸ mem_pages found sound, rfl⟩

/-- A page is requested. -/
theorem start (rests : Rests data spare shared) (shows : shared.talk.Shows request.statement table)
    (arity_eq : shared.session.arities.lookup request.statement = some table.columns.length)
    (fits : (Response.page (table.page request.offset request.size)).Fits)
    (alone : request.statement ∉ shared.statements) :
    ∃ after, PageSource.start request shared = (shared.spawned, after) ∧ Rests data spare after ∧
      after.talk = shared.talk ∧ after.session.arities = shared.session.arities ∧
      after.pages = shared.pages ++ [(shared.spawned, some request)] := by
  obtain ⟨replies, mail, sound⟩ := rests.sound
  have begun := sound.begin (rests.length_lt alone) ⟨shows, arity_eq, rfl, fits⟩
  have pages_eq : (shared.spawn (.begun request)).2.pages = shared.pages ++ [(shared.spawned, some request)] :=
    List.map_append
  have apart {number : Nat} {other : PageRequest} (member : (number, some other) ∈ shared.pages) :
      other.statement ≠ request.statement :=
    fun same => alone (mem_statements.mpr ⟨number, other, member, same⟩)
  have still : Rests data spare (shared.spawn (.begun request)).2 := {
    sound := ⟨_, _, begun⟩
    numbered := rests.numbered
    fetching := by
      rw [pages_eq]
      exact List.forall_mem_append.mpr ⟨rests.fetching, List.forall_mem_singleton.mpr rfl⟩
    single := by
      rw [pages_eq]
      intro number other first second member member' same
      rcases List.mem_append.mp member with listed | new <;> rcases List.mem_append.mp member' with listed' | new'
      · exact rests.single number other first second listed listed' same
      · obtain ⟨rfl, ⟨⟩⟩ := Prod.mk.inj (List.mem_singleton.mp new')
        exact absurd same (apart listed)
      · obtain ⟨rfl, ⟨⟩⟩ := Prod.mk.inj (List.mem_singleton.mp new)
        exact absurd same.symm (apart listed')
      · obtain ⟨rfl, -⟩ := Prod.mk.inj (List.mem_singleton.mp new)
        exact (Prod.mk.inj (List.mem_singleton.mp new')).1.symm }
  obtain ⟨rest, sound, moved⟩ := begun.pause
  exact ⟨_, rfl, still.of_moved sound moved, moved.talk_eq, moved.arities_eq, moved.pages_eq.trans pages_eq⟩

/-- A call gets the response that the server has for it, and leaves the pages under way alone. -/
theorem call {request : Request} (rests : Rests data spare shared) (small : request.Fits)
    (answered : shared.talk.answer data request = .ok (.one response, next)) (fits : response.Fits)
    (numbered : next.Numbered left) (free : id ∉ shared.statements)
    (stays : ∀ id ∈ shared.statements, next.statement? id = shared.talk.statement? id) (limit : Duration) :
    ∃ after, Shared.call request limit shared = (response.outcome, after) ∧ Rests data left after ∧
      after.talk = next ∧ after.session.arities = shared.session.arities ∧ after.pages = shared.pages := by
  obtain ⟨replies, mail, sound⟩ := rests.sound
  obtain ⟨mail, sound, paused⟩ := sound.pause
  have calm := rests.of_moved sound paused
  have statements_eq : shared.pause.statements = shared.statements := by rw [statements, paused.pages_eq, statements]
  rw [← paused.talk_eq] at answered stays
  rw [← statements_eq] at free stays
  obtain ⟨call, link, submitted, talk_eq, begun⟩ := sound.submit (calm.length_lt free) small answered fits stays
  let number := shared.pause.spawned
  let sent := ({ shared.pause with session := { shared.pause.session with link } }.spawn (.waiting none call)).2
  have found : sent.errands.lookup number = some (.waiting none call) :=
    begun.lookup_iff.mpr (List.mem_append_right _ (List.mem_singleton_self _))
  obtain ⟨mail, errand, arrived, waited, there, page_eq, late⟩ := begun.await found (Nat.le_refl _)
  obtain ⟨reply, rfl⟩ := Errand.exists_answered page_eq late
  have reply_eq : reply = response.outcome := by
    rw [(arrived.honest number _ there).reply none reply rfl, Function.update_self]
  have called : Shared.call request limit shared = (response.outcome, (sent.await number).dismiss number) := by
    rw [← reply_eq]
    exact call_of_answered sound.is_open submitted rfl there limit
  obtain ⟨dismissed, pages_eq⟩ := arrived.dismiss there late
  have sent_eq : sent.pages = shared.pause.pages ++ [(number, none)] := List.map_append
  rw [waited.pages_eq, sent_eq, sound.pages_without_last none, paused.pages_eq] at pages_eq
  have talk_eq : ((sent.await number).dismiss number).talk = next := waited.talk_eq.trans talk_eq
  refine ⟨_, called, ?_, talk_eq, waited.arities_eq.trans paused.arities_eq, pages_eq⟩
  exact {
    sound := ⟨_, _, dismissed⟩
    numbered := by rw [talk_eq]; exact numbered
    fetching := by rw [pages_eq]; exact rests.fetching
    single := by rw [pages_eq]; exact rests.single }

/-- A page that is waited for is the one that was asked for. -/
theorem finish (rests : Rests data spare shared) (listed : (number, some request) ∈ shared.pages)
    (shows : shared.talk.Shows request.statement table) :
    ∃ after, PageSource.finish number shared =
        (Page.ofWire table.columns.length (table.page request.offset request.size), after) ∧ Rests data spare after ∧
      after.talk = shared.talk ∧ after.session.arities = shared.session.arities ∧
      after.pages = shared.pages.filter (·.1 ≠ number) := by
  obtain ⟨replies, mail, sound⟩ := rests.sound
  obtain ⟨mail, sound, paused⟩ := sound.pause
  obtain ⟨errand, found, fetched⟩ := sound.exists_errand (paused.pages_eq ▸ listed)
  obtain ⟨mail, asked, gone⟩ := sound.step number
  obtain ⟨mail, next, arrived, waited, there, page_eq, late⟩ :=
    asked.await (lookup_step found) (errand.one_le_stage_step shared.pause.session)
  have still : next.page? = some request := by
    obtain ⟨gone_on, here, same, -⟩ := gone.further number errand found
    obtain rfl := Option.some.inj (here.symm.trans (lookup_step found))
    rw [page_eq, same, fetched]
  obtain ⟨outcome, settled⟩ := Errand.exists_settled still late
    ((shared.pause.perform (.step number)).await number).session
  obtain ⟨mail, read, last⟩ := arrived.step number
  have here := lookup_step there
  rw [settled] at here
  have moved := ((paused.trans gone).trans waited).trans last
  have honest := read.honest number _ here
  obtain ⟨other, serves⟩ := honest.page request rfl
  obtain rfl : other = table := serves.shows.unique (moved.talk_eq ▸ shows)
  have outcome_eq := honest.outcome request outcome other rfl serves
  obtain ⟨dismissed, pages_eq⟩ := read.dismiss here (by decide : 2 ≤ 3)
  rw [moved.pages_eq] at pages_eq
  have finished : PageSource.finish number shared =
      (outcome, (((shared.pause.perform (.step number)).await number).perform (.step number)).dismiss number) := by
    change Shared.finish number shared = _
    rw [Shared.finish, here]
  refine ⟨_, finished.trans (congrArg (·, _) outcome_eq), ?_, moved.talk_eq, moved.arities_eq, pages_eq⟩
  exact {
    sound := ⟨_, _, dismissed⟩
    numbered := (congrArg (Conversation.Numbered spare) moved.talk_eq).mpr rests.numbered
    fetching := by
      rw [pages_eq]
      exact fun entry member => rests.fetching entry (List.mem_of_mem_filter member)
    single := by
      rw [pages_eq]
      exact fun number other first second member member' same => rests.single number other first second
        (List.mem_of_mem_filter member) (List.mem_of_mem_filter member') same }

end Rests

instance : Attached (Shared Serving) Nat where
  talk := talk
  arities shared := shared.session.arities
  Rests := Rests
  Awaits number request table shared :=
    (number, some request) ∈ shared.pages ∧ shared.talk.Shows request.statement table
  Free id shared := id ∉ shared.statements

/-- Whatever is done about one statement. -/
private theorem spares_of_pages {statement : UInt64} (latest_le : shared.talk.latest.toNat ≤ after.talk.latest.toNat)
    (others : ∀ id, id.toNat ≤ shared.talk.latest.toNat → id ≠ statement →
      after.talk.statement? id = shared.talk.statement? id)
    (stays : ∀ id, id ≠ statement → after.session.arities.lookup id = shared.session.arities.lookup id)
    (pages_iff : ∀ number request, request.statement ≠ statement →
      ((number, some request) ∈ after.pages ↔ (number, some request) ∈ shared.pages)) :
    Attached.Spares statement shared after where
  latest_le := latest_le
  statement_eq := others
  arity_eq id _ := stays id
  awaits number request table given differs awaits := by
    obtain ⟨listed, sql, known⟩ := awaits
    exact ⟨(pages_iff number request differs).mpr listed, sql, (others _ given differs).trans known⟩
  free id given differs free member := by
    obtain ⟨number, request, listed, rfl⟩ := mem_statements.mp member
    exact free (mem_statements.mpr ⟨number, request, (pages_iff number request differs).mp listed, rfl⟩)

instance : Faithful (Shared Serving) where
  numbered rests := rests.numbered
  mono rests le := rests.mono le
  free_of_lt rests beyond member := absurd (rests.statement_le member) (Nat.not_le_of_lt beyond)
  note thread event rests := ⟨rests.note thread event, ⟨rfl, rfl, fun _ _ _ awaits => awaits, fun _ free => free⟩⟩
  learnArity {data spare shared statement} arity rests free :=
    ⟨rests.relearn fun _ member => Session.lookup_learnArity_ne (ne_of_mem_of_not_mem member free) _,
      spares_of_pages (Nat.le_refl _) (fun _ _ _ => rfl) (fun id differs => Session.lookup_learnArity_ne differs _)
        fun _ _ _ => Iff.rfl, rfl, List.lookup_cons_self, free⟩
  call {data spare left shared statement request response next} limit rests small answered fits numbered latest_le
      free others := by
    obtain ⟨after, called, still, rfl, arities_eq, pages_eq⟩ := rests.call small answered fits numbered free
      (fun id member => others id (rests.statement_le member) (ne_of_mem_of_not_mem member free)) limit
    have statements_eq : after.statements = shared.statements := by rw [statements, pages_eq, statements]
    refine ⟨after, called, still, spares_of_pages latest_le others ?_ ?_, rfl, ?_⟩
    · exact fun id _ => by rw [arities_eq]
    · exact fun number request _ => by rw [pages_eq]
    · change statement ∉ after.statements
      rw [statements_eq]
      exact free
  start {data spare shared request table} rests shows arity_eq fits free := by
    obtain ⟨after, started, still, talk_eq, arities_eq, pages_eq⟩ := rests.start shows arity_eq fits free
    refine ⟨shared.spawned, after, started, still, ?_, talk_eq, arities_eq, ?_, ?_⟩
    · refine spares_of_pages (by rw [talk_eq]) (fun _ _ _ => by rw [talk_eq]) (fun _ _ => by rw [arities_eq]) ?_
      intro number other differs
      rw [pages_eq, List.mem_append, List.mem_singleton]
      refine or_iff_left fun same => differs ?_
      rw [Option.some.inj (Prod.mk.inj same).2]
    · rw [pages_eq]
      exact List.mem_append_right _ (List.mem_singleton_self _)
    · rw [talk_eq]
      exact shows
  finish {data spare shared number request table} rests awaits := by
    obtain ⟨listed, shows⟩ := awaits
    obtain ⟨after, finished, still, talk_eq, arities_eq, pages_eq⟩ := rests.finish listed shows
    obtain ⟨replies, mail, sound⟩ := rests.sound
    refine ⟨after, finished, still, ?_, talk_eq, arities_eq, fun member => ?_⟩
    · refine spares_of_pages (by rw [talk_eq]) (fun _ _ _ => by rw [talk_eq]) (fun _ _ => by rw [arities_eq]) ?_
      intro other request' differs
      rw [pages_eq, List.mem_filter]
      refine and_iff_left_of_imp fun member => decide_eq_true ?_
      rintro rfl
      exact differs (congrArg _ (Option.some.inj (sound.page_unique member listed)))
    -- the page was the only one of its statement
    · obtain ⟨other, request', listed', same⟩ := mem_statements.mp member
      rw [pages_eq] at listed'
      obtain ⟨member, apart⟩ := List.mem_filter.mp listed'
      exact of_decide_eq_true apart (rests.single other number request' request member listed same)
  closeResult_eq _ _ _ := rfl
  closeStatement_eq {data spare shared statement} limit rests free := by
    have stays (id : UInt64) (differs : id ≠ statement) :
        (shared.session.forgetArity statement).arities.lookup id = shared.session.arities.lookup id := by
      refine lookup_filter_ne.trans (if_neg differs)
    exact ⟨{ shared with session := shared.session.forgetArity statement }, rfl,
      rests.relearn fun id member => stays id (ne_of_mem_of_not_mem member free),
      spares_of_pages (Nat.le_refl _) (fun _ _ _ => rfl) stays fun _ _ _ => Iff.rfl, rfl, free⟩

end Shared

end PagedResults
