import PagedResults.Proofs.Cursor.Discipline
import PagedResults.Proofs.ScriptedSource

/-! # When a cursor requests pages

The contacts of a cursor with its source are disciplined at any time during any sequence of calls. Over a
source that serves a result in pages of the size asked for, the number of requests follows by counting:
as long as more may come every page was full, so that the last request was for a row still to be shown.
-/

namespace PagedResults

/-! ## Counting the pages of a result -/

/-- The page that a source of `rows` serves: as many rows as were asked for, as far as there are any,
and marked if it reaches the end. -/
def Page.serving (rows : List Row) (request : PageRequest) : Page where
  offset := request.offset
  isLast := rows.length ≤ request.offset.toNat + request.size.toNat
  rows := (rows.drop request.offset.toNat).take request.size.toNat

/-- The contacts with a source that serves a result behind its first page. Requests may fail as well. -/
structure Contact.Serve (rows : List Row) (first : Page) (contacts : List Contact) : Prop where
  addressable : rows.length < UInt64.size
  first_offset : first.offset = 0
  first_rows : first.rows <+: rows
  first_isLast : first.isLast = true ↔ rows.length ≤ first.rows.length
  served : ∀ request page, .ended request (.ok page) ∈ contacts → page = Page.serving rows request

theorem Contact.Serve.of_append {rows : List Row} {first : Page} {before after : List Contact}
    (serve : Contact.Serve rows first (before ++ after)) : Contact.Serve rows first before :=
  { serve with served := fun request page member =>
      serve.served request page (List.mem_append_left _ member) }

/-- The number of pages of `size` rows that hold `count` rows. -/
def pagesFor (count size : Nat) : Nat := (count + size - 1) / size

namespace Cursor

variable {statement : UInt64} {options : FetchOptions} {first : Page} {contacts : List Contact}
  {rows : List Row}

/-- What has happened so far was disciplined as well. -/
theorem Disciplined.of_append {before after : List Contact}
    (disciplined : Disciplined statement options first (before ++ after)) :
    Disciplined statement options first before where
  one_at_a_time := by
    intro earlier later split
    exact disciplined.one_at_a_time earlier (later ++ after) (by rw [split, List.append_assoc])
  ends_started := by
    intro earlier request outcome later split
    exact disciplined.ends_started earlier request outcome (later ++ after)
      (by rw [split, List.append_assoc, List.cons_append])
  request_eq := by
    intro earlier request later split
    exact disciplined.request_eq earlier request (later ++ after)
      (by rw [split, List.append_assoc, List.cons_append])
  unspent := by
    intro earlier request later split
    exact disciplined.unspent earlier request (later ++ after)
      (by rw [split, List.append_assoc, List.cons_append])

/-- Where a cursor stands in a result that is served to it. -/
structure Standing (rows : List Row) (options : FetchOptions) (first : Page) (contacts : List Contact) :
    Prop where
  accepted_eq : Contact.accepted contacts = Contact.pages contacts
  next_eq : ((Contact.accepted contacts).getLastD first).next.toNat =
    Page.total (first :: Contact.accepted contacts)
  total_le : Page.total (first :: Contact.accepted contacts) ≤ rows.length
  total_le_pages : Page.total (first :: Contact.accepted contacts) ≤
    first.rows.length + (Contact.pages contacts).length * options.effectiveFetchSize.toNat
  /-- As long as more may come, every page behind the first one was full. -/
  full : options.Unspent (first :: Contact.accepted contacts) →
    Page.total (first :: Contact.accepted contacts) =
      first.rows.length + (Contact.pages contacts).length * options.effectiveFetchSize.toNat ∧
    Page.total (first :: Contact.accepted contacts) < rows.length

/-- Only answers change where a cursor stands. -/
theorem Standing.aside (standing : Standing rows options first contacts) {newest : Contact}
    (unanswered : newest.answered? = none) : Standing rows options first (contacts ++ [newest]) := by
  have nothing : Contact.pages [newest] = [] := List.filterMap_cons_none unanswered
  have pages : Contact.pages (contacts ++ [newest]) = Contact.pages contacts := by
    rw [Contact.pages_append, nothing, List.append_nil]
  have accepted : Contact.accepted (contacts ++ [newest]) = Contact.accepted contacts := by
    rw [Contact.accepted, pages]
    rfl
  constructor
  · rw [accepted, pages, standing.accepted_eq]
  · rw [accepted, standing.next_eq]
  · rw [accepted]
    exact standing.total_le
  · rw [accepted, pages]
    exact standing.total_le_pages
  · rw [accepted, pages]
    exact standing.full

/-- One more page, requested where the pages before it end. -/
theorem Standing.page (standing : Standing rows options first contacts)
    (addressable : rows.length < UInt64.size)
    (unspent : options.Unspent (first :: Contact.accepted contacts)) {request : PageRequest}
    (asked : request = options.ask statement ((Contact.accepted contacts).getLastD first).next) :
    Standing rows options first (contacts ++ [.ended request (.ok (Page.serving rows request))]) := by
  obtain ⟨full, inside⟩ := standing.full unspent
  have offset : (Page.serving rows request).offset.toNat =
      Page.total (first :: Contact.accepted contacts) := by
    rw [← standing.next_eq, asked]
    rfl
  have length : (Page.serving rows request).rows.length = min options.effectiveFetchSize.toNat
      (rows.length - Page.total (first :: Contact.accepted contacts)) := by
    rw [← offset, Page.serving, List.length_take, List.length_drop, asked]
    rfl
  have isLast : (Page.serving rows request).isLast = false →
      Page.total (first :: Contact.accepted contacts) + options.effectiveFetchSize.toNat < rows.length := by
    intro unmarked
    rw [← offset]
    have short := of_decide_eq_false unmarked
    rw [asked] at short ⊢
    exact Nat.lt_of_not_le short
  -- of the page, only its place, its length and its mark matter from here on
  generalize Page.serving rows request = page at offset length isLast
  have wordSize : UInt64.size = 2 ^ 64 := rfl
  have fits : page.offset.toNat + page.rows.length < UInt64.size := by omega
  have accepted := Supply.accepted_page contacts request (decide_eq_true fits)
  have pages : Contact.pages (contacts ++ [.ended request (.ok page)]) = Contact.pages contacts ++ [page] :=
    Contact.pages_append _ _
  have total : Page.total (first :: (Contact.accepted contacts ++ [page])) =
      Page.total (first :: Contact.accepted contacts) + page.rows.length := by
    rw [← List.cons_append, Page.total_append]
    rfl
  constructor
  · rw [accepted, pages, standing.accepted_eq]
  · rw [accepted, total, List.getLastD_concat, Page.next, ← offset, UInt64.toNat_add, UInt64.toNat_ofNat',
      Nat.mod_eq_of_lt (by omega : page.rows.length < 2 ^ 64), Nat.mod_eq_of_lt fits]
  · rw [accepted, total]
    omega
  · rw [accepted, pages, total, full, List.length_append, List.length_singleton, Nat.succ_mul]
    omega
  · intro more
    rw [accepted] at more ⊢
    have unmarked := isLast (more.unmarked page (by simp))
    rw [pages, total, full, List.length_append, List.length_singleton, Nat.succ_mul]
    omega

/-- Before anything is requested, a cursor stands behind the first page. -/
theorem Standing.nil (serve : Contact.Serve rows first []) : Standing rows options first [] := by
  have within := serve.first_rows.length_le
  have addressable := serve.addressable
  have wordSize : UInt64.size = 2 ^ 64 := rfl
  have total : Page.total [first] = first.rows.length := Nat.add_zero _
  have none_yet : first.rows.length + 0 * options.effectiveFetchSize.toNat = first.rows.length := by
    rw [Nat.zero_mul, Nat.add_zero]
  refine ⟨rfl, ?_, total.trans_le within, total.trans_le none_yet.ge, ?_⟩
  · change first.next.toNat = Page.total [first]
    rw [total, Page.next, serve.first_offset, UInt64.zero_add, UInt64.toNat_ofNat',
      Nat.mod_eq_of_lt (by omega)]
  · intro more
    refine ⟨total.trans none_yet.symm, total.trans_lt ?_⟩
    by_contra whole
    have last := serve.first_isLast.mpr (Nat.le_of_not_lt whole)
    rw [more.unmarked first (List.mem_cons_self ..)] at last
    cases last

theorem answered?_eq_some {contact : Contact} {page : Page} (answered : contact.answered? = some page) :
    ∃ request, contact = .ended request (.ok page) := by
  unfold Contact.answered? at answered
  split at answered
  · exact ⟨_, by rw [Option.some.inj answered]⟩
  · cases answered

/-- What was answered last had been requested where the pages before it end, and because more could
come. -/
theorem Disciplined.answer {request : PageRequest} {outcome : Outcome Error Page}
    (disciplined : Disciplined statement options first (contacts ++ [.ended request outcome])) :
    request = options.ask statement ((Contact.accepted contacts).getLastD first).next ∧
    options.Unspent (first :: Contact.accepted contacts) := by
  obtain ⟨earlier, rfl⟩ := disciplined.ends_started contacts request _ [] rfl
  have split : earlier ++ [.started request] ++ [.ended request outcome] =
      earlier ++ .started request :: [.ended request outcome] := List.append_assoc ..
  have same : Contact.accepted (earlier ++ [.started request]) = Contact.accepted earlier := by
    rw [Contact.accepted_append]
    exact List.append_nil _
  rw [same]
  exact ⟨disciplined.request_eq earlier request _ split, disciplined.unspent earlier request _ split⟩

/-- A disciplined cursor stands behind the pages that it was served. -/
theorem Disciplined.standing (disciplined : Disciplined statement options first contacts)
    (serve : Contact.Serve rows first contacts) : Standing rows options first contacts := by
  -- contacts are added at the end, so the induction takes the newest one off; only an answer with a page
  -- moves the cursor on
  induction contacts using List.reverseRecOn with
  | nil => exact .nil serve
  | append_singleton contacts newest ih =>
    have before := ih disciplined.of_append serve.of_append
    cases answered : newest.answered? with
    | none => exact before.aside answered
    | some page =>
      obtain ⟨request, rfl⟩ := answered?_eq_some answered
      obtain ⟨asked, unspent⟩ := disciplined.answer
      rw [serve.served request page (List.mem_append_right _ (List.mem_singleton_self _))]
      exact before.page serve.addressable unspent asked

/-- The number of rows shown is the number of rows, up to the limit. -/
theorem unspent_lt_shown (unspent : options.Unspent (first :: Contact.accepted contacts))
    (inside : Page.total (first :: Contact.accepted contacts) < rows.length) :
    Page.total (first :: Contact.accepted contacts) < (options.shown rows).length := by
  rw [FetchOptions.shown]
  split
  · exact inside
  · next limited =>
    rw [List.length_take]
    exact lt_min (unspent.room.resolve_left limited) inside

/-- No more pages are requested than it takes to show the result. -/
theorem Disciplined.pages_le (disciplined : Disciplined statement options first contacts)
    (serve : Contact.Serve rows first contacts) :
    (Contact.pages contacts).length ≤
      pagesFor ((options.shown rows).length - first.rows.length) options.effectiveFetchSize.toNat := by
  induction contacts using List.reverseRecOn with
  | nil => exact Nat.zero_le _
  | append_singleton contacts newest ih =>
    have earlier := serve.of_append
    cases answered : newest.answered? with
    | none =>
      have nothing : Contact.pages [newest] = [] := List.filterMap_cons_none answered
      rw [Contact.pages_append, nothing, List.append_nil]
      exact ih disciplined.of_append earlier
    | some page =>
      obtain ⟨request, rfl⟩ := answered?_eq_some answered
      obtain ⟨-, unspent⟩ := disciplined.answer
      obtain ⟨full, inside⟩ := (disciplined.of_append.standing earlier).full unspent
      have shown := unspent_lt_shown unspent inside
      have one_more : (Contact.pages (contacts ++ [.ended request (.ok page)])).length =
          (Contact.pages contacts).length + 1 := by
        rw [Contact.pages_append, List.length_append]
        rfl
      rw [one_more, pagesFor, Nat.le_div_iff_mul_le options.effectiveFetchSize_pos, Nat.succ_mul]
      omega

/-- Once every row that is shown was handed on, that many pages were requested. -/
theorem Disciplined.le_pages (disciplined : Disciplined statement options first contacts)
    (serve : Contact.Serve rows first contacts)
    (shown : (options.shown rows).length ≤ Page.total (first :: Contact.accepted contacts)) :
    pagesFor ((options.shown rows).length - first.rows.length) options.effectiveFetchSize.toNat ≤
      (Contact.pages contacts).length := by
  have positive := options.effectiveFetchSize_pos
  have behind := (disciplined.standing serve).total_le_pages
  rw [pagesFor, Nat.div_le_iff_le_mul positive]
  omega

variable {σ ρ : Type} [PageSource σ ρ] {state : Cursor (PageRequest × ρ) × Watched σ}

/-- The supply of a cursor over a watched source, with disciplined contacts. -/
def Keeps (statement : UInt64) (options : FetchOptions) (first : Page)
    (state : Cursor (PageRequest × ρ) × Watched σ) : Prop :=
  Like (Supply.Same (Supply.Logged statement options first)) state state

omit [PageSource σ ρ] in
theorem Keeps.logged (keeps : Keeps statement options first state) :
    Supply.Logged statement options first (state.1.supply, state.2) := keeps.supply.2

theorem Keeps.after (keeps : Keeps statement options first state) (calls : List CursorCall) :
    Keeps statement options first (after calls state) :=
  after_alike (Supply.logged_likeness statement options first) calls keeps

theorem Keeps.contacts_grow (keeps : Keeps statement options first state) (calls : List CursorCall) :
    state.2.contacts <+: (Cursor.after calls state).2.contacts :=
  (after_alike (Supply.grows_likeness state.2.contacts) calls (keeps.self ⟨rfl, List.prefix_rfl⟩)).supply.2

/-- Closing a cursor requests nothing, and nothing is requested afterwards. -/
theorem Keeps.requests_closed (keeps : Keeps statement options first state) (later : List CursorCall) :
    Contact.requests (Cursor.after (.close :: later) state).2.contacts =
      Contact.requests state.2.contacts := by
  obtain ⟨closed, same⟩ := Supply.close_requests (state.1.supply, state.2)
  rw [← supply_perform_close] at closed same
  have there := (perform_alike (Supply.logged_likeness statement options first) .close keeps).2
  have still := after_alike (Supply.closed_likeness (Contact.requests state.2.contacts)) later
    (there.self ⟨rfl, closed, same⟩)
  exact still.supply.2.2

omit [PageSource σ ρ] in
/-- Every row seen was accepted. -/
theorem Keeps.seen_le (keeps : Keeps statement options first state) :
    state.1.seen ≤ Page.total (first :: Contact.accepted state.2.contacts) :=
  (Like.seen_le keeps).trans keeps.logged.surfaced_le

/-- Over any source and through any calls, a cursor requests one page at a time, each behind the page
accepted last, as long as more rows may come, and none once it is closed. Where the requests are answered
with the pages of a result, they are no more than it takes, and exactly that many once every row was
seen. Watching the source makes no difference to the cursor. -/
theorem requests_disciplined (statement : UInt64) {first : Page} (options : FetchOptions)
    (ownsStatement : Bool) (source : σ)
    (fits : first.offset.toNat + first.rows.length < UInt64.size) :
    ∃ cursor watched cursor' source',
      «open» statement first options ownsStatement (⟨source, []⟩ : Watched σ) = (.ok cursor, watched) ∧
      «open» statement first options ownsStatement source = (.ok cursor', source') ∧
      ∀ calls,
        (history calls (cursor, watched)).map Turn.sight =
          (history calls (cursor', source')).map Turn.sight ∧
        Disciplined statement options first (after calls (cursor, watched)).2.contacts ∧
        (∀ before later, calls = before ++ .close :: later →
          Contact.requests (after calls (cursor, watched)).2.contacts =
            Contact.requests (after before (cursor, watched)).2.contacts) ∧
        ∀ rows, Contact.Serve rows first (after calls (cursor, watched)).2.contacts →
          (Contact.pages (after calls (cursor, watched)).2.contacts).length ≤
            pagesFor ((options.shown rows).length - first.rows.length) options.effectiveFetchSize.toNat ∧
          ∀ before later, calls = before ++ later →
            (options.shown rows).length ≤ (after before (cursor, watched)).1.seen →
            (Contact.pages (after calls (cursor, watched)).2.contacts).length =
              pagesFor ((options.shown rows).length - first.rows.length)
                options.effectiveFetchSize.toNat := by
  obtain ⟨handed, supply, watched, plain, taken, took, fresh, taken', unwatched⟩ :=
    Watched.ofFirst_unwatched statement options ownsStatement source fits
  -- the cursor over the watched source is compared twice: with the one over the source itself, and with
  -- itself for what its contacts keep
  obtain ⟨cursor, cursor', opened, opened', like⟩ := open_alike taken taken' unwatched
  have logged : Supply.Same (Supply.Logged statement options first) (supply, watched) (supply, watched) :=
    ⟨rfl, .ofFirst took fresh⟩
  obtain ⟨_, _, again, again', keeps⟩ := open_alike taken taken logged
  rw [opened] at again again'
  cases again
  cases again'
  change Keeps statement options first (cursor, watched) at keeps
  refine ⟨cursor, watched, cursor', _, opened, opened', fun calls => ⟨?_, ?_, ?_, ?_⟩⟩
  · exact history_alike Watched.unwatched_likeness calls like
  · exact (keeps.after calls).logged.disciplined
  · rintro before later rfl
    rw [after_append]
    exact (keeps.after before).requests_closed later
  · intro rows serve
    have disciplined := (keeps.after calls).logged.disciplined
    have most := disciplined.pages_le serve
    refine ⟨most, ?_⟩
    rintro before later rfl seen
    -- the rows seen before `later` needed that many pages, and pages only get more
    refine Nat.le_antisymm most ?_
    obtain ⟨more, grown⟩ := (keeps.after before).contacts_grow later
    rw [after_append] at serve ⊢
    rw [← grown] at serve ⊢
    have least := (keeps.after before).logged.disciplined.le_pages serve.of_append
      (seen.trans (keeps.after before).seen_le)
    rw [Contact.pages_append, List.length_append]
    exact Nat.le_add_right_of_le least

/-- A source of three rows that first fails and then halts its thread is asked for the second page until it
answers, and then for the third. By the time that all rows were seen, two requests were answered with a page, as
many as it takes. -/
theorem requests_interrupted :
    ScriptedSource.firstOfThree.offset.toNat + ScriptedSource.firstOfThree.rows.length < UInt64.size ∧
    ∃ cursor watched,
      «open» 1 ScriptedSource.firstOfThree { fetchSize := 1 } false
        (⟨ScriptedSource.interrupted, []⟩ : Watched ScriptedSource) = (.ok cursor, watched) ∧
      (∀ calls, Disciplined 1 { fetchSize := 1 } ScriptedSource.firstOfThree
        (after calls (cursor, watched)).2.contacts) ∧
      let contacts := (after (List.replicate 5 .next) (cursor, watched)).2.contacts
      (Contact.requests contacts).map (fun request => request.offset) = [1, 1, 1, 2] ∧
        Contact.Serve (Table.seriesRows 0 3) ScriptedSource.firstOfThree contacts ∧
        (Contact.pages contacts).length = pagesFor 2 1 := by
  have fits : ScriptedSource.firstOfThree.offset.toNat + ScriptedSource.firstOfThree.rows.length <
      UInt64.size := by decide
  obtain ⟨cursor, watched, _, _, opened, -, keeps⟩ :=
    requests_disciplined 1 { fetchSize := 1 } false ScriptedSource.interrupted fits
  let ask (offset : UInt64) : PageRequest := ⟨1, offset, 1, ({ fetchSize := 1 } : FetchOptions).timeout⟩
  let page (offset : UInt64) : Page := .serving (Table.seriesRows 0 3) (ask offset)
  have contacts_eq : (after (List.replicate 5 .next) (cursor, watched)).2.contacts =
      [.started (ask 1), .ended (ask 1) (Outcome.fail .connectionClosed), .started (ask 1),
        .ended (ask 1) (Outcome.halt (.raised "lost")), .started (ask 1), .ended (ask 1) (.ok (page 1)),
        .started (ask 2), .ended (ask 2) (.ok (page 2))] := by
    cases opened
    rfl
  have seen_eq : (after (List.replicate 5 .next) (cursor, watched)).1.seen = 3 := by
    cases opened
    rfl
  have serve : Contact.Serve (Table.seriesRows 0 3) ScriptedSource.firstOfThree
      (after (List.replicate 5 .next) (cursor, watched)).2.contacts := by
    refine ⟨by decide, rfl, ⟨(Table.seriesRows 0 3).drop 1, rfl⟩, by decide, fun request given member => ?_⟩
    rw [contacts_eq] at member
    simp only [List.mem_cons, List.not_mem_nil, Contact.ended.injEq, reduceCtorEq, and_false, false_or,
      or_false, Except.ok.injEq, Outcome.fail, Outcome.halt] at member
    obtain ⟨rfl, rfl⟩ | ⟨rfl, rfl⟩ := member <;> rfl
  refine ⟨fits, cursor, watched, opened, fun calls => (keeps calls).2.1, ?_, serve, ?_⟩
  · rw [contacts_eq]
    rfl
  · exact ((keeps _).2.2.2 _ serve).2 (List.replicate 5 .next) [] (List.append_nil _).symm seen_eq.ge

end Cursor

end PagedResults
