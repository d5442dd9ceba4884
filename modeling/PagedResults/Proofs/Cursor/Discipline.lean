import PagedResults.Proofs.Cursor.Watched

/-! # Disciplined contacts

Whatever a source does, its pages are requested one at a time, each where the last accepted page ended,
and none once it is known that no page follows or once the supply is closed. `Cursor.Disciplined` says so
about the contacts with the source, and `Supply.Logged` carries it through every operation of a supply,
together with the books of the pages accepted so far.
-/

namespace PagedResults

/-! ## The pages so far -/

/-- The place behind a page. -/
def Page.next (page : Page) : UInt64 := page.offset + UInt64.ofNat page.rows.length

/-- The place behind a page is a valid offset; the cursor accepts no other page. -/
def Page.fits (page : Page) : Bool := page.offset.toNat + page.rows.length < UInt64.size

/-- The number of rows of several pages. -/
def Page.total : List Page → Nat
  | [] => 0
  | page :: rest => page.rows.length + Page.total rest

namespace Contact

/-- The requests that were started. -/
def requests (contacts : List Contact) : List PageRequest := contacts.filterMap started?

/-- The requests that have ended, and what they came to. -/
def endings (contacts : List Contact) : List (PageRequest × Outcome Error Page) :=
  contacts.filterMap ended?

/-- The pages that requests were answered with. -/
def pages (contacts : List Contact) : List Page := contacts.filterMap answered?

/-- The pages accepted after the first one. -/
def accepted (contacts : List Contact) : List Page := (pages contacts).filter Page.fits

end Contact

/-- None of the pages was marked as the last, none was empty, and the rows are fewer than the options
let through. -/
structure FetchOptions.Unspent (options : FetchOptions) (pages : List Page) : Prop where
  unmarked : ∀ page ∈ pages, page.isLast = false
  nonempty : ∀ page ∈ pages, page.rows ≠ []
  room : options.maxRows = 0 ∨ Page.total pages < options.maxRows.toNat

/-- How a cursor requests pages behind the first one. -/
structure Cursor.Disciplined (statement : UInt64) (options : FetchOptions) (first : Page)
    (contacts : List Contact) : Prop where
  /-- At any time at most one request is started and has not ended. -/
  one_at_a_time : ∀ before after, contacts = before ++ after →
    (Contact.endings before).length ≤ (Contact.requests before).length ∧
    (Contact.requests before).length ≤ (Contact.endings before).length + 1
  /-- What ends is the request that was started just before. -/
  ends_started : ∀ before request outcome after, contacts = before ++ .ended request outcome :: after →
    ∃ earlier, before = earlier ++ [.started request]
  /-- A request asks for the effective number of rows behind the page accepted last. -/
  request_eq : ∀ before request after, contacts = before ++ .started request :: after →
    request = options.ask statement ((Contact.accepted before).getLastD first).next
  /-- A request is started only if more rows may come. -/
  unspent : ∀ before request after, contacts = before ++ .started request :: after →
    options.Unspent (first :: Contact.accepted before)

namespace Contact

variable (contacts others : List Contact)

theorem requests_append : requests (contacts ++ others) = requests contacts ++ requests others :=
  List.filterMap_append

theorem endings_append : endings (contacts ++ others) = endings contacts ++ endings others :=
  List.filterMap_append

theorem pages_append : pages (contacts ++ others) = pages contacts ++ pages others :=
  List.filterMap_append

theorem accepted_append : accepted (contacts ++ others) = accepted contacts ++ accepted others := by
  rw [accepted, pages_append, List.filter_append]
  rfl

end Contact

theorem Page.total_append (pages others : List Page) :
    Page.total (pages ++ others) = Page.total pages + Page.total others := by
  induction pages with
  | nil => rw [List.nil_append, total, Nat.zero_add]
  | cons page rest ih => rw [List.cons_append, total, total, ih, Nat.add_assoc]

namespace Cursor

/-- One more contact. -/
theorem Disciplined.snoc {statement : UInt64} {options : FetchOptions} {first : Page}
    {contacts : List Contact} (disciplined : Disciplined statement options first contacts)
    (newest : Contact)
    (alone : (Contact.endings (contacts ++ [newest])).length ≤
        (Contact.requests (contacts ++ [newest])).length ∧
      (Contact.requests (contacts ++ [newest])).length ≤
        (Contact.endings (contacts ++ [newest])).length + 1)
    (ends : ∀ request outcome, newest = .ended request outcome →
      ∃ earlier, contacts = earlier ++ [.started request])
    (asks : ∀ request, newest = .started request →
      request = options.ask statement ((Contact.accepted contacts).getLastD first).next ∧
      options.Unspent (first :: Contact.accepted contacts)) :
    Disciplined statement options first (contacts ++ [newest]) where
  one_at_a_time := by
    intro before after split
    rcases List.eq_nil_or_concat after with rfl | ⟨rest, last, rfl⟩
    · rw [List.append_nil] at split
      exact split ▸ alone
    · rw [List.concat_eq_append, ← List.append_assoc] at split
      -- a record that the newest contact is not part of was there before
      exact disciplined.one_at_a_time before rest (List.append_inj' split rfl).1
  ends_started := by
    intro before request outcome after split
    rcases snoc_cases split with ⟨rfl, same, -⟩ | ⟨rest, inside, -⟩
    · exact ends request outcome same
    · exact disciplined.ends_started before request outcome rest inside
  request_eq := by
    intro before request after split
    rcases snoc_cases split with ⟨rfl, same, -⟩ | ⟨rest, inside, -⟩
    · exact (asks request same).1
    · exact disciplined.request_eq before request rest inside
  unspent := by
    intro before request after split
    rcases snoc_cases split with ⟨rfl, same, -⟩ | ⟨rest, inside, -⟩
    · exact (asks request same).2
    · exact disciplined.unspent before request rest inside

theorem Disciplined.nil {statement : UInt64} {options : FetchOptions} {first : Page} :
    Disciplined statement options first [] where
  one_at_a_time before after split := by
    obtain ⟨rfl, -⟩ := List.append_eq_nil_iff.mp split.symm
    exact ⟨Nat.le_refl _, Nat.zero_le _⟩
  ends_started before _ _ after split := by simp at split
  request_eq before _ after split := by simp at split
  unspent before _ after split := by simp at split

end Cursor

/-! ## The supply keeps the discipline -/

namespace Supply

variable {σ ρ : Type}

/-- The books of a supply agree with the pages it has accepted. -/
structure Books (options : FetchOptions) (pages : List Page) (supply : Supply ρ) : Prop where
  next_eq : ∀ page, pages.getLast? = some page → supply.nextOffset = page.next
  unspent : supply.exhausted = false → options.Unspent pages ∧ supply.surfaced = Page.total pages

/-- Taking in one more page. -/
theorem Books.take {options : FetchOptions} {pages : List Page} {supply taken : Supply ρ} {page : Page}
    {rows : List Row} (books : Books options pages supply) (same : supply.options = options)
    (took : supply.take page = .ok (rows, taken)) : Books options (pages ++ [page]) taken := by
  subst same
  obtain ⟨nextOffset, advanced, rfl, rfl⟩ := take_eq_ok took
  have next : nextOffset = page.next := by
    rw [advance] at advanced
    split at advanced
    · exact (Except.ok.inj advanced).symm
    · cases advanced
  constructor
  · intro last newest
    rw [List.getLast?_concat] at newest
    obtain rfl := Option.some.inj newest
    exact next
  · intro unfinished
    -- the supply is not exhausted, so the page was neither marked nor empty, and no row of it was cut off
    simp only [Bool.or_eq_false_iff] at unfinished
    obtain ⟨⟨⟨more, unmarked⟩, nonempty⟩, partly⟩ := unfinished
    obtain ⟨unspent, surfaced⟩ := books.unspent more
    have total : Page.total (pages ++ [page]) = Page.total pages + page.rows.length := by
      rw [Page.total_append]
      rfl
    refine ⟨⟨?_, ?_, ?_⟩, ?_⟩
    · intro other member
      rcases List.mem_append.mp member with earlier | newest
      · exact unspent.unmarked other earlier
      · exact List.mem_singleton.mp newest ▸ unmarked
    · intro other member
      rcases List.mem_append.mp member with earlier | newest
      · exact unspent.nonempty other earlier
      · obtain rfl := List.mem_singleton.mp newest
        exact List.isEmpty_eq_false_iff.mp nonempty
    · have room := mt (supply.room_any_iff page.rows.length).mpr (Bool.eq_false_iff.mp partly)
      rw [total, ← surfaced]
      by_cases unlimited : supply.options.maxRows = 0
      · exact .inl unlimited
      · exact .inr (Nat.lt_of_not_le fun reached => room ⟨unlimited, reached⟩)
    · rw [total, ← surfaced]
      exact congrArg (fun rows : List Row => supply.surfaced + rows.length)
        (supply.take_room (Bool.eq_false_iff.mp partly))

/-- The contacts of a supply with its source so far are disciplined. -/
structure Logged (statement : UInt64) (options : FetchOptions) (first : Page)
    (state : Supply (PageRequest × ρ) × Watched σ) : Prop where
  statement_eq : state.1.statement = statement
  options_eq : state.1.options = options
  disciplined : Cursor.Disciplined statement options first state.2.contacts
  idle : state.1.inFlight = none →
    (Contact.endings state.2.contacts).length = (Contact.requests state.2.contacts).length
  busy : ∀ offset request, state.1.inFlight = some (offset, request) →
    ∃ earlier, state.2.contacts = earlier ++ [.started request.1] ∧
      (Contact.endings earlier).length = (Contact.requests earlier).length
  books : state.1.closed = false →
    Books options (first :: Contact.accepted state.2.contacts) state.1
  surfaced_le : state.1.surfaced ≤ Page.total (first :: Contact.accepted state.2.contacts)

variable [PageSource σ ρ] {statement : UInt64} {options : FetchOptions} {first : Page}
  {state : Supply (PageRequest × ρ) × Watched σ}

/-- A request is started at the place behind the last accepted page. -/
theorem Logged.prefetch (logged : Logged statement options first state) (isOpen : state.1.closed = false) :
    Logged statement options first (prefetch state) := by
  obtain ⟨supply, watched⟩ := state
  obtain ⟨rfl, rfl, disciplined, balanced, busy, books, surfaced_le⟩ := logged
  by_cases underWay : supply.exhausted = true ∨ supply.inFlight.isSome = true
  · rw [prefetch_busy supply watched underWay]
    exact ⟨rfl, rfl, disciplined, balanced, busy, books, surfaced_le⟩
  · obtain ⟨more, idle⟩ : supply.exhausted = false ∧ supply.inFlight = none := by
      simpa [not_or] using underWay
    obtain ⟨next_eq, unspent⟩ := books isOpen
    -- nothing is under way, so every request so far has ended
    have even := balanced idle
    have accepted : Contact.accepted (watched.contacts ++ [.started supply.request]) =
        Contact.accepted watched.contacts := by
      rw [Contact.accepted_append]
      exact List.append_nil _
    rw [prefetch_idle supply watched more idle]
    refine ⟨rfl, rfl, disciplined.snoc _ ?_ nofun ?_, nofun, ?_, ?_, ?_⟩
    · rw [Contact.requests_append, Contact.endings_append, List.length_append, List.length_append, even]
      exact ⟨Nat.le_succ _, Nat.le_refl _⟩
    · rintro _ ⟨rfl⟩
      refine ⟨?_, (unspent more).1⟩
      rw [← next_eq _ (List.getLast?_cons.trans (by rw [List.getLastD_eq_getLast?]))]
      rfl
    · rintro _ _ ⟨rfl⟩
      exact ⟨watched.contacts, rfl, even⟩
    · intro _
      change Books _ (first :: Contact.accepted (watched.contacts ++ [.started supply.request])) _
      rw [accepted]
      exact ⟨next_eq, fun _ => unspent more⟩
    · change _ ≤ Page.total (first :: Contact.accepted (watched.contacts ++ [.started supply.request]))
      rw [accepted]
      exact surfaced_le

omit [PageSource σ ρ] in
/-- The request under way has ended, and its outcome is taken into account. -/
theorem Logged.settle {offset : UInt64} {request : PageRequest × ρ} {after : Supply (PageRequest × ρ)}
    {watched : Watched σ} (logged : Logged statement options first state)
    (started : state.1.inFlight = some (offset, request)) (outcome : Outcome Error Page)
    (contacts_eq : watched.contacts = state.2.contacts ++ [.ended request.1 outcome])
    (statement_eq : after.statement = state.1.statement) (options_eq : after.options = state.1.options)
    (idle : after.inFlight = none)
    (books : after.closed = false →
      Books options (first :: Contact.accepted (state.2.contacts ++ [.ended request.1 outcome])) after)
    (surfaced_le : after.surfaced ≤
      Page.total (first :: Contact.accepted (state.2.contacts ++ [.ended request.1 outcome]))) :
    Logged statement options first (after, watched) := by
  obtain ⟨earlier, recorded, even⟩ := logged.busy offset request started
  have balanced : (Contact.endings (state.2.contacts ++ [.ended request.1 outcome])).length =
      (Contact.requests (state.2.contacts ++ [.ended request.1 outcome])).length := by
    rw [Contact.endings_append, Contact.requests_append, recorded, Contact.endings_append,
      Contact.requests_append]
    simp only [List.length_append, even]
    rfl
  rw [← contacts_eq] at books surfaced_le balanced
  refine ⟨statement_eq.trans logged.statement_eq, options_eq.trans logged.options_eq, ?_, fun _ => balanced,
    fun _ _ busy => ?_, books, surfaced_le⟩
  · have alone : (Contact.endings watched.contacts).length ≤ (Contact.requests watched.contacts).length ∧
        (Contact.requests watched.contacts).length ≤ (Contact.endings watched.contacts).length + 1 :=
      ⟨balanced.le, balanced.ge.trans (Nat.le_succ _)⟩
    rw [contacts_eq] at alone ⊢
    refine logged.disciplined.snoc _ alone ?_ nofun
    rintro _ _ ⟨rfl, rfl⟩
    exact ⟨earlier, recorded⟩
  · rw [idle] at busy
    cases busy

omit [PageSource σ ρ] in
/-- More contacts leave as many rows accepted as before, or more. -/
theorem total_accepted_le (first : Page) (contacts others : List Contact) :
    Page.total (first :: Contact.accepted contacts) ≤
      Page.total (first :: Contact.accepted (contacts ++ others)) := by
  rw [Contact.accepted_append, ← List.cons_append, Page.total_append]
  exact Nat.le_add_right _ _

/-- A closed supply waits for its last request and takes nothing in. -/
theorem Logged.wait (logged : Logged statement options first state) (closed : state.1.closed = true) :
    Logged statement options first (wait state).2 := by
  obtain ⟨supply, watched⟩ := state
  rw [Supply.wait]
  split
  · exact logged
  · next offset request started =>
    refine logged.settle started _ rfl rfl rfl rfl (fun isOpen => ?_) ?_
    · rw [show supply.closed = true from closed] at isOpen
      cases isOpen
    · exact logged.surfaced_le.trans (total_accepted_le _ _ _)

omit [PageSource σ ρ] in
theorem accepted_page (contacts : List Contact) (request : PageRequest) {page : Page} (fits : page.fits = true) :
    Contact.accepted (contacts ++ [.ended request (.ok page)]) = Contact.accepted contacts ++ [page] := by
  have kept : [page].filter Page.fits = [page] := List.filter_cons_of_pos fits
  rw [Contact.accepted_append]
  exact congrArg (_ ++ ·) kept

omit [PageSource σ ρ] in
/-- A request that fails, or is answered with a page whose end has no offset, brings no accepted page. -/
theorem accepted_refused (contacts : List Contact) (request : PageRequest) {outcome : Outcome Error Page}
    (unfit : ∀ page, outcome = .ok page → page.fits = false) :
    Contact.accepted (contacts ++ [.ended request outcome]) = Contact.accepted contacts := by
  have dropped : Contact.accepted [.ended request outcome] = [] := by
    cases outcome with
    | error cause => rfl
    | ok page => exact List.filter_cons_of_neg (Bool.eq_false_iff.mp (unfit page rfl))
  rw [Contact.accepted_append, dropped, List.append_nil]

theorem joined_eq_ok {offset : UInt64} {outcome : Outcome Error Page} {page : Page}
    (came : joined offset outcome = .ok page) : outcome = .ok page := by
  unfold joined at came
  split at came
  · cases came
  · cases came
  · exact came

theorem joined_eq_error {offset : UInt64} {outcome : Outcome Error Page} {failure : Failure Error}
    (came : joined offset outcome = .error failure) : ∃ cause, outcome = .error cause := by
  cases outcome with
  | error cause => exact ⟨cause, rfl⟩
  | ok page => cases came

/-- What the outcome of a request does to a supply that waited for it: a page is taken in, or there is
none that can be. -/
def Settles (supply : Supply ρ) (outcome : Outcome Error Page) (answer : Outcome Error (Option (List Row)))
    (after : Supply ρ) : Prop :=
  (∃ page rows, outcome = .ok page ∧ page.fits = true ∧ answer = .ok (some rows) ∧
    supply.take page = .ok (rows, after)) ∨
  (∀ page, outcome = .ok page → page.fits = false) ∧ (∃ failure, answer = .error failure) ∧ after = supply

/-- Waiting comes to nothing if no request is under way. -/
theorem join_settles {σ ρ : Type} [PageSource σ ρ] (state : Supply ρ × σ) :
    state.1.inFlight = none ∧ join state = (.ok none, state) ∨
    ∃ offset request, state.1.inFlight = some (offset, request) ∧
      Settles { state.1 with inFlight := none } (PageSource.finish request state.2).1 (join state).1
        (join state).2.1 := by
  obtain ⟨supply, source⟩ := state
  rw [join_apply]
  cases started : supply.inFlight with
  | none => exact .inl ⟨rfl, rfl⟩
  | some flight =>
    obtain ⟨offset, request⟩ := flight
    refine .inr ⟨offset, request, rfl, ?_⟩
    dsimp only
    cases came : joined offset (PageSource.finish request source).1 with
    | error failure =>
      obtain ⟨cause, refused⟩ := joined_eq_error came
      refine .inr ⟨?_, ⟨failure, rfl⟩, rfl⟩
      intro page answered
      rw [refused] at answered
      cases answered
    | ok page =>
      have answered := joined_eq_ok came
      dsimp only
      -- a page whose end has no offset is answered but not accepted
      by_cases fits : page.offset.toNat + page.rows.length < UInt64.size
      · obtain ⟨rows, taken, took, accepted⟩ := accept_of_fits ({ supply with inFlight := none } : Supply _)
          (PageSource.finish request source).2 fits
        rw [accepted]
        exact .inl ⟨page, rows, answered, decide_eq_true fits, rfl, took⟩
      · rw [accept_of_not_fits _ _ fits]
        refine .inr ⟨?_, ⟨_, rfl⟩, rfl⟩
        intro other same
        rw [answered] at same
        cases same
        exact decide_eq_false fits

theorem accept_contacts (page : Page) (state : Supply (PageRequest × ρ) × Watched σ) :
    (accept page state).2.2.contacts = state.2.contacts := by
  obtain ⟨supply, watched⟩ := state
  rw [accept, Watched.noteAll_eq]
  split <;> rfl

/-- Taking a page in is no contact with the source. -/
theorem join_contacts (state : Supply (PageRequest × ρ) × Watched σ) :
    (join state).2.2.contacts = (wait state).2.2.contacts := by
  rw [join, Op.bind_apply]
  rcases wait state with ⟨_ | _ | page, after⟩
  · rfl
  · rfl
  · change ((some <$> accept page) after).2.2.contacts = after.2.contacts
    rw [Op.map_apply]
    exact accept_contacts page after

/-- Waiting for a request that is under way records its end. -/
theorem join_watched (state : Supply (PageRequest × ρ) × Watched σ) :
    join state = (.ok none, state) ∨
    ∃ offset request outcome, state.1.inFlight = some (offset, request) ∧
      (join state).2.2.contacts = state.2.contacts ++ [.ended request.1 outcome] ∧
      Settles { state.1 with inFlight := none } outcome (join state).1 (join state).2.1 := by
  rcases join_settles state with ⟨-, idle⟩ | ⟨offset, request, started, settles⟩
  · exact .inl idle
  · refine .inr ⟨offset, request, _, started, ?_, settles⟩
    rw [join_contacts, wait, started]
    rfl

/-- An open supply takes in the page that its request was answered with, if any. -/
theorem Logged.join (logged : Logged statement options first state) (isOpen : state.1.closed = false) :
    Logged statement options first (join state).2 := by
  have books := logged.books isOpen
  have idle : Books options (first :: Contact.accepted state.2.contacts)
      ({ state.1 with inFlight := none } : Supply (PageRequest × ρ)) :=
    ⟨books.next_eq, books.unspent⟩
  rcases join_watched state with same | ⟨offset, request, outcome, started, contacts_eq, taken | refused⟩
  · rw [same]
    exact logged
  · obtain ⟨page, rows, rfl, fits, -, took⟩ := taken
    obtain ⟨-, surfaced_eq, statement_eq, options_eq, inFlight_eq⟩ := take_keeps took
    have accepted := accepted_page state.2.contacts request.1 fits
    refine logged.settle started (.ok page) contacts_eq statement_eq options_eq inFlight_eq ?_ ?_
    · rw [accepted, ← List.cons_append]
      exact fun _ => idle.take logged.options_eq took
    · rw [accepted, ← List.cons_append, Page.total_append, surfaced_eq]
      exact Nat.add_le_add logged.surfaced_le (take_rows_le took)
  · -- the request has ended without a page to accept, and the books stay as they were
    obtain ⟨unfit, -, kept⟩ := refused
    have accepted := accepted_refused state.2.contacts request.1 unfit
    refine logged.settle started outcome contacts_eq ?_ ?_ ?_ ?_ ?_
    · rw [kept]
    · rw [kept]
    · rw [kept]
    · rw [accepted, kept]
      exact fun _ => idle
    · rw [accepted, kept]
      exact logged.surfaced_le

omit [PageSource σ ρ] in
/-- A contact that is about no request, while none is under way. -/
theorem Logged.aside {watched : Watched σ} (logged : Logged statement options first state)
    (idle : state.1.inFlight = none) (newest : Contact) (unstarted : Contact.started? newest = none)
    (unended : Contact.ended? newest = none)
    (contacts_eq : watched.contacts = state.2.contacts ++ [newest]) :
    Logged statement options first (state.1, watched) := by
  have requests : Contact.requests watched.contacts = Contact.requests state.2.contacts := by
    have nothing : Contact.requests [newest] = [] := List.filterMap_cons_none unstarted
    rw [contacts_eq, Contact.requests_append, nothing, List.append_nil]
  have endings : Contact.endings watched.contacts = Contact.endings state.2.contacts := by
    have nothing : Contact.endings [newest] = [] := List.filterMap_cons_none unended
    rw [contacts_eq, Contact.endings_append, nothing, List.append_nil]
  have accepted : Contact.accepted watched.contacts = Contact.accepted state.2.contacts := by
    have unanswered : Contact.answered? newest = none := by
      cases newest with
      | ended request outcome => cases unended
      | _ => rfl
    have nothing : Contact.pages [newest] = [] := List.filterMap_cons_none unanswered
    rw [contacts_eq, Contact.accepted_append, Contact.accepted, Contact.accepted, nothing,
      List.filter_nil, List.append_nil]
  have balanced := logged.idle idle
  refine ⟨logged.statement_eq, logged.options_eq, ?_, fun _ => ?_, fun _ _ busy => ?_, ?_, ?_⟩
  · have alone := And.intro balanced.le (balanced.ge.trans (Nat.le_succ _))
    rw [← requests, ← endings] at alone
    rw [contacts_eq] at alone ⊢
    refine logged.disciplined.snoc newest alone ?_ ?_
    · rintro request outcome rfl
      cases unended
    · rintro request rfl
      cases unstarted
  · rw [requests, endings]
    exact balanced
  · rw [show state.1.inFlight = none from idle] at busy
    cases busy
  · rw [accepted]
    exact logged.books
  · rw [accepted]
    exact logged.surfaced_le

omit [PageSource σ ρ] in
/-- A supply that has taken in the first page, before any contact. -/
theorem Logged.ofFirst {ownsStatement : Bool} {rows : List Row} {supply : Supply (PageRequest × ρ)}
    {watched : Watched σ}
    (took : Supply.take first ({ statement, options, ownsStatement, nextOffset := first.offset } :
      Supply (PageRequest × ρ)) = .ok (rows, supply))
    (fresh : watched.contacts = []) : Logged statement options first (supply, watched) := by
  have empty : Books options [] ({ statement, options, ownsStatement, nextOffset := first.offset } :
      Supply (PageRequest × ρ)) := by
    refine ⟨nofun, fun _ => ⟨⟨nofun, nofun, ?_⟩, rfl⟩⟩
    rcases Nat.eq_zero_or_pos options.maxRows.toNat with none_left | some_left
    · exact .inl (UInt64.toNat_inj.mp none_left)
    · exact .inr some_left
  obtain ⟨-, surfaced, statement_eq, options_eq, idle⟩ := take_keeps took
  have fewer := take_rows_le took
  constructor
  · exact statement_eq
  · exact options_eq
  · exact fresh ▸ Cursor.Disciplined.nil
  · exact fun _ => fresh ▸ rfl
  · intro _ _ busy
    rw [idle] at busy
    cases busy
  · exact fun _ => fresh ▸ empty.take rfl took
  · dsimp only
    rw [fresh, surfaced]
    exact (Nat.zero_add _).trans_le fewer

/-- Whatever a supply does, its contacts stay disciplined. -/
theorem logged_likeness (statement : UInt64) (options : FetchOptions) (first : Page) :
    Likeness (Same (Logged (σ := σ) (ρ := ρ) statement options first)) := by
  refine Lasts.likeness ?_ Logged.prefetch Logged.join
  refine ⟨?_, Logged.wait, ?_, ?_, ?_⟩
  · intro state logged _
    exact ⟨logged.statement_eq, logged.options_eq, logged.disciplined, logged.idle, logged.busy, nofun,
      logged.surfaced_le⟩
  · intro state limit logged _ idle
    exact logged.aside idle _ rfl rfl rfl
  · intro state limit logged _ idle
    exact logged.aside idle _ rfl rfl rfl
  · intro state event logged
    exact ⟨logged.statement_eq, logged.options_eq, logged.disciplined, logged.idle, logged.busy,
      logged.books, logged.surfaced_le⟩

/-! ## What only grows, and what stops growing -/

private theorem prefetch_contacts (state : Supply (PageRequest × ρ) × Watched σ) :
    state.2.contacts <+: (prefetch state).2.contacts := by
  obtain ⟨supply, watched⟩ := state
  rw [prefetch]
  split
  · exact List.prefix_rfl
  · exact List.prefix_append _ _

/-- Waiting for a request records how it ended, and starts none. -/
theorem wait_contacts (state : Supply (PageRequest × ρ) × Watched σ) :
    state.2.contacts <+: (wait state).2.2.contacts ∧
    Contact.requests (wait state).2.2.contacts = Contact.requests state.2.contacts := by
  obtain ⟨supply, watched⟩ := state
  rw [wait]
  split
  · exact ⟨List.prefix_rfl, rfl⟩
  · refine ⟨List.prefix_append _ _, ?_⟩
    exact (Contact.requests_append _ _).trans (List.append_nil _)

/-- Every operation of a supply leaves the contacts so far in place. -/
theorem grows_likeness (base : List Contact) :
    Likeness (Same fun state : Supply (PageRequest × ρ) × Watched σ => base <+: state.2.contacts) := by
  refine Lasts.likeness ⟨?_, ?_, ?_, ?_, ?_⟩ ?_ ?_
  · exact fun grown _ => grown
  · exact fun {state} grown _ => grown.trans (wait_contacts state).1
  · exact fun _ grown _ _ => grown.trans (List.prefix_append _ _)
  · exact fun _ grown _ _ => grown.trans (List.prefix_append _ _)
  · exact fun _ grown => grown
  · exact fun {state} grown _ => grown.trans (prefetch_contacts state)
  · intro state grown _
    rw [join_contacts]
    exact grown.trans (wait_contacts state).1

/-- Closing starts no request. -/
theorem requests_lasts (requests : List PageRequest) :
    Lasts fun state : Supply (PageRequest × ρ) × Watched σ =>
      Contact.requests state.2.contacts = requests where
  shut same _ := same
  wait := fun {state} same _ => (wait_contacts state).2.trans same
  closeResult _ same _ _ := (Contact.requests_append _ _).trans ((List.append_nil _).trans same)
  closeStatement _ same _ _ := (Contact.requests_append _ _).trans ((List.append_nil _).trans same)
  note _ same := same

theorem close_requests (state : Supply (PageRequest × ρ) × Watched σ) : (close state).2.1.closed = true ∧
    Contact.requests (close state).2.2.contacts = Contact.requests state.2.contacts := by
  have same : Same (fun now : Supply (PageRequest × ρ) × Watched σ =>
      Contact.requests now.2.contacts = Contact.requests state.2.contacts) state state := ⟨rfl, rfl⟩
  have closed := (requests_lasts _).closing.close same
  exact ⟨closed.2.2, closed.2.1.2⟩

/-- Nothing is requested any more once a supply is closed. -/
theorem closed_likeness (requests : List PageRequest) :
    Likeness (Same fun state : Supply (PageRequest × ρ) × Watched σ =>
      state.1.closed = true ∧ Contact.requests state.2.contacts = requests) := by
  have lasts := @requests_lasts σ ρ _ requests
  refine Lasts.likeness ⟨?_, ?_, ?_, ?_, ?_⟩ ?_ ?_
  · exact fun kept _ => ⟨rfl, kept.2⟩
  · exact fun {state} kept _ => ⟨(wait_keeps state).1.trans kept.1, lasts.wait kept.2 kept.1⟩
  · exact fun limit kept closed idle => ⟨kept.1, lasts.closeResult limit kept.2 closed idle⟩
  · exact fun limit kept closed idle => ⟨kept.1, lasts.closeStatement limit kept.2 closed idle⟩
  · exact fun event kept => ⟨kept.1, lasts.note event kept.2⟩
  · intro state kept isOpen
    rw [kept.1] at isOpen
    cases isOpen
  · intro state kept isOpen
    rw [kept.1] at isOpen
    cases isOpen

end Supply

end PagedResults
