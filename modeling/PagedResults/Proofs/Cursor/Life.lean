import PagedResults.Proofs.Cursor.Merged
import PagedResults.Proofs.Cursor.Requests

/-! # The life of a cursor

Until a cursor is closed it releases nothing, and it has merged the rows of the accepted pages in their
order, as far as the options let them through. `Supply.Running` says so about the contacts with a watched
source. The life of a cursor goes on until it is dropped, which closes it; afterwards it does nothing.
-/

namespace PagedResults

/-- The rows of several pages. -/
def Page.allRows (pages : List Page) : List Row := pages.flatMap Page.rows

private theorem Page.allRows_append (pages others : List Page) :
    Page.allRows (pages ++ others) = Page.allRows pages ++ Page.allRows others :=
  List.flatMap_append

/-- The result or the statement is released. -/
def Contact.releases : Contact → Bool
  | .resultClosed _ _ | .statementClosed _ _ => true
  | _ => false

namespace Supply

variable {σ ρ : Type}

/-- The rows that a page contributes are those that the options let through behind the earlier ones. -/
theorem take_shown {page : Page} {rows : List Row} {supply taken : Supply ρ}
    (took : supply.take page = .ok (rows, taken)) (before : List Row)
    (counted : supply.surfaced = (supply.options.shown before).length) :
    supply.options.shown (before ++ page.rows) = supply.options.shown before ++ rows := by
  obtain ⟨-, -, rfl, -⟩ := take_eq_ok took
  unfold FetchOptions.shown at counted ⊢
  unfold room
  split
  · rw [Option.getD_none, List.take_length]
  · next limited =>
    rw [if_neg limited, List.length_take] at counted
    have left : supply.options.maxRows.toNat - supply.surfaced =
        supply.options.maxRows.toNat - before.length := by omega
    rw [Option.getD_some, left, List.take_append]

theorem take_ownsStatement {page : Page} {rows : List Row} {supply taken : Supply ρ}
    (took : supply.take page = .ok (rows, taken)) : taken.ownsStatement = supply.ownsStatement := by
  obtain ⟨-, -, -, rfl⟩ := take_eq_ok took
  rfl

variable [PageSource σ ρ]

/-- What beginning to fetch does to the contacts. -/
theorem prefetch_watched (state : Supply (PageRequest × ρ) × Watched σ) :
    prefetch state = state ∨
    ∃ flight request, (prefetch state).1 =
        { state.1 with inFlight := some flight, fetches := state.1.fetches + 1 } ∧
      (prefetch state).2.contacts = state.2.contacts ++ [.started request] := by
  obtain ⟨supply, watched⟩ := state
  by_cases busy : supply.exhausted = true ∨ supply.inFlight.isSome = true
  · exact .inl (prefetch_busy supply watched busy)
  · obtain ⟨more, idle⟩ : supply.exhausted = false ∧ supply.inFlight = none := by
      simpa [not_or] using busy
    rw [prefetch_idle supply watched more idle]
    exact .inr ⟨_, supply.request, rfl, rfl⟩

/-- An open supply, the rows taken over from it, and its contacts so far. -/
structure Running (statement : UInt64) (options : FetchOptions) (ownsStatement : Bool) (first : Page)
    (rows : List Row) (state : Supply (PageRequest × ρ) × Watched σ) : Prop where
  logged : Logged statement options first state
  is_open : state.1.closed = false
  owns_eq : state.1.ownsStatement = ownsStatement
  unreleased : ∀ contact ∈ state.2.contacts, contact.releases = false
  surfaced_eq : state.1.surfaced =
    (options.shown (Page.allRows (first :: Contact.accepted state.2.contacts))).length
  sublist : rows.Sublist (options.shown (Page.allRows (first :: Contact.accepted state.2.contacts)))
  rows_eq : (options.shown (Page.allRows (first :: Contact.accepted state.2.contacts))).length ≤
    ScrollableCursor.mostRows → rows = options.shown (Page.allRows (first :: Contact.accepted state.2.contacts))

variable {statement : UInt64} {options : FetchOptions} {ownsStatement : Bool} {first : Page}
  {rows : List Row} {state after : Supply (PageRequest × ρ) × Watched σ}

omit [PageSource σ ρ] in
/-- A contact that brings no page changes nothing about the rows. -/
theorem Running.aside (running : Running statement options ownsStatement first rows state)
    (logged : Logged statement options first after) (closed_eq : after.1.closed = state.1.closed)
    (owns_eq : after.1.ownsStatement = state.1.ownsStatement)
    (surfaced_eq : after.1.surfaced = state.1.surfaced) (others : List Contact)
    (contacts_eq : after.2.contacts = state.2.contacts ++ others)
    (unreleased : ∀ contact ∈ others, contact.releases = false)
    (unaccepted : Contact.accepted others = []) :
    Running statement options ownsStatement first rows after := by
  have same : Contact.accepted after.2.contacts = Contact.accepted state.2.contacts := by
    rw [contacts_eq, Contact.accepted_append, unaccepted, List.append_nil]
  refine ⟨logged, closed_eq.trans running.is_open, owns_eq.trans running.owns_eq, ?_, ?_, ?_, ?_⟩
  · rw [contacts_eq]
    exact List.forall_mem_append.mpr ⟨running.unreleased, unreleased⟩
  · rw [same, surfaced_eq]
    exact running.surfaced_eq
  · rw [same]
    exact running.sublist
  · rw [same]
    exact running.rows_eq

theorem Running.prefetch (running : Running statement options ownsStatement first rows state) :
    Running statement options ownsStatement first rows (prefetch state) := by
  have logged := running.logged.prefetch running.is_open
  rcases prefetch_watched state with same | ⟨flight, request, begun, contacts_eq⟩
  · rw [same]
    exact running
  · refine running.aside logged ?_ ?_ ?_ [.started request] contacts_eq ?_ rfl
    · rw [begun]
    · rw [begun]
    · rw [begun]
    · exact List.forall_mem_singleton.mpr rfl

/-- A page that is taken in is accepted, and its rows are handed on behind the others. -/
theorem Running.join (running : Running statement options ownsStatement first rows state) :
    Running statement options ownsStatement first (rows ++ handedOn (join state).1) (join state).2 := by
  have logged := running.logged.join running.is_open
  rcases join_watched state with idle | ⟨-, request, outcome, -, contacts_eq, taken | refused⟩
  · rw [idle]
    exact (List.append_nil rows).symm ▸ running
  · obtain ⟨page, added, rfl, fits, handed, took⟩ := taken
    have accepted : Contact.accepted (Supply.join state).2.2.contacts =
        Contact.accepted state.2.contacts ++ [page] := by
      rw [contacts_eq, accepted_page _ _ fits]
    have same : state.1.options = options := running.logged.options_eq
    have shown : options.shown (Page.allRows (first :: Contact.accepted (Supply.join state).2.2.contacts)) =
        options.shown (Page.allRows (first :: Contact.accepted state.2.contacts)) ++ added := by
      have behind := take_shown took (Page.allRows (first :: Contact.accepted state.2.contacts))
        (by rw [← same] at running; exact running.surfaced_eq)
      rw [same] at behind
      rw [accepted, ← List.cons_append, Page.allRows_append, ← behind]
      exact congrArg (fun rows => options.shown (_ ++ rows)) (List.append_nil page.rows)
    obtain ⟨closed_eq, surfaced_eq, -, -, -⟩ := take_keeps took
    have owns_eq := take_ownsStatement took
    rw [handed]
    refine ⟨logged, closed_eq.trans running.is_open, owns_eq.trans running.owns_eq, ?_, ?_, ?_, ?_⟩
    · rw [contacts_eq]
      exact List.forall_mem_append.mpr ⟨running.unreleased, List.forall_mem_singleton.mpr rfl⟩
    · rw [shown, List.length_append, surfaced_eq, ← running.surfaced_eq]
    · rw [shown]
      exact running.sublist.append_right added
    · rw [shown, List.length_append]
      intro few
      rw [← running.rows_eq (Nat.le_of_add_right_le few)]
      rfl
  · obtain ⟨unfit, ⟨failure, failed⟩, kept⟩ := refused
    have nothing : rows ++ handedOn (Supply.join state).1 = rows := by
      rw [failed]
      exact List.append_nil rows
    rw [nothing]
    refine running.aside logged ?_ ?_ ?_ [.ended request.1 outcome] contacts_eq ?_ ?_
    · rw [kept]
    · rw [kept]
    · rw [kept]
    · exact List.forall_mem_singleton.mpr rfl
    · exact accepted_refused [] request.1 unfit

/-- An open cursor over any source releases nothing and merges the rows of the accepted pages. -/
theorem running_carries (statement : UInt64) (options : FetchOptions) (ownsStatement : Bool)
    (first : Page) :
    Carries (Running (σ := σ) (ρ := ρ) statement options ownsStatement first) where
  is_open running := running.is_open
  prefetch := Running.prefetch
  join := Running.join
  note event running :=
    running.aside ((logged_likeness _ _ _).note event ⟨rfl, running.logged⟩).2 rfl rfl rfl []
      (List.append_nil _).symm nofun rfl
  lose := by
    intro rows lost state running full
    have shorter := running.sublist.length_le
    rw [List.length_append] at shorter
    refine { running with sublist := ?_, rows_eq := ?_ }
    · exact (List.sublist_append_left rows lost).trans running.sublist
    · intro few
      omega

/-- A supply is closed once `close` was called, whatever comes of it. -/
theorem close_closed (state : Supply ρ × σ) :
    (close state).2.1.closed = true := by
  have lasts : Lasts fun _ : Supply ρ × σ => True := ⟨fun _ _ => trivial, fun _ _ => trivial,
    fun _ _ _ _ => trivial, fun _ _ _ _ => trivial, fun _ _ => trivial⟩
  exact (lasts.closing.close ⟨rfl, trivial⟩).2.2

omit [PageSource σ ρ] in
/-- A supply that has taken in the first page has handed on the rows of that page. -/
theorem Running.ofFirst {supply : Supply (PageRequest × ρ)} {watched : Watched σ}
    (took : Supply.take first ({ statement, options, ownsStatement, nextOffset := first.offset } :
      Supply (PageRequest × ρ)) = .ok (rows, supply))
    (fresh : watched.contacts = []) :
    Running statement options ownsStatement first rows (supply, watched) := by
  have nothing : options.shown [] = [] := by
    rw [FetchOptions.shown, List.take_nil, ite_self]
  have shown : options.shown (Page.allRows (first :: Contact.accepted watched.contacts)) = rows := by
    have behind := take_shown took [] (by rw [nothing]; rfl)
    rw [nothing, List.nil_append, List.nil_append] at behind
    rw [fresh, ← behind]
    exact congrArg options.shown (List.append_nil first.rows)
  obtain ⟨closed_eq, surfaced_eq, -, -, -⟩ := take_keeps took
  refine ⟨.ofFirst took fresh, closed_eq, take_ownsStatement took, ?_, ?_, ?_, fun _ => shown.symm⟩
  · rw [fresh]
    exact List.forall_mem_nil _
  · rw [shown, surfaced_eq]
    exact Nat.zero_add _
  · rw [shown]

end Supply

namespace Cursor

variable {σ ρ : Type}

/-! ## Closed cursors -/

/-- The cursor was closed: it has dropped all rows. -/
def Over : Cursor ρ → Prop
  | .forward cursor => cursor.supply.closed = true ∧ cursor.current = none ∧ cursor.buffer = []
  | .scrollable cursor => cursor.supply.closed = true ∧ cursor.rows = #[] ∧ cursor.index = -1

theorem Over.closed {cursor : Cursor ρ} (ended : Over cursor) : cursor.supply.closed = true := by
  cases cursor with
  | forward => exact ended.1
  | scrollable => exact ended.1

/-- A closed cursor has no row at hand. -/
theorem Over.buffered {cursor : Cursor ρ} (ended : Over cursor) : cursor.buffered = 0 := by
  cases cursor with
  | forward => exact congrArg List.length ended.2.2
  | scrollable => exact congrArg Array.size ended.2.1

/-- What a closed cursor answers. -/
def refusal (mode : CursorMode) : CursorCall → Outcome Error (Option Bool)
  | .close => .ok none
  | call => Outcome.fail (if mode.supports call then .resultClosed else .unsupported call.name)

variable [PageSource σ ρ] {state : Cursor ρ × σ}

theorem perform_mode (call : CursorCall) (state : Cursor ρ × σ) :
    (perform call state).2.1.mode = state.1.mode := by
  obtain ⟨cursor | cursor, source⟩ := state <;> rfl

theorem after_mode (calls : List CursorCall) (state : Cursor ρ × σ) :
    (after calls state).1.mode = state.1.mode := by
  induction calls generalizing state with
  | nil => rfl
  | cons call calls ih => exact (ih _).trans (perform_mode call state)

/-- Closing answers with what closing the supply came to, and drops all rows. -/
theorem perform_close (state : Cursor ρ × σ) :
    (perform .close state).1 = (Supply.close (state.1.supply, state.2)).1.map (fun _ => none) ∧
      Over (perform .close state).2.1 := by
  have closed := Supply.close_closed (state.1.supply, state.2)
  obtain ⟨cursor | cursor, source⟩ := state
  · simp only [perform, performForward, ForwardCursor.close, Op.bind_apply, ForwardCursor.update,
      Op.modify_apply, ForwardCursor.onSupply_apply, Cursor.supply]
    change (Supply.close (cursor.supply, source)).2.1.closed = true at closed
    generalize Supply.close (cursor.supply, source) = result at closed ⊢
    obtain ⟨failure | ⟨⟩, supply, after⟩ := result <;> exact ⟨rfl, closed, rfl, rfl⟩
  · simp only [perform, performScrollable, ScrollableCursor.close, Op.bind_apply, ScrollableCursor.update,
      Op.modify_apply, ScrollableCursor.onSupply_apply, Cursor.supply]
    change (Supply.close (cursor.supply, source)).2.1.closed = true at closed
    generalize Supply.close (cursor.supply, source) = result at closed ⊢
    obtain ⟨failure | ⟨⟩, supply, after⟩ := result <;> exact ⟨rfl, closed, rfl, rfl⟩

omit [PageSource σ ρ] in
/-- What comes behind the check that a cursor is open does not run on a closed one. -/
theorem forward_checked {α : Type} {cursor : ForwardCursor ρ} {source : σ}
    (closed : cursor.supply.closed = true) (next : Unit → Op Error (ForwardCursor ρ × σ) α) :
    (ForwardCursor.onSupply Supply.checkOpen >>= next) (cursor, source) =
      (Outcome.fail .resultClosed, cursor, source) := by
  rw [Op.bind_apply, ForwardCursor.onSupply_apply, Supply.checkOpen, if_pos closed]
  rfl

omit [PageSource σ ρ] in
theorem scrollable_checked {α : Type} {cursor : ScrollableCursor ρ} {source : σ}
    (closed : cursor.supply.closed = true) (next : Unit → Op Error (ScrollableCursor ρ × σ) α) :
    (ScrollableCursor.onSupply Supply.checkOpen >>= next) (cursor, source) =
      (Outcome.fail .resultClosed, cursor, source) := by
  rw [Op.bind_apply, ScrollableCursor.onSupply_apply, Supply.checkOpen, if_pos closed]
  rfl

/-- Once its supply is closed, a cursor refuses every call but `close`. -/
theorem perform_of_closed (closed : state.1.supply.closed = true) {call : CursorCall} (stays : call ≠ .close) :
    perform call state = (refusal state.1.mode call, state) := by
  obtain ⟨cursor | cursor, source⟩ := state
  · rw [Cursor.perform]
    cases call with
    | next => rw [performForward, Op.map_apply, ForwardCursor.next, forward_checked closed]; rfl
    | isLast => rw [performForward, Op.map_apply, ForwardCursor.isLast, forward_checked closed]; rfl
    | close => exact absurd rfl stays
    | _ => rfl
  · rw [Cursor.perform]
    cases call with
    | next => rw [performScrollable, Op.map_apply, ScrollableCursor.next, scrollable_checked closed]; rfl
    | isLast => rw [performScrollable, Op.map_apply, ScrollableCursor.isLast, scrollable_checked closed]; rfl
    | previous | relative =>
      rw [performScrollable, Op.map_apply, ScrollableCursor.relative, scrollable_checked closed]; rfl
    | first | last | absolute =>
      rw [performScrollable, Op.map_apply, ScrollableCursor.absolute, scrollable_checked closed]; rfl
    | beforeFirst =>
      rw [performScrollable, Op.bind_apply, ScrollableCursor.absolute, scrollable_checked closed]; rfl
    | afterLast =>
      rw [performScrollable, Op.bind_apply, ScrollableCursor.afterLast, scrollable_checked closed]; rfl
    | close => exact absurd rfl stays

/-- A closed cursor refuses every call and leaves everything as it is. -/
theorem Over.perform (ended : Over state.1) (call : CursorCall) :
    perform call state = (refusal state.1.mode call, state) := by
  by_cases closes : call = .close
  · subst closes
    obtain ⟨cursor | cursor, source⟩ := state
    · obtain ⟨closed, current, buffer⟩ := ended
      have unmoved : { cursor with current := none, buffer := [] } = cursor := by
        rw [← current, ← buffer]
      rw [Cursor.perform, performForward, ForwardCursor.close]
      simp only [Op.bind_apply, ForwardCursor.update, Op.modify_apply, ForwardCursor.onSupply_apply,
        Supply.close_of_closed source closed, unmoved]
      rfl
    · obtain ⟨closed, rows, index⟩ := ended
      have unmoved : { cursor with rows := #[], index := -1 } = cursor := by
        rw [← rows, ← index]
      rw [Cursor.perform, performScrollable, ScrollableCursor.close]
      simp only [Op.bind_apply, ScrollableCursor.update, Op.modify_apply, ScrollableCursor.onSupply_apply,
        Supply.close_of_closed source closed, unmoved]
      rfl
  · exact perform_of_closed ended.closed closes

/-- Nothing that is asked of a closed cursor has an effect. -/
theorem Over.after (ended : Over state.1) (calls : List CursorCall) : after calls state = state := by
  induction calls with
  | nil => rfl
  | cons call calls ih =>
    change Cursor.after calls (Cursor.perform call state).2 = state
    rw [ended.perform call]
    exact ih

theorem Over.history (ended : Over state.1) (calls : List CursorCall) :
    history calls state = calls.map fun call => ⟨call, refusal state.1.mode call, state.1⟩ := by
  induction calls with
  | nil => rfl
  | cons call calls ih =>
    rw [history_cons, ended.perform call, List.map_cons]
    exact congrArg _ ih

/-! ## From opening to dropping -/

/-- The contacts of a cursor over its whole life: through a sequence of calls, and until it is
dropped. -/
def life (calls : List CursorCall) (state : Cursor (PageRequest × ρ) × Watched σ) : List Contact :=
  (drop (after calls state).1 (after calls state).2).2.contacts

/-- Dropping a cursor closes it. -/
theorem life_eq (calls : List CursorCall) (state : Cursor (PageRequest × ρ) × Watched σ) :
    life calls state =
      (Supply.close ((after calls state).1.supply, (after calls state).2)).2.2.contacts := by
  rw [life, drop, Supply.drop, Op.bind_apply, Op.attempt]
  rcases Supply.close ((after calls state).1.supply, (after calls state).2) with
    ⟨(cause | reason) | ⟨⟩, supply, watched⟩ <;> rfl

/-- A call of `close` is the last one that has an effect. -/
theorem after_close (before later : List CursorCall) (state : Cursor ρ × σ) :
    after (before ++ .close :: later) state = after (before ++ [.close]) state := by
  rw [after_append, after_append]
  exact (perform_close (after before state)).2.after later

theorem life_close (before later : List CursorCall) (state : Cursor (PageRequest × ρ) × Watched σ) :
    life (before ++ .close :: later) state = (after (before ++ [.close]) state).2.contacts := by
  rw [life_eq, after_close, Supply.close_of_closed]
  rw [after_append]
  exact (perform_close (after before state)).2.closed

private theorem history_append (calls later : List CursorCall) (state : Cursor ρ × σ) :
    history (calls ++ later) state = history calls state ++ history later (after calls state) := by
  induction calls generalizing state with
  | nil => rfl
  | cons call calls ih => exact congrArg _ (ih _)

/-- No row is visited any more once `close` was called. -/
theorem visited_close (before later : List CursorCall) (state : Cursor ρ × σ) :
    (history (before ++ .close :: later) state).filterMap Turn.row =
      (history before state).filterMap Turn.row := by
  have none_later : (history (.close :: later) (after before state)).filterMap Turn.row = [] := by
    rw [history_cons, (perform_close (after before state)).2.history later]
    apply List.filterMap_eq_nil_iff.mpr
    intro turn member
    rcases List.mem_cons.mp member with rfl | refused
    · rfl
    · obtain ⟨call, -, rfl⟩ := List.mem_map.mp refused
      cases call <;> rfl
  rw [history_append, List.filterMap_append, none_later, List.append_nil]

/-- The contacts of a cursor stay disciplined over its whole life, and dropping it starts no request. -/
theorem Keeps.life {statement : UInt64} {options : FetchOptions} {first : Page}
    {state : Cursor (PageRequest × ρ) × Watched σ} (keeps : Keeps statement options first state)
    (calls : List CursorCall) :
    Disciplined statement options first (Cursor.life calls state) ∧
    (Cursor.after calls state).2.contacts <+: Cursor.life calls state ∧
    Contact.requests (Cursor.life calls state) = Contact.requests (Cursor.after calls state).2.contacts := by
  have there := (keeps.after calls).supply
  rw [life_eq]
  refine ⟨?_, ?_, (Supply.close_requests _).2⟩
  · exact ((Supply.logged_likeness statement options first).close there).2.1.2.disciplined
  · have grown := Supply.grows_likeness (σ := σ) (ρ := ρ) (Cursor.after calls state).2.contacts
    exact (grown.close ⟨rfl, List.prefix_rfl⟩).2.1.2

/-- A cursor that is opened over any source is open, has merged the rows of the first page, and cannot
tell that it is watched. -/
theorem open_running {statement : UInt64} {first : Page} (options : FetchOptions) (ownsStatement : Bool)
    (source : σ) (fits : first.offset.toNat + first.rows.length < UInt64.size) :
    ∃ cursor watched cursor' source',
      «open» statement first options ownsStatement (⟨source, []⟩ : Watched σ) = (.ok cursor, watched) ∧
      «open» statement first options ownsStatement source = (.ok cursor', source') ∧
      Like Watched.Unwatches (cursor, watched) (cursor', source') ∧
      Keeps statement options first (cursor, watched) ∧
      Supply.Running statement options ownsStatement first (cursor.merged []) (cursor.supply, watched) ∧
      cursor.mode = options.mode := by
  obtain ⟨rows, supply, watched, plain, taken, took, fresh, taken', unwatched⟩ :=
    Watched.ofFirst_unwatched statement options ownsStatement source fits
  obtain ⟨cursor, cursor', opened, opened', like⟩ := open_alike taken taken' unwatched
  have running : Supply.Running statement options ownsStatement first rows (supply, watched) :=
    .ofFirst took fresh
  refine ⟨cursor, watched, cursor', _, opened, opened', like, ?_⟩
  rw [«open», taken] at opened
  cases mode : options.mode with
  | forward =>
    simp only [mode] at opened
    obtain rfl := Except.ok.inj (congrArg Prod.fst opened)
    exact ⟨like.self ⟨rfl, running.logged⟩, running, rfl⟩
  | scrollable =>
    simp only [mode] at opened
    obtain rfl := Except.ok.inj (congrArg Prod.fst opened)
    exact ⟨like.self ⟨rfl, running.logged⟩, running, rfl⟩

end Cursor

end PagedResults
