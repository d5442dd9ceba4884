import PagedResults.Proofs.Cursor.Life

/-! # The limit on the rows bounds the work

A page that is taken in either hands a row on or is the last one. With a limit on the rows, the room that
is left bounds how often a cursor reads on, whatever its source answers: the loops of both modes end, what
is merged are the first rows of the accepted pages, and fewer requests than the limit are answered with a
page.
-/

namespace PagedResults

namespace Supply

variable {σ ρ : Type}

/-- A page that hands no row on is the last one, and a limit leaves no room for more rows than are handed
on. -/
theorem take_settles {page : Page} {rows : List Row} {supply taken : Supply ρ}
    (took : supply.take page = .ok (rows, taken)) :
    (rows = [] → taken.exhausted = true) ∧
    (supply.options.maxRows ≠ 0 → rows.length ≤ supply.options.maxRows.toNat - supply.surfaced) := by
  obtain ⟨-, -, rfl, rfl⟩ := take_eq_ok took
  constructor
  · intro none_handed
    rcases List.take_eq_nil_iff.mp none_handed with no_room | empty
    · cases left : supply.room with
      | none =>
        rw [left, Option.getD_none] at no_room
        simp [List.eq_nil_of_length_eq_zero no_room]
      | some count =>
        rw [left, Option.getD_some] at no_room
        simp [no_room]
    · simp [empty]
  · intro limited
    rw [room, if_neg limited, Option.getD_some]
    exact List.length_take_le _ _

variable [PageSource σ ρ]

/-- Waiting for a request hands on nothing unless a page is taken in. -/
theorem join_taken {state after : Supply ρ × σ} {rows : Option (List Row)}
    (joined : join state = (.ok rows, after)) :
    (rows = none ∧ state.1.inFlight = none ∧ after = state) ∨
    ∃ page added, rows = some added ∧ take page { state.1 with inFlight := none } = .ok (added, after.1) := by
  rcases join_settles state with ⟨idle, same⟩ | ⟨_, _, -, taken | refused⟩
  · rw [same] at joined
    obtain ⟨none_handed, rfl⟩ := Prod.mk.inj joined
    exact .inl ⟨(Except.ok.inj none_handed).symm, idle, rfl⟩
  · obtain ⟨page, added, -, -, handed, took⟩ := taken
    rw [joined] at handed took
    exact .inr ⟨page, added, Except.ok.inj handed, took⟩
  · obtain ⟨-, ⟨failure, failed⟩, -⟩ := refused
    rw [joined] at failed
    cases failed

private theorem prefetch_options (state : Supply ρ × σ) : (prefetch state).1.options = state.1.options := by
  rw [prefetch]
  split <;> rfl

/-- Fetching on hands a row on unless no page follows, and no more rows than a limit has room for. -/
theorem fetchNow_settles {state after : Supply ρ × σ} {rows : List Row}
    (fetched : fetchNow state = (.ok rows, after)) :
    after.1.options = state.1.options ∧
    (rows = [] → after.1.exhausted = true ∧ after.1.inFlight = none) ∧
    (state.1.options.maxRows ≠ 0 → rows.length ≤ state.1.options.maxRows.toNat - state.1.surfaced) := by
  rw [fetchNow_apply] at fetched
  rcases came : join (prefetch state) with ⟨failure | handed, left⟩ <;> rw [came] at fetched <;> cases fetched
  rw [← prefetch_options state, ← prefetch_surfaced state]
  rcases join_taken came with ⟨rfl, idle, rfl⟩ | ⟨page, added, rfl, took⟩
  · refine ⟨rfl, fun _ => ⟨?_, idle⟩, fun _ => Nat.zero_le _⟩
    -- nothing is under way after trying to begin a request, so no page follows
    by_contra more
    have begun := prefetch_inFlight state.1 state.2
      ((prefetch_exhausted state.1 state.2).symm.trans (by simpa using more))
    rw [idle] at begun
    cases begun
  · obtain ⟨-, -, -, options_eq, idle⟩ := take_keeps took
    obtain ⟨settled, bounded⟩ := take_settles took
    exact ⟨options_eq, fun nothing => ⟨settled nothing, idle⟩, bounded⟩

end Supply

/-- A loop that runs `step` as long as `more` holds, and ends after a number of rounds: when `more` does
not hold any longer, or with the first round that fails. -/
inductive Op.Loop {ε σ : Type} (more : σ → Bool) (step : Op ε σ Unit) :
    Nat → σ → Outcome ε Unit × σ → Prop
  | done {state : σ} (enough : more state = false) : Loop more step 0 state (.ok (), state)
  | failed {state after : σ} {failure : Failure ε} (go : more state = true)
      (came : step state = (.error failure, after)) : Loop more step 1 state (.error failure, after)
  | round {rounds : Nat} {state after : σ} {result : Outcome ε Unit × σ} (go : more state = true)
      (came : step state = (.ok (), after)) (rest : Loop more step rounds after result) :
      Loop more step (rounds + 1) state result

namespace ForwardCursor

variable {σ ρ : Type} [PageSource σ ρ]

/-- No row is at hand, and one may follow. -/
def wanting (state : ForwardCursor ρ × σ) : Bool :=
  state.1.buffer.isEmpty && (state.1.supply.inFlight.isSome || !state.1.supply.exhausted)

/-- Take in the next page. -/
def takeIn : Op Error (ForwardCursor ρ × σ) Unit := do
  let rows ← onSupply Supply.fetchNow
  update fun cursor => { cursor with buffer := cursor.buffer ++ rows }

/-- Taking in pages until a row is at hand takes in at most one of them. -/
theorem refill_loop (state : ForwardCursor ρ × σ) :
    ∃ rounds ≤ 1, Op.Loop wanting takeIn rounds state (refill state) := by
  obtain ⟨cursor, source⟩ := state
  have taken : refill (cursor, source) =
      if wanting (cursor, source) then takeIn (cursor, source) else (.ok (), cursor, source) := by
    rw [refill, Op.bind_apply, Op.get_apply]
    exact Op.ite_apply ..
  rw [taken]
  cases wants : wanting (cursor, source) with
  | false => exact ⟨0, Nat.zero_le _, .done wants⟩
  | true =>
    refine ⟨1, Nat.le_refl _, ?_⟩
    rw [if_pos rfl]
    rcases fetched : Supply.fetchNow (cursor.supply, source) with ⟨failure | rows, supply, after⟩
    · have came : takeIn (cursor, source) = (.error failure, { cursor with supply }, after) := by
        rw [takeIn, Op.bind_apply, onSupply_apply, fetched]
      rw [came]
      exact .failed wants came
    · have came : takeIn (cursor, source) =
          (.ok (), { cursor with supply, buffer := cursor.buffer ++ rows }, after) := by
        rw [takeIn, Op.bind_apply, onSupply_apply, fetched]
        rfl
      rw [came]
      -- either a row is at hand now, or no page follows
      refine .round wants came (.done ?_)
      obtain ⟨-, settled, -⟩ := Supply.fetchNow_settles fetched
      cases rows with
      | nil =>
        obtain ⟨exhausted, idle⟩ : supply.exhausted = true ∧ supply.inFlight = none := settled rfl
        simp [wanting, exhausted, idle]
      | cons row rest => simp [wanting]

end ForwardCursor

namespace ScrollableCursor

variable {σ ρ : Type} [PageSource σ ρ]

/-- There are not enough rows, and more may follow. -/
def wanting (enough : Nat → Bool) (state : ScrollableCursor ρ × σ) : Bool :=
  !(enough state.1.rows.size || state.1.supply.exhausted)

/-- Read the next page. -/
def readPage : Op Error (ScrollableCursor ρ × σ) Unit := do
  let rows ← onSupply Supply.fetchNow
  let (cursor, _) ← get
  if rows ≠ [] ∧ ScrollableCursor.mostRows < cursor.rows.size + rows.length then Op.halt .capacityOverflow
  else update (keep rows)

private theorem readPage_apply (cursor : ScrollableCursor ρ) (source : σ) :
    readPage (cursor, source) =
      match Supply.fetchNow (cursor.supply, source) with
      | (.error failure, supply, source) => (.error failure, { cursor with supply }, source)
      | (.ok rows, supply, source) =>
          if rows ≠ [] ∧ ScrollableCursor.mostRows < cursor.rows.size + rows.length then
            (Outcome.halt .capacityOverflow, { cursor with supply }, source)
          else (.ok (), keep rows { cursor with supply }, source) := by
  rw [readPage, Op.bind_apply, onSupply_apply]
  rcases Supply.fetchNow (cursor.supply, source) with ⟨failure | rows, supply, after⟩
  · rfl
  · dsimp only
    rw [Op.bind_apply, Op.get_apply]
    dsimp only
    rw [Op.ite_apply]
    split <;> rfl

/-- Reading on takes no more rounds than a limit has room for, and one to see the end. -/
theorem readUntil_loop (enough : Nat → Bool) {cursor : ScrollableCursor ρ} (source : σ)
    (limited : cursor.supply.options.maxRows ≠ 0) :
    ∃ rounds ≤ cursor.supply.options.maxRows.toNat - cursor.supply.surfaced + 1,
      Op.Loop (wanting enough) readPage rounds (cursor, source) (readUntil enough cursor source) := by
  have go {cursor : ScrollableCursor ρ} {source : σ}
      (more : ¬(enough cursor.rows.size || cursor.supply.exhausted) = true) :
      wanting enough (cursor, source) = true := by
    rw [wanting, Bool.eq_false_iff.mpr more]
    rfl
  fun_induction readUntil enough cursor source with
  | case1 cursor source done =>
    refine ⟨0, Nat.zero_le _, .done ?_⟩
    rw [wanting, done]
    rfl
  | case2 cursor source more failure supply next refused =>
    have came := readPage_apply cursor source
    rw [refused] at came
    exact ⟨1, Nat.le_add_left _ _, .failed (go more) came⟩
  | case3 cursor source more supply next fetched =>
    have came := readPage_apply cursor source
    simp only [fetched] at came
    rw [if_neg (fun full => full.1 rfl), keep_nil] at came
    obtain ⟨-, settled, -⟩ := Supply.fetchNow_settles fetched
    refine ⟨1, Nat.le_add_left _ _, .round (go more) came (.done ?_)⟩
    rw [wanting, show supply.exhausted = true from (settled rfl).1, Bool.or_true]
    rfl
  | case4 cursor source more added supply next fetched someRow full =>
    have came := readPage_apply cursor source
    simp only [fetched] at came
    rw [if_pos ⟨someRow, full⟩] at came
    exact ⟨1, Nat.le_add_left _ _, .failed (go more) came⟩
  | case5 cursor source more added supply next fetched someRow fits ih =>
    have came := readPage_apply cursor source
    simp only [fetched] at came
    rw [if_neg (fun full => fits full.2)] at came
    obtain ⟨options_eq, -, bounded⟩ := Supply.fetchNow_settles fetched
    have surfaced_eq := (Supply.fetchNow_counts (cursor.supply, source)).2
    rw [fetched] at surfaced_eq
    change supply.options = cursor.supply.options at options_eq
    obtain ⟨rounds, few, rest⟩ := ih (by rw [keep, options_eq]; exact limited)
    refine ⟨rounds + 1, ?_, .round (go more) came rest⟩
    -- the page hands on a row at least, and no more than there is room for
    have positive := List.length_pos_iff.mpr someRow
    have room := bounded limited
    change supply.surfaced = cursor.supply.surfaced + added.length at surfaced_eq
    change rounds ≤ supply.options.maxRows.toNat - supply.surfaced + 1 at few
    rw [options_eq] at few
    dsimp only at room
    omega

end ScrollableCursor

/-! ## Requests under a limit -/

theorem Page.total_eq (pages : List Page) : Page.total pages = (Page.allRows pages).length := by
  induction pages with
  | nil => rfl
  | cons page rest ih =>
    change page.rows.length + Page.total rest = (page.rows ++ Page.allRows rest).length
    rw [List.length_append, ih]

/-- Pages that are not empty are no more than their rows. -/
theorem Page.length_le_total {pages : List Page} (nonempty : ∀ page ∈ pages, page.rows ≠ []) :
    pages.length ≤ Page.total pages := by
  induction pages with
  | nil => exact Nat.le_refl _
  | cons page rest ih =>
    have positive := List.length_pos_iff.mpr (nonempty page (List.mem_cons_self ..))
    have fewer := ih fun other member => nonempty other (List.mem_cons_of_mem _ member)
    rw [List.length_cons, Page.total]
    omega

/-- Pages that leave room for more are fewer than the limit. -/
theorem FetchOptions.Unspent.length_lt {options : FetchOptions} {pages : List Page}
    (unspent : options.Unspent pages) (limited : options.maxRows ≠ 0) :
    pages.length < options.maxRows.toNat :=
  (Page.length_le_total unspent.nonempty).trans_lt (unspent.room.resolve_left limited)

theorem FetchOptions.Unspent.of_append {options : FetchOptions} {pages others : List Page}
    (unspent : options.Unspent (pages ++ others)) : options.Unspent pages where
  unmarked page member := unspent.unmarked page (List.mem_append_left _ member)
  nonempty page member := unspent.nonempty page (List.mem_append_left _ member)
  room := by
    refine unspent.room.imp_right fun inside => ?_
    rw [Page.total_append] at inside
    omega

namespace Cursor

variable {statement : UInt64} {options : FetchOptions} {first : Page} {contacts : List Contact}

/-- Once no more rows may come, no request is started any more. -/
theorem Disciplined.requests_eq {more : List Contact}
    (disciplined : Disciplined statement options first (contacts ++ more))
    (spent : ¬ options.Unspent (first :: Contact.accepted contacts)) :
    Contact.requests (contacts ++ more) = Contact.requests contacts := by
  have none_started : Contact.requests more = [] := by
    apply List.filterMap_eq_nil_iff.mpr
    intro contact member
    cases contact with
    | started request =>
      obtain ⟨before, after, rfl⟩ := List.append_of_mem member
      have unspent := disciplined.unspent (contacts ++ before) request after (List.append_assoc ..).symm
      rw [Contact.accepted_append, ← List.cons_append] at unspent
      exact absurd unspent.of_append spent
    | _ => rfl
  rw [Contact.requests_append, none_started, List.append_nil]

/-- Fewer requests than the limit are answered with a page, if the end of every page is a valid offset. -/
theorem Disciplined.pages_lt (disciplined : Disciplined statement options first contacts)
    (limited : options.maxRows ≠ 0) (fits : ∀ page ∈ Contact.pages contacts, page.fits = true) :
    (Contact.pages contacts).length < options.maxRows.toNat := by
  -- on the newest contact: it is another answer only if more could come before it
  induction contacts using List.reverseRecOn with
  | nil => exact Nat.pos_of_ne_zero fun zero => limited (UInt64.toNat_inj.mp zero)
  | append_singleton contacts newest ih =>
    rw [Contact.pages_append] at fits ⊢
    cases answered : newest.answered? with
    | none =>
      have nothing : Contact.pages [newest] = [] := List.filterMap_cons_none answered
      rw [nothing, List.append_nil] at fits ⊢
      exact ih disciplined.of_append fits
    | some page =>
      obtain ⟨request, rfl⟩ := answered?_eq_some answered
      have unspent := disciplined.answer.2
      have all : Contact.accepted contacts = Contact.pages contacts :=
        List.filter_eq_self.mpr fun page member => fits page (List.mem_append_left _ member)
      rw [all] at unspent
      have fewer := unspent.length_lt limited
      rw [List.length_append]
      exact fewer

variable {σ ρ : Type} [PageSource σ ρ]

/-- What a limit on the rows means for a cursor through a sequence of calls, and over its whole life. -/
structure Limited (options : FetchOptions) (first : Page) (calls : List CursorCall)
    (state : Cursor (PageRequest × ρ) × Watched σ) : Prop where
  /-- No more rows are merged than the limit. -/
  merged_le : ((after calls state).1.merged ((history calls state).filterMap Turn.row)).length ≤
    options.maxRows.toNat
  /-- They are rows of the accepted pages, in their order, -/
  merged_sublist : .close ∉ calls →
    ((after calls state).1.merged ((history calls state).filterMap Turn.row)).Sublist
      ((Page.allRows (first :: Contact.accepted (after calls state).2.contacts)).take options.maxRows.toNat)
  /-- and the first ones without exception, as long as a list can hold them. -/
  merged_eq : .close ∉ calls →
    ((Page.allRows (first :: Contact.accepted (after calls state).2.contacts)).take
      options.maxRows.toNat).length ≤ ScrollableCursor.mostRows →
    (after calls state).1.merged ((history calls state).filterMap Turn.row) =
      (Page.allRows (first :: Contact.accepted (after calls state).2.contacts)).take options.maxRows.toNat
  /-- Nothing is merged once the cursor is closed. -/
  closed : ∀ before later, calls = before ++ .close :: later →
    (after calls state).1.buffered = 0 ∧
    (history calls state).filterMap Turn.row = (history before state).filterMap Turn.row
  /-- Fewer requests than the limit are answered with a page, if the end of each is a valid offset. -/
  pages_lt : (∀ page ∈ Contact.pages (life calls state), page.fits = true) →
    (Contact.pages (life calls state)).length < options.maxRows.toNat
  /-- Once the limit is reached, or as many pages were accepted, no page is requested. -/
  spent : ∀ before later, calls = before ++ later →
    options.maxRows.toNat ≤
        ((after before state).1.merged ((history before state).filterMap Turn.row)).length ∨
      options.maxRows.toNat ≤ (first :: Contact.accepted (after before state).2.contacts).length →
    Contact.requests (life calls state) = Contact.requests (after before state).2.contacts

variable {ownsStatement : Bool} {state : Cursor (PageRequest × ρ) × Watched σ}

/-- The rows that a cursor over any source has merged before it is closed. -/
theorem merged_running
    (running : Supply.Running statement options ownsStatement first (state.1.merged []) (state.1.supply, state.2))
    {calls : List CursorCall} (stays : .close ∉ calls) :
    Supply.Running statement options ownsStatement first
      ((after calls state).1.merged ((history calls state).filterMap Turn.row))
      ((after calls state).1.supply, (after calls state).2) :=
  after_carries (Supply.running_carries _ _ _ _) stays state running

omit [PageSource σ ρ] in
/-- A closed cursor has merged no more than it had before. -/
theorem merged_length_le {cursor closed : Cursor ρ} (visited : List Row) (mode : closed.mode = cursor.mode)
    (nothing : closed.buffered = 0) : (closed.merged visited).length ≤ (cursor.merged visited).length := by
  cases closed with
  | scrollable closed => exact (Nat.le_of_eq nothing).trans (Nat.zero_le _)
  | forward closed =>
    cases cursor with
    | scrollable cursor => cases mode
    | forward cursor =>
      rw [merged, merged, List.length_append, List.length_append, show closed.buffer.length = 0 from nothing]
      exact Nat.le_add_right _ _

/-- A limit bounds what a cursor over any source merges and requests. -/
theorem limited_of_running (limited : options.maxRows ≠ 0) (keeps : Keeps statement options first state)
    (running : Supply.Running statement options ownsStatement first (state.1.merged []) (state.1.supply, state.2))
    (calls : List CursorCall) : Limited options first calls state := by
  have shown (rows : List Row) : options.shown rows = rows.take options.maxRows.toNat := by
    rw [FetchOptions.shown, if_neg limited]
  have merged_le {calls : List CursorCall} (stays : .close ∉ calls) :
      ((after calls state).1.merged ((history calls state).filterMap Turn.row)).length ≤
        min options.maxRows.toNat (Page.total (first :: Contact.accepted (after calls state).2.contacts)) := by
    have shorter := (merged_running running stays).sublist.length_le
    rw [shown, List.length_take] at shorter
    exact shorter.trans_eq (congrArg (min _) (Page.total_eq _).symm)
  have empty (before later : List CursorCall) :
      (after (before ++ .close :: later) state).1.buffered = 0 := by
    rw [after_close, after_append]
    exact (perform_close (after before state)).2.buffered
  constructor
  · by_cases closes : .close ∈ calls
    · obtain ⟨before, later, rfl, stays⟩ := List.eq_append_cons_of_mem closes
      rw [visited_close]
      refine (merged_length_le _ ?_ (empty before later)).trans ((merged_le stays).trans (Nat.min_le_left _ _))
      rw [after_mode, after_mode]
    · exact (merged_le closes).trans (Nat.min_le_left _ _)
  · intro stays
    rw [← shown]
    exact (merged_running running stays).sublist
  · intro stays
    rw [← shown]
    exact (merged_running running stays).rows_eq
  · rintro before later rfl
    exact ⟨empty before later, visited_close before later state⟩
  · exact (keeps.life calls).1.pages_lt limited
  · rintro before later rfl reached
    by_cases closes : .close ∈ before
    · obtain ⟨before, between, rfl, -⟩ := List.eq_append_cons_of_mem closes
      rw [List.append_assoc, List.cons_append, life_close, ← after_close before between]
    · have spent : ¬ options.Unspent (first :: Contact.accepted (after before state).2.contacts) := by
        intro unspent
        rcases reached with rows | pages
        · have inside := unspent.room.resolve_left limited
          have merged := merged_le closes
          omega
        · exact absurd pages (Nat.not_le_of_lt (unspent.length_lt limited))
      obtain ⟨disciplined, grown, -⟩ := keeps.life (before ++ later)
      rw [after_append] at grown
      obtain ⟨more, whole⟩ := ((keeps.after before).contacts_grow later).trans grown
      rw [← whole] at disciplined ⊢
      exact disciplined.requests_eq spent

/-- Over any source and through any calls, a limit on the rows bounds what a cursor merges, how often it
requests a page that it is answered, and how long each of its loops goes on. Watching the source makes no
difference to the cursor. -/
theorem limit_holds (statement : UInt64) {first : Page} (options : FetchOptions) (ownsStatement : Bool)
    (source : σ) (fits : first.offset.toNat + first.rows.length < UInt64.size)
    (limited : options.maxRows ≠ 0) :
    (∃ cursor watched cursor' source',
      «open» statement first options ownsStatement (⟨source, []⟩ : Watched σ) = (.ok cursor, watched) ∧
      «open» statement first options ownsStatement source = (.ok cursor', source') ∧
      ∀ calls,
        (history calls (cursor, watched)).map Turn.sight =
          (history calls (cursor', source')).map Turn.sight ∧
        Limited options first calls (cursor, watched)) ∧
    (∀ state : ForwardCursor ρ × σ,
      ∃ rounds ≤ 1, Op.Loop ForwardCursor.wanting ForwardCursor.takeIn rounds state
        (ForwardCursor.refill state)) ∧
    ∀ enough (cursor : ScrollableCursor ρ) (source : σ), cursor.supply.options = options →
      ∃ rounds ≤ options.maxRows.toNat - cursor.supply.surfaced + 1,
        Op.Loop (ScrollableCursor.wanting enough) ScrollableCursor.readPage rounds (cursor, source)
          (ScrollableCursor.readUntil enough cursor source) := by
  refine ⟨?_, ForwardCursor.refill_loop, ?_⟩
  · obtain ⟨cursor, watched, cursor', source', opened, opened', like, keeps, running, -⟩ :=
      open_running options ownsStatement source fits
    refine ⟨cursor, watched, cursor', source', opened, opened', fun calls => ⟨?_, ?_⟩⟩
    · exact history_alike Watched.unwatched_likeness calls like
    · exact limited_of_running limited keeps running calls
  · rintro enough cursor source rfl
    exact ScrollableCursor.readUntil_loop enough source limited

/-- A source that answers every request with a page of its own choice: at a wrong place, longer than asked
for, and never marked as the last one. -/
def repeating : ScriptedSource where
  total := 3
  script := List.replicate 5 (some (.ok ⟨7, false, Table.seriesRows 0 2⟩))

/-- Four rows are let through of a source that repeats itself. -/
theorem limit_holds_repeating :
    ScriptedSource.firstOfThree.offset.toNat + ScriptedSource.firstOfThree.rows.length < UInt64.size ∧
    ({ maxRows := 4 } : FetchOptions).maxRows ≠ 0 ∧
    ∃ cursor watched,
      «open» 1 ScriptedSource.firstOfThree { maxRows := 4 } true
        (⟨repeating, []⟩ : Watched ScriptedSource) = (.ok cursor, watched) ∧
      ∀ calls, Limited { maxRows := 4 } ScriptedSource.firstOfThree calls (cursor, watched) := by
  have fits : ScriptedSource.firstOfThree.offset.toNat + ScriptedSource.firstOfThree.rows.length <
      UInt64.size := by decide
  have limited : ({ maxRows := 4 } : FetchOptions).maxRows ≠ 0 := by decide
  obtain ⟨⟨cursor, watched, _, _, opened, -, held⟩, -⟩ :=
    limit_holds 1 { maxRows := 4 } true repeating fits limited
  exact ⟨fits, limited, cursor, watched, opened, fun calls => (held calls).2⟩

end Cursor

end PagedResults
