import PagedResults.Proofs.Paging
import PagedResults.Supply

/-! # What a supply hands on

The rows that a supply has handed on are always the shown rows of the pages that it has accepted, and
it is exhausted only once nothing shown is left. `Supply.Steady` is this invariant, together with what
the source still owes; every operation keeps it over an honest exchange, also where a request fails.
-/

namespace PagedResults

private theorem FetchOptions.shown_length_le_limit (options : FetchOptions) (rows : List Row)
    (limited : options.maxRows ≠ 0) : (options.shown rows).length ≤ options.maxRows.toNat := by
  rw [shown, if_neg limited]
  exact List.length_take_le _ _

private theorem FetchOptions.shown_take (options : FetchOptions) (rows : List Row) (count : Nat) :
    (options.shown rows).take count = options.shown (rows.take count) := by
  unfold shown
  split
  · rfl
  · rw [List.take_take, List.take_take, Nat.min_comm]

namespace Supply

variable {σ ρ : Type}

/-- The books of a supply that has accepted the first `loaded` rows of a result. -/
structure Counts (rows : List Row) (loaded : Nat) (supply : Supply ρ) : Prop where
  is_open : supply.closed = false
  offset_eq : supply.nextOffset.toNat = loaded
  loaded_le : loaded ≤ rows.length
  surfaced_eq : supply.surfaced = ((supply.options.shown rows).take loaded).length
  /-- Once exhausted, everything shown is at hand and nothing is under way. -/
  ended : supply.exhausted = true → (supply.options.shown rows).length ≤ loaded ∧ supply.inFlight = none
  /-- Until then the limit leaves room. -/
  unspent : supply.exhausted = false →
    supply.options.maxRows = 0 ∨ loaded < supply.options.maxRows.toNat
  request_offset : ∀ offset request, supply.inFlight = some (offset, request) →
    offset = supply.nextOffset

theorem take_of_advance {page : Page} {nextOffset : UInt64} (supply : Supply ρ)
    (advanced : advance page.offset page.rows.length = .ok nextOffset) :
    supply.take page = .ok (page.rows.take (supply.room.getD page.rows.length), { supply with
      nextOffset
      exhausted := supply.exhausted || page.isLast || page.rows.isEmpty
        || supply.room.any (· ≤ page.rows.length)
      surfaced := supply.surfaced + (page.rows.take (supply.room.getD page.rows.length)).length }) := by
  rw [take, advanced]
  rfl

/-- What was taken in had a place behind it. -/
theorem take_eq_ok {page : Page} {rows : List Row} {supply taken : Supply ρ}
    (took : supply.take page = .ok (rows, taken)) :
    ∃ nextOffset, advance page.offset page.rows.length = .ok nextOffset ∧
      rows = page.rows.take (supply.room.getD page.rows.length) ∧
      taken = { supply with
        nextOffset
        exhausted := supply.exhausted || page.isLast || page.rows.isEmpty
          || supply.room.any (· ≤ page.rows.length)
        surfaced := supply.surfaced + rows.length } := by
  cases advanced : advance page.offset page.rows.length with
  | error reason =>
    rw [take, advanced] at took
    cases took
  | ok nextOffset =>
    rw [supply.take_of_advance advanced] at took
    obtain ⟨rfl, rfl⟩ := Prod.mk.inj (Except.ok.inj took)
    exact ⟨nextOffset, rfl, rfl, rfl⟩

/-- A number of rows fills a supply up if the options limit it and the limit is reached. -/
theorem room_any_iff (supply : Supply ρ) (count : Nat) : supply.room.any (· ≤ count) = true ↔
    supply.options.maxRows ≠ 0 ∧ supply.options.maxRows.toNat ≤ supply.surfaced + count := by
  unfold room
  split
  · next unlimited => simp [unlimited]
  · next limited => simp [limited, Nat.add_comm]

/-- A page that does not fill a supply up is handed on as a whole. -/
theorem take_room (supply : Supply ρ) {added : List Row}
    (fits : ¬ supply.room.any (· ≤ added.length) = true) :
    added.take (supply.room.getD added.length) = added := by
  apply List.take_of_length_le
  rw [room_any_iff] at fits
  unfold room
  split
  · exact Nat.le_refl _
  · next limited =>
    have := not_and.mp fits limited
    rw [Option.getD_some]
    omega

namespace Counts

variable {rows : List Row} {loaded : Nat} {supply : Supply ρ}

/-- As long as the limit leaves room, every accepted row is shown. -/
theorem shown_take_eq (counts : supply.Counts rows loaded) (more : supply.exhausted = false) :
    (supply.options.shown rows).take loaded = rows.take loaded := by
  rw [FetchOptions.shown_take, FetchOptions.shown]
  split
  · rfl
  · next limited =>
    have room := (counts.unspent more).resolve_left limited
    rw [List.take_take, Nat.min_eq_right (by omega)]

private theorem surfaced_of_more (counts : supply.Counts rows loaded) (more : supply.exhausted = false) :
    supply.surfaced = loaded := by
  rw [counts.surfaced_eq, counts.shown_take_eq more, List.length_take, Nat.min_eq_left counts.loaded_le]

/-- What a page adds to the rows at hand. -/
theorem take_append (counts : supply.Counts rows loaded) (more : supply.exhausted = false)
    {page : Page} (shows : page.Shows rows loaded) :
    (supply.options.shown rows).take loaded ++ page.rows.take (supply.room.getD page.rows.length) =
      (supply.options.shown rows).take (loaded + page.rows.length) := by
  rw [counts.shown_take_eq more, FetchOptions.shown_take, ← shows.take_append, room,
    FetchOptions.shown, counts.surfaced_of_more more]
  have front : (rows.take loaded).length = loaded := by
    rw [List.length_take, Nat.min_eq_left counts.loaded_le]
  split
  · rw [Option.getD_none, List.take_length]
  · next limited =>
    have room := (counts.unspent more).resolve_left limited
    rw [Option.getD_some, List.take_append, front, List.take_of_length_le (l := rows.take loaded)]
    rw [front]
    omega

/-- Taking in the page that was asked for. No row at all is handed on only at the end. -/
theorem take_eq (counts : supply.Counts rows loaded) (more : supply.exhausted = false)
    (idle : supply.inFlight = none) (addressable : rows.length < UInt64.size) {page : Page}
    (shows : page.Shows rows loaded) :
    ∃ added next, supply.take page = .ok (added, next) ∧
      next.Counts rows (loaded + page.rows.length) ∧
      next.nextOffset = page.offset + UInt64.ofNat page.rows.length ∧
      next.inFlight = none ∧ next.statement = supply.statement ∧ next.options = supply.options ∧
      (supply.options.shown rows).take loaded ++ added =
        (supply.options.shown rows).take (loaded + page.rows.length) ∧
      (added = [] → next.exhausted = true) := by
  have inside := shows.end_le counts.loaded_le
  have advanced : advance page.offset page.rows.length =
      .ok (page.offset + UInt64.ofNat page.rows.length) := by
    rw [advance, if_pos (by rw [shows.offset_eq]; omega)]
  have handed := counts.take_append more shows
  have surfaced := counts.surfaced_of_more more
  refine ⟨_, _, supply.take_of_advance advanced, ?_, rfl, idle, rfl, rfl, handed, ?_⟩
  · refine ⟨counts.is_open, ?_, inside, ?_, ?_, ?_, ?_⟩
    · exact shows.toNat_next counts.loaded_le addressable
    · change supply.surfaced + _ = _
      rw [counts.surfaced_eq, ← List.length_append, handed]
    · intro exhausted
      refine ⟨?_, idle⟩
      change (supply.options.shown rows).length ≤ _
      have shorter := supply.options.shown_length_le rows
      simp only [more, Bool.false_or, Bool.or_eq_true, List.isEmpty_iff] at exhausted
      obtain (last | empty) | full := exhausted
      · have := shows.ends last
        omega
      · have := shows.length_le_of_rows_nil empty
        omega
      · obtain ⟨limited, reached⟩ := (supply.room_any_iff _).mp full
        have := supply.options.shown_length_le_limit rows limited
        omega
    · intro unfinished
      simp only [Bool.or_eq_false_iff] at unfinished
      have room := mt (supply.room_any_iff page.rows.length).mpr (Bool.eq_false_iff.mp unfinished.2)
      change supply.options.maxRows = 0 ∨ _ < supply.options.maxRows.toNat
      rw [surfaced] at room
      by_contra spent
      exact room ⟨fun unlimited => spent (.inl unlimited), by omega⟩
    · intro offset request started
      rw [idle] at started
      contradiction
  · intro nothing
    by_contra unfinished
    simp only [Bool.not_eq_true, Bool.or_eq_false_iff] at unfinished
    rw [supply.take_room (Bool.eq_false_iff.mp unfinished.2)] at nothing
    rw [nothing] at unfinished
    exact Bool.noConfusion unfinished.1.2

end Counts

/-! ## The exchange with the source -/

/-- What the supply asks for, by the offset. -/
def ask (supply : Supply ρ) : UInt64 → PageRequest := supply.options.ask supply.statement

/-- Where the exchange with the source stands. -/
def paging (state : Supply ρ × σ) : Paging σ ρ :=
  ⟨state.1.nextOffset, state.1.inFlight.map (·.2), state.2⟩

private theorem paging_idle {supply : Supply ρ} {source : σ} (idle : supply.inFlight = none) :
    paging (supply, source) = ⟨supply.nextOffset, none, source⟩ := by
  simp only [paging, idle, Option.map_none]

private theorem paging_started {supply : Supply ρ} {source : σ} {offset : UInt64} {request : ρ}
    (started : supply.inFlight = some (offset, request)) :
    paging (supply, source) = ⟨supply.nextOffset, some request, source⟩ := by
  simp only [paging, started, Option.map_some]

/-- An operation that returns normally met no refusal, and one that fails passes on the only refusal,
with which it ended. A caller sees a halt of the fetching thread as an error as well. -/
def Accounts {α : Type} (answers : List (Outcome Error Page)) : Outcome Error α → Prop
  | .ok _ => ∃ pages : List Page, answers = pages.map .ok
  | .error (.error error) => ∃ (pages : List Page) (cause : Failure Error) (offset : UInt64),
      answers = pages.map .ok ++ [.error cause] ∧ joined offset (.error cause) = Outcome.fail error
  | .error (.halt _) => False

theorem Accounts.prepend {α : Type} (pages : List Page) {answers : List (Outcome Error Page)}
    {outcome : Outcome Error α} (accounts : Accounts answers outcome) :
    Accounts (pages.map .ok ++ answers) outcome := by
  match outcome, accounts with
  | .ok _, ⟨others, same⟩ => exact ⟨pages ++ others, by rw [same, List.map_append]⟩
  | .error (.error _), ⟨others, cause, offset, same, passed⟩ =>
    exact ⟨pages ++ others, cause, offset, by rw [same, List.map_append, List.append_assoc], passed⟩

variable [PageSource σ ρ]

/-- A supply with the first `loaded` rows of a result, in an honest exchange about it. -/
structure Steady (rows : List Row) (loaded : Nat) (state : Supply ρ × σ) : Prop where
  counts : state.1.Counts rows loaded
  honest : Paging.Honest rows state.1.ask (paging state)
  addressable : rows.length < UInt64.size

/-- An operation took a steady supply to a steady one, over the exchange `answers`. -/
structure Advances (rows : List Row) (loaded : Nat) (before : Supply ρ × σ)
    (answers : List (Outcome Error Page)) (loaded' : Nat) (after : Supply ρ × σ) : Prop where
  run : Paging.Run before.1.ask (paging before) answers (paging after)
  counts : after.1.Counts rows loaded'
  loaded_le : loaded ≤ loaded'
  statement_eq : after.1.statement = before.1.statement
  options_eq : after.1.options = before.1.options

namespace Advances

variable {rows : List Row} {loaded loaded' loaded'' : Nat} {before middle after : Supply ρ × σ}
  {answers later : List (Outcome Error Page)}

theorem ask_eq (advances : Advances rows loaded before answers loaded' after) :
    after.1.ask = before.1.ask := by
  unfold ask
  rw [advances.statement_eq, advances.options_eq]

theorem steady (advances : Advances rows loaded before answers loaded' after)
    (steady : Steady rows loaded before) : Steady rows loaded' after :=
  ⟨advances.counts, advances.ask_eq ▸ steady.honest.after advances.run, steady.addressable⟩

theorem trans (first : Advances rows loaded before answers loaded' middle)
    (second : Advances rows loaded' middle later loaded'' after) :
    Advances rows loaded before (answers ++ later) loaded'' after where
  run := first.run.trans (first.ask_eq ▸ second.run)
  counts := second.counts
  loaded_le := first.loaded_le.trans second.loaded_le
  statement_eq := second.statement_eq.trans first.statement_eq
  options_eq := second.options_eq.trans first.options_eq

end Advances

theorem Steady.refl {rows : List Row} {loaded : Nat} {state : Supply ρ × σ}
    (steady : Steady rows loaded state) : Advances rows loaded state [] loaded state :=
  ⟨.refl, steady.counts, Nat.le_refl _, rfl, rfl⟩

section Operations

variable {rows : List Row} {loaded : Nat} {supply : Supply ρ} {source : σ}

omit [PageSource σ ρ] in
theorem checkOpen_apply (isOpen : supply.closed = false) :
    checkOpen (supply, source) = (.ok (), supply, source) := by
  rw [checkOpen, if_neg (by simp [isOpen])]

theorem note_advances (steady : Steady rows loaded (supply, source)) (thread : Thread) (event : Event) :
    Advances rows loaded (supply, source) [] loaded
      (supply, PageSource.note thread event source) where
  run := .note thread event .refl
  counts := steady.counts
  loaded_le := Nat.le_refl _
  statement_eq := rfl
  options_eq := rfl

theorem prefetch_busy (supply : Supply ρ) (source : σ)
    (busy : supply.exhausted = true ∨ supply.inFlight.isSome = true) :
    prefetch (supply, source) = (supply, source) := by
  rw [prefetch, if_pos (by simpa using busy)]

/-- The thread that fetches notes the request, and then the caller does. -/
theorem prefetch_idle (supply : Supply ρ) (source : σ) (more : supply.exhausted = false)
    (idle : supply.inFlight = none) :
    prefetch (supply, source) =
      let noted := PageSource.note .fetch (.fetching supply.statement supply.nextOffset) source
      let begun := PageSource.start supply.request noted
      ({ supply with inFlight := some (supply.nextOffset, begun.1), fetches := supply.fetches + 1 },
        PageSource.note .caller (.prefetching supply.statement supply.nextOffset) begun.2) := by
  rw [prefetch, if_neg (by simp [more, idle])]

/-- Beginning a request changes neither the rows at hand nor what was answered. -/
theorem prefetch_advances (steady : Steady rows loaded (supply, source)) :
    Advances rows loaded (supply, source) [] loaded (prefetch (supply, source)) := by
  by_cases busy : supply.exhausted = true ∨ supply.inFlight.isSome = true
  · rw [prefetch_busy supply source busy]
    exact steady.refl
  · obtain ⟨more, idle⟩ : supply.exhausted = false ∧ supply.inFlight = none := by
      simpa [not_or] using busy
    rw [prefetch_idle supply source more idle]
    refine ⟨?_, ?_, Nat.le_refl _, rfl, rfl⟩
    · rw [paging_idle idle]
      exact .note .caller _ (.begin (.note .fetch _ .refl))
    · exact { steady.counts with
        ended := fun exhausted => by rw [more] at exhausted; contradiction
        request_offset := fun offset request started => by cases started; rfl }

theorem prefetch_exhausted (supply : Supply ρ) (source : σ) :
    (prefetch (supply, source)).1.exhausted = supply.exhausted := by
  rw [prefetch]
  split <;> rfl

theorem prefetch_inFlight (supply : Supply ρ) (source : σ) (more : supply.exhausted = false) :
    (prefetch (supply, source)).1.inFlight.isSome = true := by
  rw [prefetch]
  split
  · next busy => simpa [more] using busy
  · rfl

theorem join_idle (idle : supply.inFlight = none) :
    join (supply, source) = (.ok none, supply, source) := by
  rw [join, Op.bind_apply, wait, idle]
  rfl

private theorem join_refused {offset : UInt64} {request : ρ} {cause failure : Failure Error} {next : σ}
    (started : supply.inFlight = some (offset, request))
    (finished : PageSource.finish request source = (.error cause, next))
    (passed : joined offset (.error cause) = .error failure) :
    join (supply, source) = (.error failure, { supply with inFlight := none }, next) := by
  rw [join, Op.bind_apply, wait, started]
  simp only [finished, passed]
  rfl

private theorem join_answered {offset : UInt64} {request : ρ} {page : Page} {added : List Row}
    {taken : Supply ρ} {next : σ} (started : supply.inFlight = some (offset, request))
    (finished : PageSource.finish request source = (.ok page, next))
    (accepted : take page ({ supply with inFlight := none } : Supply ρ) = .ok (added, taken)) :
    join (supply, source) = (.ok (some added), taken, PageSource.noteAll .caller
      (remarks page ({ supply with inFlight := none } : Supply ρ)) next) := by
  rw [join, Op.bind_apply, wait, started]
  simp only [finished, joined, Except.map, Op.map_apply, accept, accepted]

/-- Waiting for the request under way: its page is handed on, or its failure is passed on and the
supply is as before the request. -/
theorem join_cases (steady : Steady rows loaded (supply, source)) {offset : UInt64} {request : ρ}
    (started : supply.inFlight = some (offset, request)) :
    (∃ added page after loaded', join (supply, source) = (.ok (some added), after) ∧
      Advances rows loaded (supply, source) [.ok page] loaded' after ∧
      (supply.options.shown rows).take loaded ++ added = (supply.options.shown rows).take loaded' ∧
      (added = [] → after.1.exhausted = true) ∧ after.1.inFlight = none) ∨
    (∃ error answers after, join (supply, source) = (Outcome.fail error, after) ∧
      Advances rows loaded (supply, source) answers loaded after ∧
      Accounts answers (Outcome.fail error : Outcome Error Unit)) := by
  obtain ⟨counts, honest, addressable⟩ := steady
  have more : supply.exhausted = false := by
    by_contra exhausted
    have := (counts.ended (by simpa using exhausted)).2
    rw [started] at this
    contradiction
  have waiting : Paging.Run supply.ask (paging (supply, source)) []
      ⟨supply.nextOffset, some request, source⟩ := paging_started started ▸ .refl
  have answer := honest [] _ _ _ waiting
  have idle : Counts rows loaded ({ supply with inFlight := none } : Supply ρ) :=
    { counts with
      ended := fun exhausted => ⟨(counts.ended exhausted).1, rfl⟩
      request_offset := fun offset request started => nomatch started }
  rcases finished : PageSource.finish request source with ⟨outcome, next⟩
  rw [finished] at answer
  match outcome, answer with
  | .ok page, shows =>
    have shows : page.Shows rows loaded := counts.offset_eq ▸ shows
    obtain ⟨added, taken, accepted, counted, offset_eq, none_left, statement_eq, options_eq, handed, last⟩ :=
      idle.take_eq more rfl addressable shows
    refine .inl ⟨added, page, _, _, join_answered started finished accepted, ?_, handed, last, none_left⟩
    refine ⟨?_, counted, by omega, statement_eq, options_eq⟩
    rw [paging_idle none_left, offset_eq]
    exact .noteAll .caller _ (.answered waiting finished)
  | .error (.error error), _ =>
    refine .inr ⟨error, [.error (.error error)], _, join_refused started finished rfl, ?_, ?_⟩
    · exact ⟨.refused waiting finished, idle, Nat.le_refl _, rfl, rfl⟩
    · exact ⟨[], _, offset, rfl, rfl⟩
  | .error (.halt reason), live =>
    have passed : joined offset (.error (.halt reason)) =
        Outcome.fail (.interrupted s!"fetch from offset {offset} panicked") := by
      unfold joined
      split
      · next same => cases same; exact absurd rfl live
      · next same => cases same; rfl
      · next other => exact absurd rfl (other reason)
    refine .inr ⟨_, [.error (.halt reason)], _, join_refused started finished passed, ?_, ?_⟩
    · exact ⟨.refused waiting finished, idle, Nat.le_refl _, rfl, rfl⟩
    · exact ⟨[], _, offset, rfl, passed⟩

theorem fetchNow_apply (state : Supply ρ × σ) :
    fetchNow state = ((join (prefetch state)).1.map (·.getD []), (join (prefetch state)).2) := by
  rw [fetchNow, Op.bind_apply, Op.modify_apply, ← map_eq_pure_bind]
  exact Op.map_apply _ _ _

/-- Fetching the next page of a supply that is not exhausted. -/
theorem fetchNow_cases (steady : Steady rows loaded (supply, source))
    (more : supply.exhausted = false) :
    (∃ added page after loaded', fetchNow (supply, source) = (.ok added, after) ∧
      Advances rows loaded (supply, source) [.ok page] loaded' after ∧
      (supply.options.shown rows).take loaded ++ added = (supply.options.shown rows).take loaded' ∧
      (added = [] → after.1.exhausted = true)) ∨
    (∃ error answers after, fetchNow (supply, source) = (Outcome.fail error, after) ∧
      Advances rows loaded (supply, source) answers loaded after ∧
      Accounts answers (Outcome.fail error : Outcome Error Unit)) := by
  have begun := prefetch_advances steady
  have busy := prefetch_inFlight supply source more
  rcases started : prefetch (supply, source) with ⟨supply', source'⟩
  rw [started] at begun busy
  obtain ⟨⟨offset, request⟩, underWay⟩ := Option.isSome_iff_exists.mp busy
  rw [fetchNow_apply, started]
  have same : supply'.options = supply.options := begun.options_eq
  rcases join_cases (begun.steady steady) underWay with
    ⟨added, page, after, loaded', joined, advances, handed, last, _⟩ |
    ⟨error, answers, after, joined, advances, accounts⟩
  · refine .inl ⟨added, page, after, loaded', by rw [joined]; rfl, begun.trans advances, ?_, last⟩
    rw [← same]
    exact handed
  · exact .inr ⟨error, answers, after, by rw [joined]; rfl, begun.trans advances, accounts⟩

end Operations

/-- A supply over the first page of a result has that page at hand, and the exchange about the other
pages is still to begin. -/
theorem ofFirst_eq {rows : List Row} {first : Page} {source : σ} (statement : UInt64)
    (options : FetchOptions) (ownsStatement : Bool) (addressable : rows.length < UInt64.size)
    (shows : first.Shows rows 0)
    (honest : Paging.Honest rows (options.ask statement)
      ⟨UInt64.ofNat first.rows.length, none, source⟩) :
    ∃ supply opened, ofFirst statement first options ownsStatement source =
        (.ok ((options.shown rows).take first.rows.length), supply, opened) ∧
      Steady rows first.rows.length (supply, opened) ∧ supply.options = options ∧
      supply.ask = options.ask statement ∧
      Paging.Run (options.ask statement) ⟨UInt64.ofNat first.rows.length, none, source⟩ []
        (paging (supply, opened)) := by
  have empty : Counts rows 0
      ({ statement, options, ownsStatement, nextOffset := first.offset } : Supply ρ) :=
    { is_open := rfl
      offset_eq := shows.offset_eq
      loaded_le := Nat.zero_le _
      surfaced_eq := rfl
      ended := fun exhausted => nomatch exhausted
      unspent := fun _ => by
        rcases Nat.eq_zero_or_pos options.maxRows.toNat with none_left | some_left
        · exact .inl (UInt64.toNat_inj.mp none_left)
        · exact .inr some_left
      request_offset := fun _ _ started => nomatch started }
  obtain ⟨added, supply, taken, counts, offset_eq, idle, statement_eq, options_eq, handed, -⟩ :=
    empty.take_eq rfl rfl addressable shows
  rw [Nat.zero_add] at counts handed
  have zero : first.offset = 0 := UInt64.toNat_inj.mp shows.offset_eq
  rw [zero, UInt64.zero_add] at offset_eq
  have asks : supply.ask = options.ask statement := by
    rw [ask, options_eq, statement_eq]
  have run : Paging.Run (options.ask statement) ⟨UInt64.ofNat first.rows.length, none, source⟩ []
      (paging (supply, PageSource.noteAll .caller (remarks first
        ({ statement, options, ownsStatement, nextOffset := first.offset } : Supply ρ)) source)) := by
    rw [paging_idle idle, offset_eq]
    exact .noteAll .caller _ .refl
  refine ⟨supply, _, ?_, ⟨counts, ?_, addressable⟩, options_eq, asks, run⟩
  · rw [ofFirst, accept, taken, ← handed, List.take_zero, List.nil_append]
  · rw [asks]
    exact honest.after run

end Supply

end PagedResults
