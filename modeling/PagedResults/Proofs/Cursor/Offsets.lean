import PagedResults.Proofs.Cursor.Limit
import PagedResults.Proofs.Pages.Defects

/-! # Offsets from the other side

A page says by itself where it begins, and nothing holds it to the place that was asked for. Two sums
start from this offset: the numbers of the rows while a page is read, and the place behind the page when
it is taken in. Either sum may leave the range of 64 bits, and then the thread halts at which it is made:
the one that fetches, or the one that moves the cursor. `Op.Tallies` follows the second through all calls of
a cursor.
-/

namespace PagedResults

/-! ## The place behind a page -/

namespace Page

variable {page : Page}

theorem fits_iff : page.fits = true ↔ page.offset.toNat + page.rows.length < UInt64.size :=
  decide_eq_true_iff

/-- The place behind a page lies in front of the page exactly if it has left the range. -/
theorem next_lt_offset_iff (short : page.rows.length < UInt64.size) :
    page.next < page.offset ↔ page.fits = false := by
  have inside := page.offset.toNat_lt
  have wordSize : UInt64.size = 2 ^ 64 := rfl
  have behind : page.next.toNat = (page.offset.toNat + page.rows.length) % 2 ^ 64 := by
    rw [next, UInt64.toNat_add, UInt64.toNat_ofNat_of_lt' short]
  rw [UInt64.lt_iff_toNat_lt, behind, ← Bool.not_eq_true, fits_iff, wordSize]
  constructor
  · intro lower fits
    rw [Nat.mod_eq_of_lt fits] at lower
    omega
  · intro beyond
    rw [Nat.mod_eq_sub_mod (Nat.not_lt.mp beyond), Nat.mod_eq_of_lt (by omega)]
    omega

theorem toNat_next (fits : page.fits = true) : page.next.toNat = page.offset.toNat + page.rows.length :=
  toNat_offset_add (fits_iff.mp fits)

/-- Reading a page halts over a row number if there are more rows than numbers, and nothing else stands
in the way before the numbers are used up. -/
theorem ofWire_overflows_iff (arity : Nat) (page : WirePage) :
    ofWire arity page = .error (.halt .additionOverflow) ↔
      UInt64.size < page.offset.toNat + page.rows.length ∧
        ∀ cells ∈ page.rows.take (UInt64.size - page.offset.toNat), Row.Sound arity cells := by
  have inside : page.offset.toNat < UInt64.size := page.offset.toNat_lt
  rw [ofWire_eq_error]
  constructor
  · rintro ⟨index, cells, entry, numbered, earlier, stops⟩
    have within := (List.getElem?_eq_some_iff.mp entry).1
    have beyond : UInt64.size ≤ page.offset.toNat + index := by
      by_contra below
      rw [rowAt_of_addressable (Nat.lt_of_not_le below)] at stops
      nomatch (Row.Boundless.of_halt stops).1
    have first : UInt64.size - page.offset.toNat = index := by omega
    exact ⟨by omega, first ▸ earlier⟩
  · rintro ⟨more, earlier⟩
    have within : UInt64.size - page.offset.toNat < page.rows.length := by omega
    refine ⟨_, _, List.getElem?_eq_getElem within, ?_, earlier, rowAt_of_overflow ?_⟩ <;> omega

end Page

namespace Supply

variable {σ ρ : Type}

/-- A page is taken in unless the place behind it is out of range. -/
theorem take_overflows_iff (page : Page) (supply : Supply ρ) :
    supply.take page = .error .additionOverflow ↔ page.fits = false := by
  rw [← Bool.not_eq_true, Page.fits_iff, take, advance]
  split
  · next fits => simpa [bind, Except.bind, pure, Except.pure] using fits
  · next beyond => simpa [bind, Except.bind] using beyond

/-- The next request goes to the end of the page that was taken in. -/
theorem take_nextOffset {page : Page} {supply taken : Supply ρ} {rows : List Row}
    (took : supply.take page = .ok (rows, taken)) :
    taken.nextOffset.toNat = page.offset.toNat + page.rows.length := by
  obtain ⟨nextOffset, advanced, -, rfl⟩ := take_eq_ok took
  rw [advance] at advanced
  split at advanced
  · next fits =>
    obtain rfl := Except.ok.inj advanced
    exact Page.toNat_offset_add fits
  · cases advanced

end Supply

/-! ## Calls that end at such a page -/

namespace Contact

/-- The pages behind which there is no place. -/
def unfit (contacts : List Contact) : List Page := (pages contacts).filter fun page => !page.fits

private theorem unfit_append (contacts others : List Contact) :
    unfit (contacts ++ others) = unfit contacts ++ unfit others := by
  rw [unfit, pages_append, List.filter_append]
  rfl

end Contact

namespace Op

/-- An operation over a watched source goes on as long as the pages handed to it fit, and halts at the
first one that does not; `unfit` are the unfit pages of the time before it. -/
def Tallies {α τ σ : Type} (unfit : List Page) (result : Outcome Error α × τ × Watched σ) : Prop :=
  (result.1 = .error (.halt .additionOverflow) ∧
    ∃ page, Contact.unfit result.2.2.contacts = unfit ++ [page]) ∨
  (result.1 ≠ .error (.halt .additionOverflow) ∧ Contact.unfit result.2.2.contacts = unfit)

namespace Tallies

variable {α β τ υ σ : Type} {unfit : List Page} {state : τ × Watched σ}

/-- The state beside the source is of no account. -/
theorem beside {outcome : Outcome Error α} {part : τ} {watched : Watched σ}
    (tallies : Tallies unfit (outcome, part, watched)) (whole : υ) :
    Tallies unfit (outcome, whole, watched) := tallies

/-- A failure is the same for whoever hands it on. -/
theorem failed {failure : Failure Error} {part : τ} {watched : Watched σ}
    (tallies : Tallies unfit ((.error failure : Outcome Error α), part, watched)) (whole : υ) :
    Tallies unfit ((.error failure : Outcome Error β), whole, watched) := by
  rcases tallies with ⟨halted, more⟩ | ⟨live, same⟩
  · cases halted
    exact .inl ⟨rfl, more⟩
  · refine .inr ⟨?_, same⟩
    rintro ⟨rfl⟩
    exact live rfl

/-- What returns was handed no unfit page. -/
theorem returned {value : α} (tallies : Tallies unfit ((.ok value : Outcome Error α), state)) :
    Contact.unfit state.2.contacts = unfit := by
  rcases tallies with ⟨halted, -⟩ | ⟨-, same⟩
  · nomatch halted
  · exact same

/-- What returns and makes no contact tallies. -/
theorem still {value : α} (same : Contact.unfit state.2.contacts = unfit) :
    Tallies unfit ((.ok value : Outcome Error α), state) := .inr ⟨nofun, same⟩

/-- So does what refuses to go on. -/
theorem refused {cause : Error} (same : Contact.unfit state.2.contacts = unfit) :
    Tallies unfit ((Outcome.fail cause : Outcome Error α), state) := .inr ⟨nofun, same⟩

theorem bind {op : Op Error (τ × Watched σ) α} {next : α → Op Error (τ × Watched σ) β}
    (first : Tallies unfit (op state))
    (rest : ∀ value after, Contact.unfit after.2.contacts = unfit → Tallies unfit (next value after)) :
    Tallies unfit ((op >>= next) state) := by
  rw [Op.bind_apply]
  rcases came : op state with ⟨failure | value, after⟩ <;> rw [came] at first
  · exact first.failed _
  · exact rest value after first.returned

theorem get_bind {next : τ × Watched σ → Op Error (τ × Watched σ) β} (rest : Tallies unfit (next state state)) :
    Tallies unfit ((get >>= next) state) := by
  rw [Op.bind_apply]
  exact rest

theorem map (change : α → β) {op : Op Error (τ × Watched σ) α} (tallies : Tallies unfit (op state)) :
    Tallies unfit ((change <$> op) state) := by
  rw [map_eq_pure_bind]
  exact tallies.bind fun _ _ same => .inr ⟨nofun, same⟩

end Tallies

end Op

namespace Supply

variable {σ ρ : Type} [PageSource σ ρ] {unfit : List Page}

private theorem prefetch_unfit (state : Supply (PageRequest × ρ) × Watched σ) :
    Contact.unfit (prefetch state).2.contacts = Contact.unfit state.2.contacts := by
  rcases prefetch_watched state with same | ⟨flight, request, -, contacts_eq⟩
  · rw [same]
  · rw [contacts_eq, Contact.unfit_append]
    exact List.append_nil _

omit [PageSource σ ρ] in
/-- A request that halts its thread is an error to the thread that waits for it. -/
theorem joined_ne_overflow {offset : UInt64} {outcome : Outcome Error Page} :
    joined offset outcome ≠ .error (.halt .additionOverflow) := by
  intro halted
  unfold joined at halted
  split at halted
  · cases halted
  · cases halted
  · next unhalted => exact unhalted _ halted

/-- Waiting for a page halts for a sum exactly if the page does not fit. -/
theorem join_tallies (state : Supply (PageRequest × ρ) × Watched σ) :
    Op.Tallies (Contact.unfit state.2.contacts) (join state) := by
  obtain ⟨supply, watched⟩ := state
  cases started : supply.inFlight with
  | none =>
    rw [join_apply, started]
    exact .still rfl
  | some flight =>
    obtain ⟨offset, request⟩ := flight
    have ended : Contact.unfit (join (supply, watched)).2.2.contacts = Contact.unfit watched.contacts ++
        Contact.unfit [.ended request.1 (PageSource.finish request.2 watched.source).1] := by
      rw [join_contacts, wait, started]
      exact Contact.unfit_append ..
    rw [Op.Tallies, ended]
    have answer : (PageSource.finish request watched).1 = (PageSource.finish request.2 watched.source).1 := rfl
    rw [join_apply, started]
    dsimp only
    rw [answer]
    have live := @joined_ne_overflow offset (PageSource.finish request.2 watched.source).1
    cases came : joined offset (PageSource.finish request.2 watched.source).1 with
    | error failure =>
      obtain ⟨cause, refused⟩ := joined_eq_error came
      rw [came] at live
      refine .inr ⟨fun halted => live (congrArg _ (Except.error.inj halted)), ?_⟩
      rw [refused]
      exact List.append_nil _
    | ok page =>
      rw [joined_eq_ok came]
      dsimp only
      by_cases fits : page.offset.toNat + page.rows.length < UInt64.size
      · obtain ⟨rows, taken, -, accepted⟩ := accept_of_fits ({ supply with inFlight := none } : Supply _)
          (PageSource.finish request watched).2 fits
        rw [accepted]
        refine .inr ⟨by simp [Except.map], ?_⟩
        have nothing : Contact.unfit [.ended request.1 (.ok page)] = [] :=
          List.filter_cons_of_neg (by rw [Page.fits_iff.mpr fits]; decide)
        rw [nothing, List.append_nil]
      · rw [accept_of_not_fits _ _ fits]
        refine .inl ⟨rfl, page, ?_⟩
        have unfit : page.fits = false := Bool.eq_false_iff.mpr (mt Page.fits_iff.mp fits)
        exact congrArg _ (List.filter_cons_of_pos (by rw [unfit]; rfl))

private theorem fetchNow_tallies (state : Supply (PageRequest × ρ) × Watched σ) :
    Op.Tallies (Contact.unfit state.2.contacts) (fetchNow state) := by
  have begun : Op.Tallies (Contact.unfit state.2.contacts) ((modify prefetch : Op Error _ _) state) :=
    .still (prefetch_unfit state)
  refine begun.bind fun _ after same => ?_
  rw [← same]
  exact (join_tallies after).bind fun _ last same => .still same

omit [PageSource σ ρ] in
private theorem checkOpen_tallies (state : Supply (PageRequest × ρ) × Watched σ) :
    Op.Tallies (Contact.unfit state.2.contacts) (checkOpen state) := by
  rw [checkOpen]
  split
  · exact .refused rfl
  · exact .still rfl

end Supply

/-! ### Forward cursors -/

namespace ForwardCursor

variable {σ ρ : Type} [PageSource σ ρ] {unfit : List Page}
  {state : ForwardCursor (PageRequest × ρ) × Watched σ}

omit [PageSource σ ρ] in
private theorem checkOpen_tallies (same : Contact.unfit state.2.contacts = unfit) :
    Op.Tallies unfit (onSupply Supply.checkOpen state) :=
  (same ▸ Supply.checkOpen_tallies (state.1.supply, state.2)).beside _

private theorem prefetch_tallies (same : Contact.unfit state.2.contacts = unfit) :
    Op.Tallies unfit (onSupply (modify Supply.prefetch) state) :=
  .still ((Supply.prefetch_unfit (state.1.supply, state.2)).trans same)

private theorem fetchNow_tallies (same : Contact.unfit state.2.contacts = unfit) :
    Op.Tallies unfit (onSupply Supply.fetchNow state) :=
  (same ▸ Supply.fetchNow_tallies (state.1.supply, state.2)).beside _

private theorem refill_tallies (same : Contact.unfit state.2.contacts = unfit) : Op.Tallies unfit (refill state) := by
  apply Op.Tallies.get_bind
  dsimp only
  split
  · exact (fetchNow_tallies same).bind fun rows after same => .still same
  · exact .still same

private theorem next_tallies (same : Contact.unfit state.2.contacts = unfit) : Op.Tallies unfit (next state) := by
  refine (checkOpen_tallies same).bind fun _ after same => Op.Tallies.get_bind ?_
  dsimp only
  split
  · exact .still same
  · split
    · refine (prefetch_tallies same).bind fun _ begun same => ?_
      exact (refill_tallies same).bind fun _ last same => .still same
    · exact (refill_tallies same).bind fun _ last same => .still same

private theorem isLast_tallies (same : Contact.unfit state.2.contacts = unfit) : Op.Tallies unfit (isLast state) := by
  refine (checkOpen_tallies same).bind fun _ after same => Op.Tallies.get_bind ?_
  dsimp only
  split
  · exact .still same
  · exact (refill_tallies same).bind fun _ last same => .still same

end ForwardCursor

/-! ### Scrollable cursors -/

namespace ScrollableCursor

variable {σ ρ : Type} [PageSource σ ρ] {unfit : List Page}
  {state : ScrollableCursor (PageRequest × ρ) × Watched σ}

omit [PageSource σ ρ] in
private theorem checkOpen_tallies (same : Contact.unfit state.2.contacts = unfit) :
    Op.Tallies unfit (onSupply Supply.checkOpen state) :=
  (same ▸ Supply.checkOpen_tallies (state.1.supply, state.2)).beside _

private theorem prefetch_tallies (same : Contact.unfit state.2.contacts = unfit) :
    Op.Tallies unfit (onSupply (modify Supply.prefetch) state) :=
  .still ((Supply.prefetch_unfit (state.1.supply, state.2)).trans same)

private theorem mergeInFlight_tallies (same : Contact.unfit state.2.contacts = unfit) :
    Op.Tallies unfit (mergeInFlight state) := by
  have joined : Op.Tallies unfit (onSupply Supply.join state) :=
    (same ▸ Supply.join_tallies (state.1.supply, state.2)).beside _
  refine joined.bind fun rows after same => ?_
  cases rows with
  | none => exact .still same
  | some rows =>
    obtain ⟨cursor, watched⟩ := after
    dsimp only
    rw [extend]
    split
    · exact .inr ⟨by simp [Outcome.halt], same⟩
    · exact .still same

/-- Reading on ends with the first page that does not fit. -/
theorem readUntil_tallies (enough : Nat → Bool) {cursor : ScrollableCursor (PageRequest × ρ)}
    {watched : Watched σ} (same : Contact.unfit watched.contacts = unfit) :
    Op.Tallies unfit (readUntil enough cursor watched) := by
  have tallied {cursor : ScrollableCursor (PageRequest × ρ)} {watched next : Watched σ}
      {outcome : Outcome Error (List Row)} {supply : Supply (PageRequest × ρ)}
      (same : Contact.unfit watched.contacts = unfit)
      (came : Supply.fetchNow (cursor.supply, watched) = (outcome, supply, next)) :
      Op.Tallies unfit (outcome, supply, next) :=
    came ▸ same ▸ Supply.fetchNow_tallies (cursor.supply, watched)
  fun_induction readUntil enough cursor watched with
  | case1 cursor watched done => exact .still same
  | case2 cursor watched more failure supply next refused => exact (tallied same refused).failed _
  | case3 cursor watched more supply next fetched => exact .still (tallied same fetched).returned
  | case4 cursor watched more added supply next fetched someRow full =>
    exact .inr ⟨by simp [Outcome.halt], (tallied same fetched).returned⟩
  | case5 cursor watched more added supply next fetched someRow fits ih =>
    exact ih (tallied same fetched).returned

private theorem materializeTo_tallies (target : Int64) (same : Contact.unfit state.2.contacts = unfit) :
    Op.Tallies unfit (materializeTo target state) := by
  apply Op.Tallies.get_bind
  dsimp only
  split
  · exact .still same
  · refine (mergeInFlight_tallies same).bind fun _ middle same => ?_
    refine Op.Tallies.bind (readUntil_tallies _ same) fun _ after same => ?_
    exact Op.Tallies.get_bind (.still same)

private theorem drain_tallies (same : Contact.unfit state.2.contacts = unfit) : Op.Tallies unfit (drain state) := by
  refine (mergeInFlight_tallies same).bind fun _ middle same => ?_
  refine Op.Tallies.bind (readUntil_tallies _ same) fun _ after same => ?_
  exact .still same

private theorem moveTo_tallies (target : Int64) (same : Contact.unfit state.2.contacts = unfit) :
    Op.Tallies unfit (moveTo target state) := by
  rw [moveTo]
  split
  · exact .still same
  · exact (materializeTo_tallies target same).bind fun found after same => .still same

private theorem next_tallies (same : Contact.unfit state.2.contacts = unfit) : Op.Tallies unfit (next state) := by
  refine (checkOpen_tallies same).bind fun _ after same => Op.Tallies.get_bind ?_
  dsimp only
  split
  · exact .still same
  · split
    · refine (prefetch_tallies same).bind fun _ begun same => ?_
      exact (materializeTo_tallies _ same).bind fun _ last same => .still same
    · exact (materializeTo_tallies _ same).bind fun _ last same => .still same

private theorem isLast_tallies (same : Contact.unfit state.2.contacts = unfit) : Op.Tallies unfit (isLast state) := by
  refine (checkOpen_tallies same).bind fun _ after same => Op.Tallies.get_bind ?_
  dsimp only
  split
  · exact .still same
  · exact (materializeTo_tallies _ same).bind fun _ last same => .still same

private theorem absolute_tallies (row : Int64) (same : Contact.unfit state.2.contacts = unfit) :
    Op.Tallies unfit (absolute row state) := by
  refine (checkOpen_tallies same).bind fun _ after same => ?_
  split
  · exact .still same
  · split
    · exact moveTo_tallies _ same
    · exact (drain_tallies same).bind fun _ last same => Op.Tallies.get_bind (moveTo_tallies _ same)

private theorem relative_tallies (offset : Int64) (same : Contact.unfit state.2.contacts = unfit) :
    Op.Tallies unfit (relative offset state) := by
  refine (checkOpen_tallies same).bind fun _ after same => Op.Tallies.get_bind ?_
  dsimp only
  split
  · exact .still same
  · exact moveTo_tallies _ same

private theorem afterLast_tallies (same : Contact.unfit state.2.contacts = unfit) :
    Op.Tallies unfit (afterLast state) := by
  refine (checkOpen_tallies same).bind fun _ after same => ?_
  exact (drain_tallies same).bind fun _ last same => .still same

end ScrollableCursor

/-! ## Cursors of either mode -/

namespace Cursor

variable {σ ρ : Type} [PageSource σ ρ]

/-- Every call but `close` halts for a sum exactly if it is handed a page that does not fit. -/
theorem perform_tallies {call : CursorCall} (stays : call ≠ .close)
    (state : Cursor (PageRequest × ρ) × Watched σ) :
    Op.Tallies (Contact.unfit state.2.contacts) (perform call state) := by
  obtain ⟨cursor | cursor, watched⟩ := state
  · have performed : Op.Tallies (Contact.unfit watched.contacts) (performForward call (cursor, watched)) := by
      cases call with
      | next => exact (ForwardCursor.next_tallies rfl).map _
      | isLast => exact (ForwardCursor.isLast_tallies rfl).map _
      | close => exact absurd rfl stays
      | _ => exact .inr ⟨nofun, rfl⟩
    exact performed.beside _
  · have performed : Op.Tallies (Contact.unfit watched.contacts)
        (performScrollable call (cursor, watched)) := by
      cases call with
      | next => exact (ScrollableCursor.next_tallies rfl).map _
      | isLast => exact (ScrollableCursor.isLast_tallies rfl).map _
      | previous => exact (ScrollableCursor.relative_tallies _ rfl).map _
      | first => exact (ScrollableCursor.absolute_tallies _ rfl).map _
      | last => exact (ScrollableCursor.absolute_tallies _ rfl).map _
      | absolute row => exact (ScrollableCursor.absolute_tallies _ rfl).map _
      | relative offset => exact (ScrollableCursor.relative_tallies _ rfl).map _
      | beforeFirst => exact (ScrollableCursor.absolute_tallies _ rfl).bind fun _ _ same => .still same
      | afterLast => exact (ScrollableCursor.afterLast_tallies rfl).bind fun _ _ same => .still same
      | close => exact absurd rfl stays
    exact performed.beside _

private theorem open_overflows {first : Page} (statement : UInt64) (options : FetchOptions) (ownsStatement : Bool)
    (source : σ) (unfit : first.fits = false) :
    («open» statement first options ownsStatement source).1 = .error (.halt .additionOverflow) := by
  have beyond : ¬ first.offset.toNat + first.rows.length < UInt64.size := by
    rw [← Page.fits_iff, unfit]
    decide
  rw [«open», Supply.ofFirst, Supply.accept_of_not_fits _ _ beyond]
  rfl

omit [PageSource σ ρ] in
/-- Only pages that fit are accepted. -/
theorem fits_getLastD_accepted {first : Page} (fits : first.fits = true) (contacts : List Contact) :
    ((Contact.accepted contacts).getLastD first).fits = true := by
  rcases List.eq_nil_or_concat (Contact.accepted contacts) with none_yet | ⟨front, last, some_page⟩
  · rw [none_yet]
    exact fits
  · have member : last ∈ Contact.accepted contacts := by
      rw [some_page, List.concat_eq_append]
      exact List.mem_concat_self
    rw [some_page, List.concat_eq_append, List.getLastD_concat]
    exact (List.mem_filter.mp member).2

/-- Nothing holds the offsets of pages in range. Reading a page halts over a row number if it has more
rows than there are numbers behind its offset. A page that has no place behind it, since the sum would
wrap around to a place in front of it, is not taken in: it halts the cursor that it opens, or the call that
it is handed to; with pages that fit, no call halts so. Each request goes to the end of the page accepted
last, and hence not in front of that page. -/
theorem overflows_exactly_at_unfit (statement : UInt64) (first : Page) (options : FetchOptions)
    (ownsStatement : Bool) (source : σ) :
    (∀ (arity : Nat) (page : WirePage), Page.ofWire arity page = .error (.halt .additionOverflow) ↔
      UInt64.size < page.offset.toNat + page.rows.length ∧
        ∀ cells ∈ page.rows.take (UInt64.size - page.offset.toNat), Row.Sound arity cells) ∧
    (∀ page : Page, page.rows.length < UInt64.size → (page.next < page.offset ↔ page.fits = false)) ∧
    (∀ (page : Page) (supply : Supply ρ), (supply.take page = .error .additionOverflow ↔ page.fits = false) ∧
      ∀ rows taken, supply.take page = .ok (rows, taken) →
        taken.nextOffset.toNat = page.offset.toNat + page.rows.length) ∧
    (first.fits = false →
      («open» statement first options ownsStatement source).1 = .error (.halt .additionOverflow)) ∧
    (first.fits = true → ∃ cursor watched cursor' source',
      «open» statement first options ownsStatement (⟨source, []⟩ : Watched σ) = (.ok cursor, watched) ∧
      «open» statement first options ownsStatement source = (.ok cursor', source') ∧
      ∀ calls,
        (history calls (cursor, watched)).map Turn.sight =
          (history calls (cursor', source')).map Turn.sight ∧
        (∀ call, call ≠ .close →
          Op.Tallies (Contact.unfit (after calls (cursor, watched)).2.contacts)
            (perform call (after calls (cursor, watched)))) ∧
        ∀ before request later,
          (after calls (cursor, watched)).2.contacts = before ++ .started request :: later →
          request.offset.toNat = ((Contact.accepted before).getLastD first).offset.toNat +
            ((Contact.accepted before).getLastD first).rows.length) := by
  refine ⟨Page.ofWire_overflows_iff, fun page => Page.next_lt_offset_iff,
    fun page supply => ⟨supply.take_overflows_iff page, fun rows taken => Supply.take_nextOffset⟩,
    open_overflows statement options ownsStatement source, fun fits => ?_⟩
  obtain ⟨cursor, watched, cursor', source', opened, opened', like, keeps, -⟩ :=
    open_running options ownsStatement source (Page.fits_iff.mp fits)
  refine ⟨cursor, watched, cursor', source', opened, opened', fun calls => ⟨?_, ?_, ?_⟩⟩
  · exact history_alike Watched.unwatched_likeness calls like
  · exact fun call stays => perform_tallies stays _
  · intro before request later split
    rw [(keeps.after calls).logged.disciplined.request_eq before request later split]
    exact Page.toNat_next (fits_getLastD_accepted fits before)

/-- A page of one row at the last place there is. -/
def ultimate : Page := ⟨0xffffffffffffffff, false, Table.seriesRows 1 1⟩

/-- Three rows, of which the second is handed out as if it were at the last place. -/
def misplacing : ScriptedSource where
  total := 3
  script := [some (.ok ultimate)]

/-- The place behind such a page is 0. A cursor is not opened over it; one that was opened over another
page halts at it. -/
theorem overflows_exactly_at_unfit_ultimate :
    ultimate.rows.length < UInt64.size ∧ ultimate.fits = false ∧ ultimate.next < ultimate.offset ∧
      («open» 1 ultimate {} false misplacing).1 = .error (.halt .additionOverflow) ∧
      ScriptedSource.firstOfThree.fits = true ∧
      ∃ cursor watched,
        «open» 1 ScriptedSource.firstOfThree {} false (⟨misplacing, []⟩ : Watched ScriptedSource) =
          (.ok cursor, watched) ∧
        ∀ calls, Op.Tallies (Contact.unfit (after calls (cursor, watched)).2.contacts)
          (perform .next (after calls (cursor, watched))) := by
  have short : ultimate.rows.length < UInt64.size := by decide
  have unfit : ultimate.fits = false := by decide
  have fits : ScriptedSource.firstOfThree.fits = true := by decide
  obtain ⟨-, behind, -, refused, -⟩ := overflows_exactly_at_unfit 1 ultimate {} false misplacing
  obtain ⟨-, -, -, -, halts⟩ := overflows_exactly_at_unfit 1 ScriptedSource.firstOfThree {} false misplacing
  obtain ⟨cursor, watched, _, _, opened, -, each⟩ := halts fits
  exact ⟨short, unfit, (behind ultimate short).mpr unfit, refused unfit, fits, cursor, watched, opened,
    fun calls => (each calls).2.1 .next (by decide)⟩

/-- A page at the last place is decoded from a response and read without an error. Handed to a cursor, it
halts the call for the next row; and a page with one row more halts its reader. -/
theorem ultimate_halts :
    let wire : WirePage := ⟨ultimate.offset, ultimate.isLast, ultimate.rows.map Row.toCells⟩
    ResponseEnvelope.codec.decode (ResponseEnvelope.codec.encode ⟨1, true, .page wire⟩) =
        .ok ⟨1, true, .page wire⟩ ∧
      Page.ofWire 2 wire = .ok ultimate ∧
      (∃ cursor source,
        «open» 1 ScriptedSource.firstOfThree { fetchSize := 1 } false misplacing = (.ok cursor, source) ∧
        (history [.next, .next] (cursor, source)).map Turn.answer =
          [.ok (some true), .error (.halt .additionOverflow)]) ∧
      Page.ofWire 2 { wire with rows := (Table.seriesRows 1 2).map Row.toCells } =
        .error (.halt .additionOverflow) := by
  have small : ∀ row ∈ Table.seriesRows 1 2, row.values.length = 2 ∧
      3 * ((Codec.list Cell.codec).write row.toCells).length ≤ Bytes.capacity := by decide +kernel
  have carried : List.Forall₂ (Row.Carried 2) ((Table.seriesRows 1 2).map Row.toCells)
      (Table.seriesRows 1 2) := Row.carried_map_toCells fun row member =>
    ⟨(small row member).1, Row.storable_of_small (small row member).2⟩
  refine ⟨ResponseEnvelope.codec_roundTrips.decode_frame (by decide +kernel), ?_, ⟨_, _, rfl, rfl⟩, ?_⟩
  · exact Page.ofWire_eq_ok.mpr ⟨by decide, rfl, rfl, List.forall₂_take 1 carried⟩
  · refine (Page.ofWire_overflows_iff 2 _).mpr ⟨by decide, List.forall_mem_singleton.mpr ?_⟩
    exact Row.exists_carried.mp ⟨_, (List.forall₂_cons.mp carried).1⟩

end Cursor

end PagedResults
