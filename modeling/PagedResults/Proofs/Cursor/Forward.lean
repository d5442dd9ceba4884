import Mathlib.Algebra.Group.Nat.Defs
import PagedResults.Proofs.Cursor.Visits
import PagedResults.Proofs.ScriptedSource

/-! # Forward cursors lose, repeat and reorder nothing

The rows that a forward cursor has visited, followed by the rows it has at hand, are the shown rows of
the accepted pages. `ForwardCursor.Stands` says so and keeps the cursor at the place of a plain cursor,
whether a page comes in early, late or only after several failures.
-/

namespace PagedResults

namespace ForwardCursor

variable {σ ρ : Type} [PageSource σ ρ]

/-- A forward cursor, with the first `loaded` rows of a result accepted, at the place of a plain one. -/
structure Stands (rows : List Row) (loaded : Nat) (plain : PlainCursor)
    (state : ForwardCursor ρ × σ) : Prop where
  steady : Supply.Steady rows loaded (state.1.supply, state.2)
  rows_eq : plain.rows = state.1.supply.options.shown rows
  buffer_eq : state.1.buffer = (plain.rows.take loaded).drop state.1.consumed
  consumed_le : state.1.consumed ≤ (plain.rows.take loaded).length
  current_eq : state.1.current = plain.current
  position_eq : state.1.position = plain.index
  consumed_eq : state.1.afterLast = true → state.1.consumed = plain.rows.length

section Operations

omit [PageSource σ ρ] in
theorem onSupply_apply {α : Type} (operation : Op Error (Supply ρ × σ) α) (cursor : ForwardCursor ρ)
    (source : σ) :
    onSupply operation (cursor, source) =
      let result := operation (cursor.supply, source)
      (result.1, { cursor with supply := result.2.1 }, result.2.2) := rfl

variable {rows : List Row} {loaded loaded' : Nat} {plain : PlainCursor} {cursor : ForwardCursor ρ}
  {source : σ}

private theorem Stands.visited_le (stands : Stands rows loaded plain (cursor, source)) :
    cursor.consumed ≤ plain.rows.length :=
  stands.consumed_le.trans (List.length_take_le' _ _)

/-- Replacing the supply by one that has advanced keeps the cursor at its place. -/
theorem Stands.supplied (stands : Stands rows loaded plain (cursor, source))
    {answers : List (Outcome Error Page)} {after : Supply ρ × σ} {added : List Row}
    (advances : Supply.Advances rows loaded (cursor.supply, source) answers loaded' after)
    (handed : plain.rows.take loaded ++ added = plain.rows.take loaded') :
    Stands rows loaded' plain
      ({ cursor with supply := after.1, buffer := cursor.buffer ++ added }, after.2) where
  steady := advances.steady stands.steady
  rows_eq := by rw [stands.rows_eq]; exact congrArg (·.shown rows) advances.options_eq.symm
  buffer_eq := by
    rw [← handed, List.drop_append_of_le_length stands.consumed_le]
    exact congrArg (· ++ added) stands.buffer_eq
  consumed_le := by
    rw [← handed, List.length_append]
    exact Nat.le_add_right_of_le stands.consumed_le
  current_eq := stands.current_eq
  position_eq := stands.position_eq
  consumed_eq := stands.consumed_eq

/-- Nothing at hand and nothing more to come means that every shown row was visited. -/
theorem Stands.consumed_of_exhausted (stands : Stands rows loaded plain (cursor, source))
    (exhausted : cursor.supply.exhausted = true) (empty : cursor.buffer = []) :
    cursor.consumed = plain.rows.length := by
  have whole := (stands.steady.counts.ended exhausted).1
  rw [← stands.rows_eq] at whole
  have left := stands.buffer_eq
  rw [List.take_of_length_le whole] at left
  have visited := List.drop_eq_nil_iff.mp (left.symm.trans empty)
  have := stands.visited_le
  dsimp only at visited
  omega

private theorem refill_idle (full : cursor.buffer ≠ [] ∨ cursor.supply.exhausted = true)
    (counts : cursor.supply.Counts rows loaded) : refill (cursor, source) = (.ok (), cursor, source) := by
  have stays : ¬(cursor.buffer.isEmpty && (cursor.supply.inFlight.isSome || !cursor.supply.exhausted))
      = true := by
    rcases full with full | exhausted
    · simp [full]
    · simp [exhausted, (counts.ended exhausted).2]
  rw [refill, Op.bind_apply, Op.get_apply]
  simp only [if_neg stays]
  rfl

private theorem refill_fetch (empty : cursor.buffer = []) (more : cursor.supply.exhausted = false) :
    refill (cursor, source) =
      match Supply.fetchNow (cursor.supply, source) with
      | (.ok added, supply, source) =>
          (.ok (), { cursor with supply, buffer := cursor.buffer ++ added }, source)
      | (.error failure, supply, source) => (.error failure, { cursor with supply }, source) := by
  rw [refill, Op.bind_apply, Op.get_apply]
  simp only [empty, more, List.isEmpty_nil, Bool.not_false, Bool.or_true, Bool.and_true, if_true,
    Op.bind_apply, onSupply_apply]
  rcases Supply.fetchNow (cursor.supply, source) with ⟨outcome, supply, source⟩
  cases outcome <;> rfl

/-- Taking in the next page: nothing is at hand afterwards only if every row was visited. -/
theorem refill_cases (stands : Stands rows loaded plain (cursor, source)) :
    (∃ (pages : List Page) (after : ForwardCursor ρ × σ) (loaded' : Nat),
      refill (cursor, source) = (.ok (), after) ∧
      Stands rows loaded' plain after ∧
      Supply.Advances rows loaded (cursor.supply, source) (pages.map .ok) loaded'
        (after.1.supply, after.2) ∧
      after.1.afterLast = cursor.afterLast ∧
      (after.1.buffer = [] → after.1.consumed = plain.rows.length)) ∨
    (∃ error answers after, refill (cursor, source) = (Outcome.fail error, after) ∧
      Stands rows loaded plain after ∧
      Supply.Advances rows loaded (cursor.supply, source) answers loaded (after.1.supply, after.2) ∧
      Supply.Accounts answers (Outcome.fail error : Outcome Error Unit)) := by
  by_cases full : cursor.buffer ≠ [] ∨ cursor.supply.exhausted = true
  · refine .inl ⟨[], _, loaded, refill_idle full stands.steady.counts, stands, stands.steady.refl, rfl, ?_⟩
    intro empty
    exact stands.consumed_of_exhausted (full.resolve_left (not_not.mpr empty)) empty
  · obtain ⟨empty, more⟩ : cursor.buffer = [] ∧ cursor.supply.exhausted = false := by
      simpa [not_or] using full
    rw [refill_fetch empty more]
    rcases Supply.fetchNow_cases stands.steady more with
      ⟨added, page, after, loaded', fetched, advances, handed, last⟩ |
      ⟨error, answers, after, fetched, advances, accounts⟩
    · rw [← stands.rows_eq] at handed
      have stood := stands.supplied advances handed
      refine .inl ⟨[page], _, loaded', by rw [fetched], stood, advances, rfl, ?_⟩
      intro nothing
      exact stood.consumed_of_exhausted (last (List.append_eq_nil_iff.mp nothing).2) nothing
    · have stood := stands.supplied advances (List.append_nil _)
      rw [List.append_nil] at stood
      exact .inr ⟨error, answers, _, by rw [fetched]; rfl, stood, advances, accounts⟩

/-- What `next` does on an open cursor that has not moved off the last row. -/
theorem next_apply (source : σ) (isOpen : cursor.supply.closed = false) (inside : cursor.afterLast = false) :
    next (cursor, source) =
      let begun := if (cursor.buffer.drop cursor.supply.options.prefetchThreshold).isEmpty
        then Supply.prefetch (cursor.supply, source) else (cursor.supply, source)
      match refill ({ cursor with supply := begun.1 }, begun.2) with
      | (.ok (), after) => (.ok (advance after.1).1, (advance after.1).2, after.2)
      | (.error failure, after) => (.error failure, after) := by
  simp only [next, Op.bind_apply, onSupply_apply, Supply.checkOpen_apply isOpen, Op.get_apply, inside,
    Op.ite_apply, Op.modify_apply, Op.modifyGet_apply, Bool.false_eq_true, if_false]
  split
  · rcases refill _ with ⟨outcome, after⟩
    cases outcome <;> rfl
  · rcases refill _ with ⟨outcome, after⟩
    cases outcome <;> rfl

theorem next_afterLast (isOpen : cursor.supply.closed = false) (off : cursor.afterLast = true) :
    next (cursor, source) = (.ok false, cursor, source) := by
  simp only [next, Op.bind_apply, onSupply_apply, Supply.checkOpen_apply isOpen, Op.get_apply,
    if_pos off]
  rfl

theorem isLast_apply (source : σ) (isOpen : cursor.supply.closed = false) :
    isLast (cursor, source) =
      if cursor.current.isNone then (.ok false, cursor, source)
      else match refill (cursor, source) with
        | (.ok (), after) => (.ok after.1.buffer.isEmpty, after)
        | (.error failure, after) => (.error failure, after) := by
  simp only [isLast, Op.bind_apply, onSupply_apply, Supply.checkOpen_apply isOpen, Op.get_apply,
    Op.ite_apply]
  split
  · rfl
  · rcases refill (cursor, source) with ⟨outcome, after⟩
    cases outcome <;> rfl

omit [PageSource σ ρ] in
private theorem advance_supply (cursor : ForwardCursor ρ) : (advance cursor).2.supply = cursor.supply := by
  rw [advance]
  split <;> rfl

/-- The next row at hand is the next row of the plain cursor. -/
theorem Stands.getElem?_consumed (stands : Stands rows loaded plain (cursor, source)) {row : Row}
    {rest : List Row} (queued : cursor.buffer = row :: rest) :
    plain.rows[cursor.consumed]? = some row ∧
      rest = (plain.rows.take loaded).drop (cursor.consumed + 1) := by
  have all : (plain.rows.take loaded).drop cursor.consumed = row :: rest :=
    stands.buffer_eq.symm.trans queued
  have first : (plain.rows.take loaded)[cursor.consumed]? = some row := by
    have head := congrArg (·[0]?) all
    simpa only [List.getElem?_drop, Nat.add_zero, List.getElem?_cons_zero] using head
  constructor
  · rw [List.getElem?_take] at first
    split at first
    · exact first
    · contradiction
  · rw [← List.drop_drop, all, List.drop_one, List.tail_cons]

/-- Until it has moved off the last row, the cursor is on the row that it visited last. -/
theorem Stands.index_eq (stands : Stands rows loaded plain (cursor, source))
    (inside : cursor.afterLast = false) : plain.index = cursor.consumed - 1 := by
  rw [← stands.position_eq, position, if_neg (by simp [inside])]

theorem Stands.index_lt (stands : Stands rows loaded plain (cursor, source))
    (inside : cursor.afterLast = false) : plain.index < plain.count := by
  have visited := stands.visited_le
  rw [stands.index_eq inside, PlainCursor.count]
  omega

/-- Visiting the first of the rows at hand is the plain cursor's move to the next row. -/
theorem Stands.visit (stands : Stands rows loaded plain (cursor, source))
    (inside : cursor.afterLast = false) (dry : cursor.buffer = [] → cursor.consumed = plain.rows.length) :
    some (advance cursor).1 = plain.answer .next ∧
      Stands rows loaded (plain.move .next) ((advance cursor).2, source) := by
  have index := stands.index_eq inside
  have visited := stands.visited_le
  have moved : plain.move .next = { plain with index := cursor.consumed } := by
    apply PlainCursor.goTo_eq
    change max (-1) (min (plain.index + 1) (plain.rows.length : Int)) = _
    omega
  have answered : plain.answer .next = some (plain.move .next).onRow := rfl
  rw [answered, moved]
  cases queued : cursor.buffer with
  | nil =>
    have whole := dry queued
    rw [advance, queued]
    constructor
    · simp [PlainCursor.onRow, PlainCursor.count, whole]
    · exact { stands with
        buffer_eq := queued.symm.trans stands.buffer_eq
        current_eq := by simp [PlainCursor.current, whole]
        position_eq := rfl
        consumed_eq := fun _ => whole }
  | cons row rest =>
    obtain ⟨found, left⟩ := stands.getElem?_consumed queued
    have more : cursor.consumed < plain.rows.length := (List.getElem?_eq_some_iff.mp found).1
    rw [advance, queued]
    constructor
    · simp [PlainCursor.onRow, PlainCursor.count, more]
    · refine ⟨stands.steady, stands.rows_eq, left, ?_, ?_, ?_, ?_⟩
      · have held := congrArg List.length (stands.buffer_eq.symm.trans queued)
        simp only [List.length_drop, List.length_cons] at held
        dsimp only
        omega
      · simp [PlainCursor.current, found]
      · simp [position, inside]
      · exact fun off => by rw [inside] at off; contradiction

theorem Stands.inRange (stands : Stands rows loaded plain (cursor, source)) : plain.InRange := by
  have visited := stands.visited_le
  have here := stands.position_eq
  unfold PlainCursor.InRange PlainCursor.count
  rw [← here, position]
  split <;> dsimp only <;> omega

/-- On a row, nothing being at hand means that the row is the last one. -/
theorem Stands.buffer_isEmpty (stands : Stands rows loaded plain (cursor, source))
    (dry : cursor.buffer = [] → cursor.consumed = plain.rows.length) (there : plain.onRow = true) :
    cursor.buffer.isEmpty = (plain.index + 1 == plain.count) := by
  have inside : cursor.afterLast = false := by
    by_contra off
    have whole : cursor.consumed = plain.rows.length := stands.consumed_eq (by simpa using off)
    have here : (cursor.consumed : Int) = plain.index := by
      rw [← stands.position_eq, position, if_pos (by simpa using off)]
    simp only [PlainCursor.onRow, PlainCursor.count, ← here, Bool.and_eq_true,
      decide_eq_true_eq] at there
    omega
  have index := stands.index_eq inside
  rw [Bool.eq_iff_iff, List.isEmpty_iff, beq_iff_eq, index, PlainCursor.count]
  constructor
  · intro empty
    rw [dry empty]
    omega
  · intro last
    rw [stands.buffer_eq, List.drop_eq_nil_iff]
    refine (List.length_take_le' _ _).trans ?_
    dsimp only
    omega

/-- A call of `next` begins to fetch the next page first, if few rows are at hand. -/
theorem Stands.begin (stands : Stands rows loaded plain (cursor, source)) :
    ∃ supply next, (if (cursor.buffer.drop cursor.supply.options.prefetchThreshold).isEmpty
        then Supply.prefetch (cursor.supply, source) else (cursor.supply, source)) = (supply, next) ∧
      Stands rows loaded plain ({ cursor with supply }, next) ∧
      Supply.Advances rows loaded (cursor.supply, source) [] loaded (supply, next) := by
  split
  · have advances := Supply.prefetch_advances stands.steady
    have stood := stands.supplied advances (List.append_nil _)
    rw [List.append_nil] at stood
    exact ⟨_, _, rfl, stood, advances⟩
  · exact ⟨_, _, rfl, stands, stands.steady.refl⟩

end Operations

end ForwardCursor

namespace Cursor

variable {σ ρ : Type} [PageSource σ ρ]

/-- A forward cursor at the place of a plain one. -/
def HoldsForward (rows : List Row) (ask : UInt64 → PageRequest) (plain : PlainCursor) :
    Cursor ρ × σ → Prop
  | (.forward cursor, source) => cursor.supply.ask = ask ∧
      ∃ loaded, ForwardCursor.Stands rows loaded plain (cursor, source)
  | (.scrollable _, _) => False

section Steps

variable {rows : List Row} {loaded loaded' : Nat} {plain : PlainCursor}
  {cursor after : ForwardCursor ρ} {source source' : σ} {call : CursorCall}

/-- An operation that returned is a move. -/
theorem HoldsForward.moved {answer : Option Bool} {pages : List Page}
    (performed : performForward call (cursor, source) = (.ok answer, after, source'))
    (supported : CursorMode.supports .forward call = true)
    (answered : answer = plain.answer call)
    (advances : Supply.Advances rows loaded (cursor.supply, source) (pages.map .ok) loaded'
      (after.supply, source'))
    (stands : ForwardCursor.Stands rows loaded' (plain.move call) (after, source')) :
    ∃ next, Step cursor.supply.ask .forward call plain (.forward cursor, source)
        (perform call (.forward cursor, source)) next ∧
      HoldsForward rows cursor.supply.ask next (perform call (.forward cursor, source)).2 := by
  have result : perform call (.forward cursor, source) = (.ok answer, .forward after, source') := by
    simp only [perform, performed]
  rw [result, answered]
  exact ⟨_, .moved supported advances.run, advances.ask_eq, loaded', stands⟩

/-- An operation that answered without any request leaves the cursor where it is. -/
theorem HoldsForward.stayed {answer : Option Bool}
    (stands : ForwardCursor.Stands rows loaded plain (cursor, source))
    (performed : performForward call (cursor, source) = (.ok answer, cursor, source))
    (supported : CursorMode.supports .forward call = true)
    (answered : answer = plain.answer call) (still : plain.move call = plain) :
    ∃ next, Step cursor.supply.ask .forward call plain (.forward cursor, source)
        (perform call (.forward cursor, source)) next ∧
      HoldsForward rows cursor.supply.ask next (perform call (.forward cursor, source)).2 := by
  have went : Supply.Advances rows loaded (cursor.supply, source) (([] : List Page).map .ok) loaded
      (cursor.supply, source) := stands.steady.refl
  exact HoldsForward.moved performed supported answered went (by rw [still]; exact stands)

/-- An operation that failed reports the request that failed. -/
theorem HoldsForward.failed {error : Error} {answers : List (Outcome Error Page)}
    (performed : performForward call (cursor, source) = (Outcome.fail error, after, source'))
    (supported : CursorMode.supports .forward call = true) (inside : plain.index < plain.count)
    (advances : Supply.Advances rows loaded (cursor.supply, source) answers loaded'
      (after.supply, source'))
    (accounts : Supply.Accounts answers (Outcome.fail error : Outcome Error Unit))
    (stands : ForwardCursor.Stands rows loaded' plain (after, source')) :
    ∃ next, Step cursor.supply.ask .forward call plain (.forward cursor, source)
        (perform call (.forward cursor, source)) next ∧
      HoldsForward rows cursor.supply.ask next (perform call (.forward cursor, source)).2 := by
  have result : perform call (.forward cursor, source) =
      (Outcome.fail error, .forward after, source') := by
    simp only [perform, performed]
  obtain ⟨pages, cause, offset, rfl, passed⟩ := accounts
  rw [result]
  exact ⟨_, .failed supported inside advances.run passed, advances.ask_eq, loaded', stands⟩

/-- A call of `next` goes along with the plain cursor. -/
theorem HoldsForward.next (stands : ForwardCursor.Stands rows loaded plain (cursor, source)) :
    ∃ next, Step cursor.supply.ask .forward .next plain (.forward cursor, source)
        (perform .next (.forward cursor, source)) next ∧
      HoldsForward rows cursor.supply.ask next (perform .next (.forward cursor, source)).2 := by
  have isOpen := stands.steady.counts.is_open
  by_cases off : cursor.afterLast = true
  · have performed : performForward .next (cursor, source) = (.ok (some false), cursor, source) := by
      simp only [performForward, Op.map_apply, ForwardCursor.next_afterLast isOpen off]
      rfl
    have index : plain.index = plain.count := by
      rw [← stands.position_eq, ForwardCursor.position, if_pos off]
      exact congrArg _ (stands.consumed_eq off)
    have still : plain.move .next = plain := by
      apply PlainCursor.goTo_eq
      have nonneg : 0 ≤ plain.count := Int.natCast_nonneg _
      change max (-1) (min (plain.index + 1) plain.count) = plain.index
      omega
    refine HoldsForward.stayed stands performed rfl ?_ still
    change _ = some (plain.move .next).onRow
    rw [still]
    simp [PlainCursor.onRow, index]
  · have inside : cursor.afterLast = false := by simpa using off
    obtain ⟨supply, begun, started, stood, advances⟩ := stands.begin
    have applied := ForwardCursor.next_apply source isOpen inside
    simp only [started] at applied
    rcases ForwardCursor.refill_cases stood with
      ⟨pages, ⟨after, source'⟩, loaded', refilled, refilledStands, fetched, same, dry⟩ |
      ⟨error, answers, ⟨after, source'⟩, refilled, refilledStands, fetched, accounts⟩
    · obtain ⟨answered, visited⟩ := refilledStands.visit (same.trans inside) dry
      have went : Supply.Advances rows loaded (cursor.supply, source) (pages.map .ok) loaded'
          ((ForwardCursor.advance after).2.supply, source') := by
        rw [ForwardCursor.advance_supply]
        exact advances.trans fetched
      refine HoldsForward.moved ?_ rfl answered went visited
      simp only [performForward, Op.map_apply, applied, refilled]
      rfl
    · refine HoldsForward.failed ?_ rfl (stands.index_lt inside) (advances.trans fetched) accounts
        refilledStands
      simp only [performForward, Op.map_apply, applied, refilled]
      rfl

/-- A call of `isLast` goes along with the plain cursor. -/
theorem HoldsForward.isLast (stands : ForwardCursor.Stands rows loaded plain (cursor, source)) :
    ∃ next, Step cursor.supply.ask .forward .isLast plain (.forward cursor, source)
        (perform .isLast (.forward cursor, source)) next ∧
      HoldsForward rows cursor.supply.ask next (perform .isLast (.forward cursor, source)).2 := by
  have applied := ForwardCursor.isLast_apply source stands.steady.counts.is_open
  have still : plain.move .isLast = plain := PlainCursor.goTo_index stands.inRange
  by_cases off : cursor.current.isNone = true
  · have performed : performForward .isLast (cursor, source) = (.ok (some false), cursor, source) := by
      simp only [performForward, Op.map_apply, applied, if_pos off]
      rfl
    refine HoldsForward.stayed stands performed rfl ?_ still
    have nowhere : plain.onRow = false := by
      rw [← PlainCursor.current_isSome, ← stands.current_eq]
      simpa using off
    change _ = some (plain.onRow && plain.index + 1 == plain.count)
    rw [nowhere, Bool.false_and]
  · have there : plain.onRow = true := by
      rw [← PlainCursor.current_isSome, ← stands.current_eq]
      simpa [Option.isSome_iff_ne_none] using off
    rcases ForwardCursor.refill_cases stands with
      ⟨pages, ⟨after, source'⟩, loaded', refilled, refilledStands, fetched, same, dry⟩ |
      ⟨error, answers, ⟨after, source'⟩, refilled, refilledStands, fetched, accounts⟩
    · have performed : performForward .isLast (cursor, source) =
          (.ok (some after.buffer.isEmpty), after, source') := by
        simp only [performForward, Op.map_apply, applied, if_neg off, refilled]
        rfl
      refine HoldsForward.moved performed rfl ?_ fetched (by rw [still]; exact refilledStands)
      change _ = some (plain.onRow && plain.index + 1 == plain.count)
      rw [there, Bool.true_and, refilledStands.buffer_isEmpty dry there]
    · refine HoldsForward.failed ?_ rfl (PlainCursor.index_lt_of_onRow there) fetched accounts refilledStands
      simp only [performForward, Op.map_apply, applied, if_neg off, refilled]
      rfl

/-- Every call but closing keeps a forward cursor at the place of the plain one. -/
theorem HoldsForward.step {ask : UInt64 → PageRequest} {state : Cursor ρ × σ} (call : CursorCall)
    (stays : call ≠ .close) (holds : HoldsForward rows ask plain state) :
    ∃ next, Step ask .forward call plain state (perform call state) next ∧
      HoldsForward rows ask next (perform call state).2 := by
  match state, holds with
  | (.forward cursor, source), ⟨same, loaded, stands⟩ =>
    subst same
    have unknown (performed : performForward call (cursor, source) =
        (Outcome.fail (.unsupported call.name), cursor, source))
        (unsupported : CursorMode.supports .forward call = false) :
        ∃ next, Step cursor.supply.ask .forward call plain (.forward cursor, source)
            (perform call (.forward cursor, source)) next ∧
          HoldsForward rows cursor.supply.ask next (perform call (.forward cursor, source)).2 := by
      have result : perform call (.forward cursor, source) =
          (Outcome.fail (.unsupported call.name), .forward cursor, source) := by
        simp only [perform, performed]
      rw [result]
      exact ⟨_, .unsupported unsupported, rfl, loaded, stands⟩
    cases call with
    | next => exact HoldsForward.next stands
    | isLast => exact HoldsForward.isLast stands
    | close => exact absurd rfl stays
    | previous => exact unknown rfl rfl
    | first => exact unknown rfl rfl
    | last => exact unknown rfl rfl
    | absolute row => exact unknown rfl rfl
    | relative offset => exact unknown rfl rfl
    | beforeFirst => exact unknown rfl rfl
    | afterLast => exact unknown rfl rfl

theorem HoldsForward.agrees {ask : UInt64 → PageRequest} {state : Cursor ρ × σ}
    (holds : HoldsForward rows ask plain state) : plain.Agrees state.1 := by
  match state, holds with
  | (.forward _, _), ⟨_, _, stands⟩ => exact ⟨stands.current_eq, stands.position_eq⟩

end Steps

/-- A forward cursor over the first page of a result stands before the first shown row. -/
theorem HoldsForward.of_open {rows : List Row} {first : Page} {source : σ} (statement : UInt64)
    (options : FetchOptions) (ownsStatement : Bool) (addressable : rows.length < UInt64.size)
    (mode : options.mode = .forward) (shows : first.Shows rows 0)
    (honest : Paging.Honest rows (options.ask statement)
      ⟨UInt64.ofNat first.rows.length, none, source⟩) :
    ∃ cursor opened, «open» statement first options ownsStatement source = (.ok cursor, opened) ∧
      HoldsForward rows (options.ask statement) ⟨options.shown rows, -1⟩ (cursor, opened) ∧
      Paging.Run (options.ask statement) ⟨UInt64.ofNat first.rows.length, none, source⟩ []
        (paging (cursor, opened)) := by
  obtain ⟨supply, opened, begun, steady, same, asks, run⟩ :=
    Supply.ofFirst_eq statement options ownsStatement addressable shows honest
  refine ⟨.forward { supply, buffer := (options.shown rows).take first.rows.length }, opened, ?_,
    ⟨asks, first.rows.length, ?_⟩, run⟩
  · simp only [«open», begun, Except.map, mode]
  · exact { steady, rows_eq := by rw [same], buffer_eq := rfl, consumed_le := Nat.zero_le _,
            current_eq := rfl, position_eq := rfl, consumed_eq := fun off => nomatch off }

/-- Over an honest source with no more rows than indices, a forward cursor does call after call what a plain
cursor over the shown rows does, or reports the request that failed and stays where it is; so it delivers
every shown row once and in order, and then the end. -/
theorem forward_follows_and_delivers {rows : List Row} {first : Page} {source : σ}
    (statement : UInt64) (options : FetchOptions) (ownsStatement : Bool)
    (bounded : rows.length < 2 ^ 63) (mode : options.mode = .forward) (shows : first.Shows rows 0)
    (honest : Paging.Honest rows (options.ask statement)
      ⟨UInt64.ofNat first.rows.length, none, source⟩) :
    ∃ cursor opened, «open» statement first options ownsStatement source = (.ok cursor, opened) ∧
      ∀ calls : List CursorCall, (∀ call ∈ calls, call ≠ .close) →
        Follows (options.ask statement) .forward calls ⟨options.shown rows, -1⟩ (cursor, opened) ∧
        Delivers ⟨options.shown rows, -1⟩ (history calls (cursor, opened)) := by
  have addressable : rows.length < UInt64.size := Nat.lt_trans bounded (by decide)
  obtain ⟨cursor, opened, begun, holds, -⟩ :=
    HoldsForward.of_open statement options ownsStatement addressable mode shows honest
  refine ⟨cursor, opened, begun, ?_⟩
  intro calls stays
  have follows := Follows.of_invariant HoldsForward.agrees HoldsForward.step calls stays holds
  have nonneg : (0 : Int) ≤ (options.shown rows).length := Int.natCast_nonneg _
  exact ⟨follows, follows.delivers ⟨Int.le_refl _, by change (-1 : Int) ≤ (options.shown rows).length; omega⟩⟩

theorem forward_over_interrupted :
    ∃ cursor opened,
      «open» 1 ScriptedSource.firstOfThree { fetchSize := 1, maxRows := 2 } true ScriptedSource.interrupted =
        (.ok cursor, opened) ∧
      ∀ calls : List CursorCall, (∀ call ∈ calls, call ≠ .close) →
        Follows (FetchOptions.ask { fetchSize := 1, maxRows := 2 } 1) .forward calls
          ⟨Table.seriesRows 0 2, -1⟩ (cursor, opened) ∧
        Delivers ⟨Table.seriesRows 0 2, -1⟩ (history calls (cursor, opened)) :=
  forward_follows_and_delivers 1 { fetchSize := 1, maxRows := 2 } true
    (by rw [Table.length_seriesRows]; decide) rfl ScriptedSource.firstOfThree_shows
    ScriptedSource.interrupted_honest

end Cursor

end PagedResults
