import PagedResults.Proofs.Cursor.Limit
import PagedResults.Proofs.Cursor.Release

/-! # The position of a cursor

A cursor says in two ways where it is: by the row under it and by its position. A forward cursor counts the
rows that it has visited and keeps the current one aside; a scrollable one has an index into the rows that
it keeps. Every call but `close` keeps the two together, failing ones included. Closing a scrollable cursor
puts it back in front of the first row. Closing a forward cursor drops the row and leaves the position.
-/

namespace PagedResults

namespace Op

/-- An operation leaves a state with `P` where it fails, and a value and a state with `Q` where it returns. -/
def Ensures {ε α σ : Type} (P : σ → Prop) (Q : α → σ → Prop) : Outcome ε α × σ → Prop
  | (.ok value, after) => Q value after
  | (.error _, after) => P after

namespace Ensures

variable {ε α β σ : Type} {P : σ → Prop} {Q : α → σ → Prop} {R : β → σ → Prop} {state : σ}

theorem bind {op : Op ε σ α} {next : α → Op ε σ β} (first : Ensures P Q (op state))
    (rest : ∀ value after, Q value after → Ensures P R (next value after)) :
    Ensures P R ((op >>= next) state) := by
  rw [Op.bind_apply]
  rcases came : op state with ⟨failure | value, after⟩ <;> rw [came] at first
  · exact first
  · exact rest value after first

theorem get_bind {next : σ → Op ε σ β} (rest : Ensures P R (next state state)) :
    Ensures P R ((get >>= next) state) := by
  rw [Op.bind_apply]
  exact rest

/-- What is left behind if the first operation fails, or else the rest does. -/
theorem bind_leaves {op : Op ε σ α} {next : α → Op ε σ β} (first : Ensures P Q (op state))
    (rest : ∀ value after, Q value after → Leaves P (next value after)) :
    Leaves P ((op >>= next) state) := by
  rw [Leaves, Op.bind_apply]
  rcases came : op state with ⟨failure | value, after⟩ <;> rw [came] at first
  · exact first
  · exact rest value after first

end Ensures

end Op

/-! ## The supply behind the last row -/

namespace Supply

variable {σ ρ : Type}

/-- No page follows and none is under way. -/
def Dry (supply : Supply ρ) : Prop := supply.exhausted = true ∧ supply.inFlight = none

variable [PageSource σ ρ]

/-- No request is under way after waiting for it. -/
theorem join_inFlight (state : Supply ρ × σ) : (join state).2.1.inFlight = none := by
  rcases join_settles state with ⟨idle, same⟩ | ⟨_, _, -, taken | refused⟩
  · rw [same]
    exact idle
  · obtain ⟨page, added, -, -, -, took⟩ := taken
    exact (take_keeps took).2.2.2.2
  · rw [refused.2.2]

private theorem fetchNow_inFlight (state : Supply ρ × σ) : (fetchNow state).2.1.inFlight = none := by
  rw [fetchNow_apply]
  exact join_inFlight (prefetch state)

/-- Fetching on hands no rows on only if no page follows. -/
theorem fetchNow_dry {state after : Supply ρ × σ} (fetched : fetchNow state = (.ok [], after)) :
    Dry after.1 :=
  (fetchNow_settles fetched).2.1 rfl

/-- No request is begun once no page follows. -/
theorem prefetch_dry (state : Supply ρ × σ) (settled : state.1.exhausted = true → state.1.inFlight = none)
    (ended : (prefetch state).1.exhausted = true) : (prefetch state).1.inFlight = none := by
  have before : state.1.exhausted = true := (prefetch_exhausted state.1 state.2).symm.trans ended
  rw [prefetch_busy state.1 state.2 (.inl before)]
  exact settled before

/-- Closing fetches nothing on. -/
theorem close_dry {state : Supply ρ × σ} (dry : Dry state.1) : Dry (close state).2.1 := by
  have lasts : Lasts fun now : Supply ρ × σ => Dry now.1 :=
    { shut := fun dry _ => dry
      wait := fun dry _ => by
        rw [wait, dry.2]
        exact dry
      closeResult := fun _ dry _ _ => dry
      closeStatement := fun _ dry _ _ => dry
      note := fun _ dry => dry }
  exact (lasts.closing.close ⟨rfl, dry⟩).2.1.2

end Supply

/-! ## Forward cursors -/

namespace ForwardCursor

variable {σ ρ : Type}

/-- The cursor is on the row that it visited last, or behind it when no row is left. -/
structure Placed (visited : List Row) (cursor : ForwardCursor ρ) : Prop where
  consumed_eq : cursor.consumed = visited.length
  current_eq : cursor.current = if cursor.afterLast then none else visited.getLast?
  ended : cursor.afterLast = true → cursor.buffer = [] ∧ cursor.supply.Dry

/-- Two cursors that differ in the rows to come only. -/
structure SamePlace (cursor after : ForwardCursor ρ) : Prop where
  consumed_eq : after.consumed = cursor.consumed
  current_eq : after.current = cursor.current
  afterLast_eq : after.afterLast = cursor.afterLast

variable {visited : List Row} {cursor after : ForwardCursor ρ}

private theorem Placed.of_samePlace (placed : Placed visited cursor) (inside : cursor.afterLast = false)
    (same : SamePlace cursor after) : Placed visited after where
  consumed_eq := same.consumed_eq.trans placed.consumed_eq
  current_eq := by rw [same.current_eq, same.afterLast_eq, placed.current_eq]
  ended off := by
    rw [same.afterLast_eq, inside] at off
    cases off

/-- Visiting the first of the rows at hand; behind the last row there is none. -/
theorem Placed.advance (placed : Placed visited cursor) (inside : cursor.afterLast = false)
    (last : cursor.buffer = [] → cursor.supply.Dry) :
    Placed (visited ++ if (advance cursor).1 then (advance cursor).2.current.toList else [])
      (advance cursor).2 := by
  rw [ForwardCursor.advance]
  cases queued : cursor.buffer with
  | nil =>
    rw [if_neg Bool.false_ne_true, List.append_nil]
    exact ⟨placed.consumed_eq, rfl, fun _ => ⟨rfl, last queued⟩⟩
  | cons row rest =>
    rw [if_pos rfl, Option.toList_some]
    refine ⟨?_, ?_, ?_⟩
    · rw [List.length_append, ← placed.consumed_eq]
      rfl
    · rw [inside, List.getLast?_concat]
      rfl
    · intro off
      rw [inside] at off
      cases off

variable [PageSource σ ρ]

/-- Taking in the next page moves nowhere. No row is at hand afterwards only if none is left. -/
theorem refill_samePlace (state : ForwardCursor ρ × σ) :
    Op.Ensures (fun after => SamePlace state.1 after.1)
      (fun _ after => SamePlace state.1 after.1 ∧ (after.1.buffer = [] → after.1.supply.Dry))
      (refill state) := by
  obtain ⟨cursor, source⟩ := state
  apply Op.Ensures.get_bind
  dsimp only
  split
  · rw [Op.bind_apply, onSupply_apply]
    rcases came : Supply.fetchNow (cursor.supply, source) with ⟨failure | added, supply, after⟩
    · exact ⟨rfl, rfl, rfl⟩
    · refine ⟨⟨rfl, rfl, rfl⟩, fun empty => ?_⟩
      obtain ⟨-, rfl⟩ := List.append_eq_nil_iff.mp empty
      exact Supply.fetchNow_dry came
  · next enough =>
    refine ⟨⟨rfl, rfl, rfl⟩, fun empty => ?_⟩
    simpa [Supply.Dry, show cursor.buffer = [] from empty, and_comm] using enough

/-- The row visited, if any, is the current one. -/
theorem next_placed (source : σ) (placed : Placed visited cursor) :
    match next (cursor, source) with
    | (.ok true, after) => Placed (visited ++ after.1.current.toList) after.1
    | (_, after) => Placed visited after.1 := by
  cases shut : cursor.supply.closed with
  | true =>
    rw [next, Cursor.forward_checked shut]
    exact placed
  | false =>
    cases off : cursor.afterLast with
    | true =>
      rw [next_afterLast shut off]
      exact placed
    | false =>
      rw [next_apply source shut off]
      dsimp only
      -- the request that may have been begun belongs to the supply alone
      generalize (if (cursor.buffer.drop cursor.supply.options.prefetchThreshold).isEmpty
        then Supply.prefetch (cursor.supply, source) else (cursor.supply, source)) = begun
      have refilled := refill_samePlace ({ cursor with supply := begun.1 }, begun.2)
      generalize refill (_ : ForwardCursor ρ × σ) = result at refilled ⊢
      obtain ⟨failure | ⟨⟩, after, source⟩ := result
      · exact placed.of_samePlace off ⟨refilled.1, refilled.2, refilled.3⟩
      · obtain ⟨⟨consumed, current, afterLast⟩, last⟩ := refilled
        have there : Placed visited after := placed.of_samePlace off ⟨consumed, current, afterLast⟩
        have moved := there.advance (afterLast.trans off) last
        dsimp only
        generalize ForwardCursor.advance after = moving at moved ⊢
        obtain ⟨_ | _, next⟩ := moving
        · rw [if_neg Bool.false_ne_true, List.append_nil] at moved
          exact moved
        · rw [if_pos rfl] at moved
          exact moved

private theorem isLast_placed (source : σ) (placed : Placed visited cursor) :
    Op.Leaves (fun after => Placed visited after.1) (isLast (cursor, source)) := by
  cases shut : cursor.supply.closed with
  | true =>
    rw [isLast, Cursor.forward_checked shut]
    exact placed
  | false =>
    rw [isLast_apply source shut]
    split
    · exact placed
    · next onRow =>
      have inside : cursor.afterLast = false := by
        by_contra off
        rw [placed.current_eq, if_pos (by simpa using off)] at onRow
        exact onRow rfl
      have refilled := refill_samePlace (cursor, source)
      generalize refill (cursor, source) = result at refilled ⊢
      obtain ⟨failure | ⟨⟩, after⟩ := result
      · exact placed.of_samePlace inside refilled
      · exact placed.of_samePlace inside refilled.1

end ForwardCursor

/-! ## Scrollable cursors -/

namespace ScrollableCursor

variable {σ ρ : Type}

/-- The cursor is in front of the first row, on a row, or behind the last one when no row is left; and there
are no more rows than indices. -/
structure Placed (state : ScrollableCursor ρ × σ) : Prop where
  settled : state.1.supply.exhausted = true → state.1.supply.inFlight = none
  few : state.1.rows.size ≤ mostRows
  start_le : -1 ≤ state.1.index.toInt
  le_end : state.1.index.toInt ≤ state.1.rows.size
  ended : state.1.index.toInt = state.1.rows.size → state.1.supply.exhausted = true

/-- No request is under way, and the cursor keeps its place. -/
def Idle (state : ScrollableCursor ρ × σ) : Prop := Placed state ∧ state.1.supply.inFlight = none

variable {state : ScrollableCursor ρ × σ}

private theorem Placed.past_iff (placed : Placed state) :
    state.1.length ≤ state.1.index ↔ state.1.rows.size ≤ state.1.index.toInt := by
  rw [Int64.le_iff_toInt_le, toInt_length placed.few]

private theorem Placed.reached_iff (placed : Placed state) (target : Int64) :
    target < state.1.length ↔ target.toInt < state.1.rows.size := by
  rw [Int64.lt_iff_toInt_lt, toInt_length placed.few]

theorem Placed.dry (placed : Placed state) (off : state.1.length ≤ state.1.index) : state.1.supply.Dry :=
  have exhausted := placed.ended (Int.le_antisymm placed.le_end (placed.past_iff.mp off))
  ⟨exhausted, placed.settled exhausted⟩

/-- Until no page follows the cursor is not behind the last row. -/
theorem Placed.index_lt (placed : Placed state) (more : state.1.supply.exhausted = false) :
    state.1.index.toInt < state.1.rows.size := by
  refine Int.lt_iff_le_and_ne.mpr ⟨placed.le_end, fun same => ?_⟩
  rw [placed.ended same] at more
  cases more

/-- A cursor that goes somewhere else stays placed. -/
theorem Placed.goTo (placed : Placed state) (index : ScrollableCursor ρ → Int64)
    (start_le : -1 ≤ (index state.1).toInt) (le_end : (index state.1).toInt ≤ state.1.rows.size)
    (ended : (index state.1).toInt = state.1.rows.size → state.1.supply.exhausted = true) :
    Op.Leaves Placed (update (fun cursor => { cursor with index := index cursor }) state) :=
  ⟨placed.settled, placed.few, start_le, le_end, ended⟩

/-- In front of the first row a cursor is placed. -/
theorem Placed.goToStart (placed : Placed state) :
    Op.Leaves Placed (update (fun cursor => { cursor with index := -1 }) state) := by
  apply placed.goTo (fun _ => -1) <;> rw [Index.toInt_neg_one] <;> omega

/-- Behind the last row a cursor is placed if no page follows. -/
theorem Placed.goToEnd (placed : Placed state) (exhausted : state.1.supply.exhausted = true) :
    Op.Leaves Placed (update (fun cursor => { cursor with index := cursor.length }) state) := by
  have counted := toInt_length placed.few
  exact placed.goTo length (by omega) (by omega) fun _ => exhausted

/-- A cursor that is not behind the last row stays placed with more rows and another supply. -/
theorem Placed.resupplied {cursor : ScrollableCursor ρ} {source : σ} (placed : Placed (cursor, source))
    (more : cursor.supply.exhausted = false) {supply : Supply ρ} (idle : supply.inFlight = none)
    (rows : List Row) (fits : ¬ mostRows < cursor.rows.size + rows.length) (after : σ) :
    Placed (keep rows { cursor with supply }, after) := by
  have size : (keep rows { cursor with supply }).rows.size = cursor.rows.size + rows.length := by
    simp only [keep, Array.size_append, List.size_toArray]
  have inside : cursor.index.toInt < (keep rows { cursor with supply }).rows.size := by
    have before : cursor.index.toInt < cursor.rows.size := placed.index_lt more
    omega
  refine ⟨fun _ => idle, ?_, placed.start_le, Int.le_of_lt inside, fun same => absurd same (Int.ne_of_lt inside)⟩
  exact size ▸ Nat.not_lt.mp fits

/-- A cursor that gets another supply and no rows stays placed. -/
theorem Placed.unfed {cursor : ScrollableCursor ρ} {source : σ} (placed : Placed (cursor, source))
    (more : cursor.supply.exhausted = false) {supply : Supply ρ} (idle : supply.inFlight = none) (after : σ) :
    Placed ({ cursor with supply }, after) := by
  have few : cursor.rows.size ≤ mostRows := placed.few
  have there := placed.resupplied more idle [] (Nat.not_lt.mpr few) after
  rw [keep_nil] at there
  exact there

variable [PageSource σ ρ]

private theorem prefetch_placed (placed : Placed state) :
    Op.Leaves Placed (onSupply (modify Supply.prefetch) state) where
  settled := Supply.prefetch_dry (state.1.supply, state.2) placed.settled
  few := placed.few
  start_le := placed.start_le
  le_end := placed.le_end
  ended same := (Supply.prefetch_exhausted state.1.supply state.2).trans (placed.ended same)

omit [PageSource σ ρ] in
/-- A check in front of an operation either refuses it or lets it run. -/
theorem checked_placed {α : Type} (placed : Placed state) {next : Op Error (ScrollableCursor ρ × σ) α}
    (rest : Op.Leaves Placed (next state)) :
    Op.Leaves Placed ((do onSupply Supply.checkOpen; next) state) := by
  obtain ⟨cursor, source⟩ := state
  cases shut : cursor.supply.closed with
  | true =>
    rw [Cursor.scrollable_checked shut]
    exact placed
  | false =>
    rw [checkOpen_bind shut]
    exact rest

private theorem mergeInFlight_placed (placed : Placed state) :
    Op.Ensures Placed (fun _ => Idle) (mergeInFlight state) := by
  obtain ⟨cursor, source⟩ := state
  rw [mergeInFlight, Op.bind_apply, onSupply_apply]
  cases busy : cursor.supply.inFlight with
  | none =>
    rw [Supply.join_idle busy]
    exact ⟨placed, busy⟩
  | some flight =>
    have more : cursor.supply.exhausted = false := by
      by_contra ended
      have idle := placed.settled (by simpa using ended)
      rw [show cursor.supply.inFlight = none from idle] at busy
      cases busy
    have idle := Supply.join_inFlight (cursor.supply, source)
    generalize Supply.join (cursor.supply, source) = result at idle ⊢
    obtain ⟨failure | _ | added, supply, after⟩ := result
    · exact placed.unfed more idle after
    · exact ⟨placed.unfed more idle after, idle⟩
    · dsimp only
      rw [extend]
      split
      · exact placed.unfed more idle after
      · next fits => exact ⟨placed.resupplied more idle added fits after, idle⟩

/-- Reading on moves nowhere, and ends with enough rows or at the end of the result. -/
theorem readUntil_placed (enough : Nat → Bool) {cursor : ScrollableCursor ρ} {source : σ}
    (idle : Idle (cursor, source)) :
    Op.Ensures Placed (fun _ after => Placed after ∧
      (enough after.1.rows.size = true ∨ after.1.supply.exhausted = true))
      (readUntil enough cursor source) := by
  have waited {cursor : ScrollableCursor ρ} {source : σ}
      {outcome : Outcome Error (List Row)} {supply : Supply ρ} {after : σ}
      (fetched : Supply.fetchNow (cursor.supply, source) = (outcome, supply, after)) :
      supply.inFlight = none := by
    have waited := Supply.fetchNow_inFlight (cursor.supply, source)
    rw [fetched] at waited
    exact waited
  have unended {cursor : ScrollableCursor ρ}
      (more : ¬(enough cursor.rows.size || cursor.supply.exhausted) = true) :
      cursor.supply.exhausted = false := by
    simpa using (not_or.mp (mt Bool.or_eq_true_iff.mpr more)).2
  fun_induction readUntil enough cursor source with
  | case1 cursor source done => exact ⟨idle.1, Bool.or_eq_true_iff.mp done⟩
  | case2 cursor source more failure supply next refused =>
    exact idle.1.unfed (unended more) (waited refused) next
  | case3 cursor source more supply next fetched =>
    exact ⟨idle.1.unfed (unended more) (waited fetched) next, .inr (Supply.fetchNow_dry fetched).1⟩
  | case4 cursor source more added supply next fetched someRow full =>
    exact idle.1.unfed (unended more) (waited fetched) next
  | case5 cursor source more added supply next fetched someRow fits ih =>
    exact ih ⟨idle.1.resupplied (unended more) (waited fetched) added fits next, waited fetched⟩

/-- Reading up to a row moves nowhere. The row is missing only if the result ends in front of it. -/
theorem materializeTo_placed (target : Int64) (placed : Placed state) :
    Op.Ensures Placed (fun found after => Placed after ∧
      if found then target.toInt < after.1.rows.size
      else after.1.rows.size ≤ target.toInt ∧ after.1.supply.exhausted = true)
      (materializeTo target state) := by
  apply Op.Ensures.get_bind
  dsimp only
  split
  · next there => exact ⟨placed, (placed.reached_iff target).mp there⟩
  · refine (mergeInFlight_placed placed).bind fun _ middle idle => ?_
    refine Op.Ensures.bind (readUntil_placed _ idle) fun _ after ⟨placed, read⟩ => ?_
    apply Op.Ensures.get_bind
    refine ⟨placed, ?_⟩
    by_cases reached : target < after.1.length
    · rw [if_pos (decide_eq_true reached)]
      exact (placed.reached_iff target).mp reached
    · rw [if_neg (by simpa using reached)]
      refine ⟨Int.not_lt.mp (mt (placed.reached_iff target).mpr reached), ?_⟩
      exact read.resolve_left (by simpa [length] using reached)

/-- Reading the whole result moves nowhere. -/
theorem drain_placed (placed : Placed state) :
    Op.Ensures Placed (fun _ after => Placed after ∧ after.1.supply.exhausted = true) (drain state) := by
  refine (mergeInFlight_placed placed).bind fun _ middle idle => ?_
  refine Op.Ensures.bind (readUntil_placed _ idle) fun _ after ⟨placed, read⟩ => ?_
  have exhausted := read.resolve_left Bool.false_ne_true
  exact ⟨⟨placed.settled, placed.few, placed.start_le, placed.le_end, placed.ended⟩, exhausted⟩

private theorem moveTo_placed (target : Int64) (placed : Placed state) : Op.Leaves Placed (moveTo target state) := by
  have start : target < 0 ↔ target.toInt < 0 := Int64.lt_iff_toInt_lt
  rw [moveTo]
  split
  · exact placed.goToStart
  · next inside =>
    have nonneg := mt start.mpr inside
    refine (materializeTo_placed target placed).bind_leaves fun found after there => ?_
    obtain ⟨placed, read⟩ := there
    cases found with
    | true =>
      have reached : target.toInt < after.1.rows.size := read
      exact placed.goTo (fun _ => target) (by omega) (by omega) (by omega)
    | false => exact placed.goToEnd read.2

private theorem stepTo_placed (target : Int64) (start_le : -1 ≤ target.toInt) (placed : Placed state) :
    Op.Leaves Placed (stepTo target state) := by
  refine (materializeTo_placed target placed).bind_leaves fun found after there => ?_
  obtain ⟨placed, read⟩ := there
  have least := Index.toInt_min target after.1.length
  rw [toInt_length placed.few] at least
  refine placed.goTo (fun cursor => min target cursor.length) (by omega) (by omega) fun same => ?_
  cases found with
  | true =>
    have reached : target.toInt < after.1.rows.size := read
    omega
  | false => exact read.2

private theorem next_placed (placed : Placed state) : Op.Leaves Placed (next state) := by
  refine checked_placed placed (Op.Leaves.get_bind ?_)
  dsimp only
  split
  · exact placed
  · next on =>
    have start_le : -1 ≤ (state.1.index + 1).toInt := by
      have inside := mt placed.past_iff.mpr on
      have few := placed.few
      have start := placed.start_le
      have most : mostRows = 2 ^ 63 - 1 := rfl
      rw [Index.toInt_add] <;> rw [Index.toInt_one] <;> omega
    split
    · exact (prefetch_placed placed).bind fun _ after placed => stepTo_placed _ start_le placed
    · exact stepTo_placed _ start_le placed

private theorem isLast_placed (placed : Placed state) : Op.Leaves Placed (isLast state) := by
  refine checked_placed placed (Op.Leaves.get_bind ?_)
  dsimp only
  split
  · exact placed
  · exact (materializeTo_placed _ placed).bind_leaves fun _ _ read => read.1

private theorem absolute_placed (row : Int64) (placed : Placed state) : Op.Leaves Placed (absolute row state) := by
  refine checked_placed placed ?_
  split
  · exact placed.goToStart
  · split
    · exact moveTo_placed _ placed
    · refine (drain_placed placed).bind_leaves fun _ after read => ?_
      exact Op.Leaves.get_bind (moveTo_placed _ read.1)

private theorem relative_placed (offset : Int64) (placed : Placed state) :
    Op.Leaves Placed (relative offset state) := by
  refine checked_placed placed (Op.Leaves.get_bind ?_)
  dsimp only
  split
  · exact placed
  · exact moveTo_placed _ placed

private theorem afterLast_placed (placed : Placed state) : Op.Leaves Placed (afterLast state) := by
  refine checked_placed placed ?_
  refine (drain_placed placed).bind_leaves fun _ after ⟨placed, exhausted⟩ => ?_
  exact placed.goToEnd exhausted

end ScrollableCursor

/-! ## Cursors of either mode -/

namespace Cursor

variable {σ ρ : Type}

/-- The cursor has moved past the last row. -/
def ranOff : Cursor ρ → Bool
  | .forward cursor => cursor.afterLast
  | .scrollable cursor => decide (cursor.length ≤ cursor.index)

/-- The position of a cursor and the row under it agree. -/
structure Consistent (visited : List Row) (cursor : Cursor ρ) : Prop where
  /-- There is a current row if the position is the index of a row, -/
  current_iff : cursor.current.isSome = true ↔ 0 ≤ cursor.position ∧ cursor.ranOff = false
  /-- which then is the row at this index among all rows that the cursor has merged. -/
  row_eq : ∀ row, cursor.current = some row →
    (cursor.merged visited)[cursor.position.toNat]? = some row ∧ cursor.rowNumber = cursor.position + 1
  /-- Without a current row the cursor is in front of the first row or past the last one. -/
  off_row : cursor.current = none → cursor.position = -1 ∨ cursor.ranOff = true
  /-- Past the last row the position is the number of all rows, and no row follows. -/
  past_end : cursor.ranOff = true →
    cursor.position = (cursor.merged visited).length ∧ cursor.supply.Dry

/-- A cursor of either mode is placed; the visited rows are those of a forward one. -/
def Placed (visited : List Row) : Cursor ρ × σ → Prop
  | (.forward cursor, _) => cursor.Placed visited
  | (.scrollable cursor, source) => ScrollableCursor.Placed (cursor, source)

variable {visited : List Row}

private theorem consistent_forward {cursor : ForwardCursor ρ} (placed : cursor.Placed visited) :
    Consistent visited (.forward cursor) := by
  obtain ⟨consumed_eq, current_eq, ended⟩ := placed
  cases off : cursor.afterLast with
  | true =>
    obtain ⟨empty, dry⟩ := ended off
    rw [off, if_pos rfl] at current_eq
    have position_eq : position (.forward cursor) = visited.length := by
      rw [position, ForwardCursor.position, off, if_pos rfl, consumed_eq]
    refine ⟨?_, ?_, fun _ => .inr off, fun _ => ⟨?_, dry⟩⟩
    · simp [current, current_eq, ranOff, off]
    · intro row there
      cases current_eq.symm.trans there
    · rw [position_eq, merged, empty, List.append_nil]
  | false =>
    rw [off, if_neg Bool.false_ne_true] at current_eq
    have position_eq : position (.forward cursor) = visited.length - 1 := by
      rw [position, ForwardCursor.position, off, if_neg Bool.false_ne_true, consumed_eq]
    rcases List.eq_nil_or_concat visited with rfl | ⟨before, last, rfl⟩
    · refine ⟨?_, ?_, fun _ => .inl position_eq, ?_⟩
      · simp [current, current_eq, position_eq]
      · intro row there
        cases current_eq.symm.trans there
      · intro past
        cases off.symm.trans past
    · rw [List.concat_eq_append] at current_eq position_eq ⊢
      rw [List.getLast?_concat] at current_eq
      rw [List.length_append, List.length_singleton] at position_eq
      have index_eq : position (.forward cursor) = before.length := by omega
      refine ⟨?_, ?_, ?_, ?_⟩
      · simp [current, current_eq, index_eq, ranOff, off]
      · intro row there
        obtain rfl := Option.some.inj (current_eq.symm.trans there)
        refine ⟨?_, ?_⟩
        · rw [index_eq, merged, List.append_assoc, Int.toNat_natCast,
            List.getElem?_append_right (Nat.le_refl _), Nat.sub_self]
          rfl
        · rw [rowNumber, there]
          rfl
      · intro nothing
        cases current_eq.symm.trans nothing
      · intro past
        cases off.symm.trans past

private theorem consistent_scrollable {cursor : ScrollableCursor ρ} {source : σ}
    (placed : ScrollableCursor.Placed (cursor, source)) : Consistent visited (.scrollable cursor) := by
  have start_le : -1 ≤ cursor.index.toInt := placed.start_le
  have le_end : cursor.index.toInt ≤ cursor.rows.size := placed.le_end
  have past_iff : cursor.length ≤ cursor.index ↔ cursor.rows.size ≤ cursor.index.toInt := placed.past_iff
  have onto_iff : 0 ≤ cursor.index ↔ 0 ≤ cursor.index.toInt := Int64.le_iff_toInt_le
  have current_eq : current (.scrollable cursor) =
      if 0 ≤ cursor.index.toInt then cursor.rows[cursor.index.toInt.toNat]? else none := by
    simp only [current, ScrollableCursor.current, onto_iff, Int64.toNatClampNeg]
  refine ⟨?_, ?_, ?_, ?_⟩
  · rw [current_eq, position, ranOff, decide_eq_false_iff_not, past_iff]
    by_cases onto : 0 ≤ cursor.index.toInt
    · rw [if_pos onto, Option.isSome_iff_ne_none, Ne, Array.getElem?_eq_none_iff]
      omega
    · simp [onto]
  · intro row there
    have onto : 0 ≤ cursor.index.toInt := by
      by_contra before
      simp [current_eq, before] at there
    refine ⟨?_, ?_⟩
    · rw [current_eq, if_pos onto] at there
      rw [merged, position, Array.getElem?_toList]
      exact there
    · rw [rowNumber, there]
      rfl
  · intro nothing
    by_cases onto : 0 ≤ cursor.index.toInt
    · rw [current_eq, if_pos onto, Array.getElem?_eq_none_iff] at nothing
      refine .inr (decide_eq_true (past_iff.mpr ?_))
      omega
    · refine .inl ?_
      rw [position]
      omega
  · intro past
    have off : cursor.length ≤ cursor.index := of_decide_eq_true past
    refine ⟨?_, placed.dry off⟩
    rw [merged, position, Array.length_toList]
    exact Int.le_antisymm placed.le_end (past_iff.mp off)

/-- A cursor that is placed says the same in both ways. -/
theorem Placed.consistent {state : Cursor ρ × σ} (placed : Placed visited state) :
    Consistent visited state.1 := by
  obtain ⟨cursor | cursor, source⟩ := state
  · exact consistent_forward placed
  · exact consistent_scrollable placed

variable [PageSource σ ρ]

private theorem performScrollable_placed {call : CursorCall} (stays : call ≠ .close)
    {state : ScrollableCursor ρ × σ} (placed : ScrollableCursor.Placed state) :
    Op.Leaves ScrollableCursor.Placed (performScrollable call state) := by
  cases call with
  | next => exact (ScrollableCursor.next_placed placed).map some
  | isLast => exact (ScrollableCursor.isLast_placed placed).map some
  | previous => exact (ScrollableCursor.relative_placed _ placed).map some
  | first => exact (ScrollableCursor.absolute_placed _ placed).map some
  | last => exact (ScrollableCursor.absolute_placed _ placed).map some
  | absolute row => exact (ScrollableCursor.absolute_placed row placed).map some
  | relative offset => exact (ScrollableCursor.relative_placed offset placed).map some
  | beforeFirst => exact (ScrollableCursor.absolute_placed 0 placed).bind fun _ _ placed => placed
  | afterLast => exact (ScrollableCursor.afterLast_placed placed).bind fun _ _ placed => placed
  | close => exact absurd rfl stays

/-- Every call but `close` leaves the cursor placed, whatever comes of it. -/
theorem perform_placed {call : CursorCall} (stays : call ≠ .close) {state : Cursor ρ × σ}
    (placed : Placed visited state) :
    Placed (visited ++ (Turn.row ⟨call, (perform call state).1, (perform call state).2.1⟩).toList)
      (perform call state).2 := by
  obtain ⟨cursor | cursor, source⟩ := state
  · cases call with
    | next =>
      have moved := ForwardCursor.next_placed source placed
      simp only [perform, performForward, Op.map_apply, Turn.row, Turn.visit]
      generalize ForwardCursor.next (cursor, source) = result at moved ⊢
      obtain ⟨failure | _ | _, after⟩ := result
      · exact (List.append_nil visited).symm ▸ moved
      · exact (List.append_nil visited).symm ▸ moved
      · exact moved
    | isLast =>
      have moved := (ForwardCursor.isLast_placed source placed).map some
      rw [Turn.row, Turn.visit, Option.bind_none, Option.toList_none, List.append_nil]
      exact moved
    | close => exact absurd rfl stays
    | _ => exact (List.append_nil visited).symm ▸ placed
  · exact performScrollable_placed stays placed

/-- Any sequence of calls but `close` leaves the cursor placed. -/
theorem after_placed {calls : List CursorCall} (stays : .close ∉ calls) (state : Cursor ρ × σ)
    (placed : Placed visited state) :
    Placed (visited ++ (history calls state).filterMap Turn.row) (after calls state) := by
  induction calls generalizing visited state with
  | nil =>
    rw [history, List.filterMap_nil, List.append_nil]
    exact placed
  | cons call calls ih =>
    obtain ⟨other, later⟩ := List.ne_and_not_mem_of_not_mem_cons stays
    rw [history_rows_cons, ← List.append_assoc]
    exact ih later _ (perform_placed other.symm placed)

/-- A cursor is placed when it is opened. -/
theorem open_placed {statement : UInt64} {first : Page} {options : FetchOptions} {ownsStatement : Bool}
    {source after : σ} {cursor : Cursor ρ} (few : options.mode = .scrollable → first.rows.length < 2 ^ 63)
    (opened : «open» statement first options ownsStatement source = (.ok cursor, after)) :
    Placed [] (cursor, after) ∧ cursor.mode = options.mode := by
  rw [«open», Supply.ofFirst] at opened
  by_cases fits : first.offset.toNat + first.rows.length < UInt64.size
  · obtain ⟨rows, supply, took, accepted⟩ := Supply.accept_of_fits
      ({ statement, options, ownsStatement, nextOffset := first.offset } : Supply ρ) source fits
    have idle : supply.inFlight = none := (Supply.take_keeps took).2.2.2.2
    rw [accepted] at opened
    cases mode : options.mode with
    | forward =>
      simp only [mode] at opened
      cases opened
      refine ⟨⟨rfl, rfl, fun off => ?_⟩, rfl⟩
      cases off
    | scrollable =>
      simp only [mode] at opened
      cases opened
      have nonneg : (-1 : Int) < rows.toArray.size := by omega
      have held : rows.toArray.size ≤ ScrollableCursor.mostRows := by
        obtain ⟨-, -, rfl, -⟩ := Supply.take_eq_ok took
        rw [List.size_toArray, List.length_take]
        exact (Nat.min_le_right _ _).trans (Nat.le_sub_one_of_lt (few mode))
      exact ⟨⟨fun _ => idle, held, Int.le_refl _, Int.le_of_lt nonneg, fun same =>
        absurd same (Int.ne_of_lt nonneg)⟩, rfl⟩
  · rw [Supply.accept_of_not_fits _ _ fits] at opened
    cases opened

omit [PageSource σ ρ] in
/-- A scrollable cursor that was closed is in front of the first row. -/
theorem Over.consistent {cursor : ScrollableCursor ρ} (ended : Over (.scrollable cursor)) :
    Consistent visited (.scrollable cursor) := by
  obtain ⟨-, rows, index⟩ := ended
  have nothing : current (.scrollable cursor) = none := by
    rw [current, ScrollableCursor.current, index]
    rfl
  have inside : ranOff (.scrollable cursor) = false := by
    rw [ranOff, ScrollableCursor.length, index, rows]
    rfl
  refine ⟨?_, ?_, fun _ => .inl (congrArg Int64.toInt index), ?_⟩
  · rw [nothing, position, index]
    simp
  · intro row there
    cases nothing.symm.trans there
  · intro past
    cases inside.symm.trans past

/-- Closing a forward cursor drops its rows and leaves it where it is. -/
theorem perform_close_forward (cursor : ForwardCursor ρ) (source : σ) :
    (perform .close (.forward cursor, source)).2.1 = .forward { cursor with
      current := none
      buffer := []
      supply := (Supply.close (cursor.supply, source)).2.1 } := by
  simp only [perform, performForward, ForwardCursor.close, Op.bind_apply, ForwardCursor.update,
    Op.modify_apply, ForwardCursor.onSupply_apply]
  rcases Supply.close (cursor.supply, source) with ⟨failure | ⟨⟩, supply, after⟩ <;> rfl

/-- A forward cursor that is closed on a row has a position and no current row. -/
theorem close_forward {state : Cursor ρ × σ} (placed : Placed visited state)
    (mode : state.1.mode = .forward) :
    (perform .close state).2.1.current = none ∧
    (perform .close state).2.1.position = state.1.position ∧
    (Consistent visited (perform .close state).2.1 ↔ state.1.current = none) := by
  obtain ⟨cursor | cursor, source⟩ := state
  · rw [perform_close_forward]
    refine ⟨rfl, rfl, fun consistent => ?_, fun nothing => ?_⟩
    · by_contra onRow
      obtain ⟨nonneg, inside⟩ := placed.consistent.current_iff.mp (Option.isSome_iff_ne_none.mpr onRow)
      cases consistent.current_iff.mpr ⟨nonneg, inside⟩
    · refine consistent_forward ⟨placed.consumed_eq, ?_, fun off => ⟨rfl, ?_⟩⟩
      · exact nothing.symm.trans placed.current_eq
      · exact Supply.close_dry (placed.ended off).2
  · cases mode

variable {statement : UInt64} {first : Page} {options : FetchOptions} {ownsStatement : Bool}
  {source opened : σ} {cursor : Cursor ρ}

/-- Over any source and through any calls, failing ones included, a scrollable cursor and a forward one
that is not closed have a current row exactly if their position is the index of a row. Closing a forward
cursor drops the row but not the position, so that the two agree on a closed one only if it was closed off
any row. The first page of a scrollable cursor must have an index for each of its rows, as every list in memory
has. -/
theorem position_agrees (few : options.mode = .scrollable → first.rows.length < 2 ^ 63)
    (came : «open» statement first options ownsStatement source = (.ok cursor, opened))
    (calls : List CursorCall) :
    (options.mode = .scrollable ∨ .close ∉ calls →
      Consistent ((history calls (cursor, opened)).filterMap Turn.row) (after calls (cursor, opened)).1) ∧
    (options.mode = .forward → ∀ before later, calls = before ++ .close :: later → .close ∉ before →
      (after calls (cursor, opened)).1.current = none ∧
      (after calls (cursor, opened)).1.position = (after before (cursor, opened)).1.position ∧
      (Consistent ((history calls (cursor, opened)).filterMap Turn.row) (after calls (cursor, opened)).1 ↔
        (after before (cursor, opened)).1.current = none)) := by
  obtain ⟨start, mode⟩ := open_placed few came
  have closed_eq (before later : List CursorCall) : after (before ++ .close :: later) (cursor, opened) =
      (perform .close (after before (cursor, opened))).2 := by
    rw [after_close, after_append]
    rfl
  constructor
  · intro agree
    by_cases closes : .close ∈ calls
    · obtain ⟨before, later, rfl, -⟩ := List.eq_append_cons_of_mem closes
      have ended := (perform_close (after before (cursor, opened))).2
      have kind := (perform_mode .close (after before (cursor, opened))).trans (after_mode before _)
      rw [mode, agree.resolve_right (not_not_intro closes)] at kind
      rw [closed_eq]
      generalize (perform .close (after before (cursor, opened))).2.1 = closed at ended kind ⊢
      cases closed with
      | forward => cases kind
      | scrollable => exact ended.consistent
    · exact (after_placed closes (cursor, opened) start).consistent
  · rintro forward before later rfl stays
    rw [closed_eq, visited_close]
    refine close_forward (after_placed stays (cursor, opened) start) ?_
    rw [after_mode, mode, forward]

/-- A forward cursor over a source that interrupts keeps row and position together until it is closed. -/
theorem position_agrees_interrupted :
    ∃ cursor opened,
      «open» 1 ScriptedSource.firstOfThree { fetchSize := 1 } true ScriptedSource.interrupted =
        (.ok cursor, opened) ∧
      Consistent ((history [.next, .next, .next, .next] (cursor, opened)).filterMap Turn.row)
        (after [.next, .next, .next, .next] (cursor, opened)).1 ∧
      (after [.next, .close] (cursor, opened)).1.position = 0 := by
  obtain ⟨cursor, opened, came⟩ : ∃ cursor opened, «open» 1 ScriptedSource.firstOfThree { fetchSize := 1 }
      true ScriptedSource.interrupted = (.ok cursor, opened) := ⟨_, _, rfl⟩
  refine ⟨cursor, opened, came, (position_agrees (fun _ => by decide) came _).1 (.inr (by decide)), ?_⟩
  refine ((position_agrees (fun _ => by decide) came [.next, .close]).2 rfl [.next] [] rfl (by decide)).2.1.trans ?_
  cases came
  rfl

/-- A forward cursor that is closed on its first row has no current row, a row index as its position, and
has not run off the end. -/
theorem closed_on_row :
    ∃ cursor opened,
      «open» 1 ScriptedSource.firstOfThree { fetchSize := 1 } true ScriptedSource.interrupted =
        (.ok cursor, opened) ∧
      (after [.next, .close] (cursor, opened)).1.current = none ∧
      (after [.next, .close] (cursor, opened)).1.position = 0 ∧
      (after [.next, .close] (cursor, opened)).1.ranOff = false ∧
      ¬ Consistent ((history [.next, .close] (cursor, opened)).filterMap Turn.row)
        (after [.next, .close] (cursor, opened)).1 := by
  refine ⟨_, _, rfl, rfl, rfl, rfl, fun consistent => ?_⟩
  cases consistent.current_iff.mpr ⟨by decide, rfl⟩

end Cursor

end PagedResults
