import PagedResults.Cursor
import PagedResults.Proofs.Supply

/-! # The plain cursor

A plain cursor has all of its rows at hand and moves over them by exact arithmetic. It is what every
cursor over a source is measured by: `Cursor.Follows` says that a cursor does, call after call, either
what the plain cursor does, or nothing but report the request that failed.
-/

namespace PagedResults

/-- A cursor over rows that are all at hand. -/
structure PlainCursor where
  rows : List Row
  /-- The index of the current row; -1 before the first row, and the number of rows after the last. -/
  index : Int := -1

namespace PlainCursor

def count (plain : PlainCursor) : Int := plain.rows.length

def onRow (plain : PlainCursor) : Bool := 0 ≤ plain.index && plain.index < plain.count

def current (plain : PlainCursor) : Option Row :=
  if 0 ≤ plain.index then plain.rows[plain.index.toNat]? else none

/-- Where a call leads to, be there a row or not. -/
def target (call : CursorCall) (plain : PlainCursor) : Int :=
  match call with
  | .next => plain.index + 1
  | .previous => plain.index - 1
  | .first => 0
  | .last => plain.count - 1
  | .absolute row =>
      if 0 < row.toInt then row.toInt - 1 else if row.toInt = 0 then -1 else plain.count + row.toInt
  | .relative offset => plain.index + offset.toInt
  | .beforeFirst => -1
  | .afterLast => plain.count
  | .isLast | .close => plain.index

/-- Go to an index, and no farther than before the first or after the last row. -/
def goTo (target : Int) (plain : PlainCursor) : PlainCursor :=
  { plain with index := max (-1) (min target plain.count) }

/-- Go where a call leads to. -/
def move (call : CursorCall) (plain : PlainCursor) : PlainCursor := plain.goTo (plain.target call)

/-- What a call is answered: whether it led to a row, or whether the current row is the last one. -/
def answer (call : CursorCall) (plain : PlainCursor) : Option Bool :=
  match call with
  | .isLast => some (plain.onRow && plain.index + 1 == plain.count)
  | .beforeFirst | .afterLast | .close => none
  | call => some (plain.move call).onRow

/-- The index lies between the two ends. -/
def InRange (plain : PlainCursor) : Prop := -1 ≤ plain.index ∧ plain.index ≤ plain.count

theorem goTo_inRange (target : Int) (plain : PlainCursor) : (plain.goTo target).InRange := by
  have nonneg : 0 ≤ plain.count := Int.natCast_nonneg _
  unfold InRange
  change -1 ≤ max (-1) (min target plain.count) ∧ max (-1) (min target plain.count) ≤ plain.count
  omega

/-- Going to a place between the ends arrives there. -/
theorem goTo_eq {target index : Int} {plain : PlainCursor}
    (arrives : max (-1) (min target plain.count) = index) : plain.goTo target = { plain with index } := by
  rw [goTo, arrives]

/-- A cursor that is to go where it is stays there. -/
theorem goTo_index {plain : PlainCursor} (range : plain.InRange) : plain.goTo plain.index = plain := by
  apply goTo_eq
  obtain ⟨low, high⟩ := range
  omega

/-- A place is on a row if there is such a row. -/
theorem onRow_goTo (target : Int) (plain : PlainCursor) :
    (plain.goTo target).onRow = (decide (0 ≤ target) && decide (target < plain.count)) := by
  rw [Bool.eq_iff_iff]
  simp only [onRow, Bool.and_eq_true, decide_eq_true_eq]
  change 0 ≤ max (-1) (min target plain.count) ∧ max (-1) (min target plain.count) < plain.count ↔ _
  omega

theorem current_isSome (plain : PlainCursor) : plain.current.isSome = plain.onRow := by
  unfold current onRow count
  split
  · next start =>
    simp only [start, decide_true, Bool.true_and]
    rw [Bool.eq_iff_iff, isSome_getElem?, decide_eq_true_eq]
    omega
  · next before => simp [before]

theorem index_lt_of_onRow {plain : PlainCursor} (there : plain.onRow = true) :
    plain.index < plain.count := by
  unfold onRow at there
  simp only [Bool.and_eq_true, decide_eq_true_eq] at there
  exact there.2

/-- What can be seen of a cursor is what can be seen of the plain one. -/
structure Agrees {ρ : Type} (plain : PlainCursor) (cursor : Cursor ρ) : Prop where
  current_eq : cursor.current = plain.current
  position_eq : cursor.position = plain.index

theorem Agrees.rowNumber_eq {ρ : Type} {plain : PlainCursor} {cursor : Cursor ρ}
    (agrees : plain.Agrees cursor) :
    cursor.rowNumber = if plain.onRow then plain.index + 1 else 0 := by
  rw [Cursor.rowNumber, agrees.current_eq, agrees.position_eq, current_isSome]

end PlainCursor

/-- Whether the cursors of a mode know a call. -/
def CursorMode.supports : CursorMode → CursorCall → Bool
  | .forward, .next | .forward, .isLast | .forward, .close => true
  | .forward, _ => false
  | .scrollable, _ => true

namespace Cursor

variable {σ ρ : Type} [PageSource σ ρ]

/-- Where the exchange of a cursor with its source stands. -/
def paging (state : Cursor ρ × σ) : Paging σ ρ := Supply.paging (state.1.supply, state.2)

/-- One call, which took the plain cursor from `plain` to a new place: every request that ended during
the call was answered with a page, and the call does what the plain cursor does; or the last of these
requests failed, and the call reports this and leads nowhere; or the call is unknown, and nothing
happens at all. After the last row there is nothing to request, and nothing fails. -/
inductive Step (ask : UInt64 → PageRequest) (mode : CursorMode) (call : CursorCall)
    (plain : PlainCursor) (before : Cursor ρ × σ) :
    Outcome Error (Option Bool) × Cursor ρ × σ → PlainCursor → Prop
  | moved {pages : List Page} {after : Cursor ρ × σ} (supported : mode.supports call = true)
      (run : Paging.Run ask (paging before) (pages.map .ok) (paging after)) :
      Step ask mode call plain before (.ok (plain.answer call), after) (plain.move call)
  | failed {pages : List Page} {cause : Failure Error} {offset : UInt64} {error : Error}
      {after : Cursor ρ × σ} (supported : mode.supports call = true)
      (inside : plain.index < plain.count)
      (run : Paging.Run ask (paging before) (pages.map .ok ++ [.error cause]) (paging after))
      (passed : Supply.joined offset (.error cause) = Outcome.fail error) :
      Step ask mode call plain before (Outcome.fail error, after) plain
  | unsupported (unknown : mode.supports call = false) :
      Step ask mode call plain before (Outcome.fail (.unsupported call.name), before) plain

/-- A cursor goes along with the plain cursor through a sequence of calls. -/
inductive Follows (ask : UInt64 → PageRequest) (mode : CursorMode) :
    List CursorCall → PlainCursor → Cursor ρ × σ → Prop
  | nil {plain : PlainCursor} {state : Cursor ρ × σ} (agrees : plain.Agrees state.1) :
      Follows ask mode [] plain state
  | cons {call : CursorCall} {calls : List CursorCall} {plain next : PlainCursor}
      {state : Cursor ρ × σ} (agrees : plain.Agrees state.1)
      (step : Step ask mode call plain state (perform call state) next)
      (rest : Follows ask mode calls next (perform call state).2) :
      Follows ask mode (call :: calls) plain state

/-- What every call keeps carries a cursor through all calls. -/
theorem Follows.of_invariant {ask : UInt64 → PageRequest} {mode : CursorMode}
    {Holds : PlainCursor → Cursor ρ × σ → Prop}
    (agrees : ∀ {plain state}, Holds plain state → plain.Agrees state.1)
    (step : ∀ {plain state} (call : CursorCall), call ≠ .close → Holds plain state →
      ∃ next, Step ask mode call plain state (perform call state) next ∧
        Holds next (perform call state).2)
    (calls : List CursorCall) (stays : ∀ call ∈ calls, call ≠ .close) {plain : PlainCursor}
    {state : Cursor ρ × σ} (holds : Holds plain state) : Follows ask mode calls plain state := by
  induction calls generalizing plain state with
  | nil => exact .nil (agrees holds)
  | cons call calls ih =>
    obtain ⟨next, stepped, kept⟩ := step call (stays call (List.mem_cons_self ..)) holds
    exact .cons (agrees holds) stepped
      (ih (fun other member => stays other (List.mem_cons_of_mem _ member)) kept)

end Cursor

end PagedResults
