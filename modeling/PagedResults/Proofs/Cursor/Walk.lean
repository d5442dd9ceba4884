import PagedResults.Proofs.Cursor.Merged
import PagedResults.Proofs.Reading

/-! # Walking over a result

A walk repeats one move for as long as it leads to a row. Over a source that refuses nothing, a cursor of
either mode meets the rows that a plain cursor meets: from the first row forwards all shown rows in their
order, and from the last row backwards the same rows in the opposite order.
-/

namespace PagedResults

namespace PlainCursor

/-! ## Walks of a plain cursor -/

/-- The rows that are met from the current one on, up to the end at which there is none. -/
inductive Walk (move : CursorCall) : PlainCursor → List Row → Prop
  | off {plain : PlainCursor} (nowhere : plain.current = none) : Walk move plain []
  | on {plain : PlainCursor} {row : Row} {rows : List Row} (here : plain.current = some row)
      (rest : Walk move (plain.move move) rows) : Walk move plain (row :: rows)

variable {rows : List Row}

private theorem current_natCast (rows : List Row) (index : Nat) :
    current ⟨rows, index⟩ = rows[index]? := by
  rw [current, if_pos (Int.natCast_nonneg index)]
  rfl

/-- Forwards from an index, the rows from there on are met. -/
theorem walk_next {index : Nat} (inside : index ≤ rows.length) :
    Walk .next ⟨rows, index⟩ (rows.drop index) := by
  induction left : rows.length - index generalizing index with
  | zero =>
    rw [List.drop_of_length_le (by omega)]
    exact .off (by rw [current_natCast, List.getElem?_eq_none (by omega)])
  | succ count ih =>
    have bound : index < rows.length := by omega
    have moved : move .next ⟨rows, index⟩ = ⟨rows, (index + 1 : Nat)⟩ := by
      apply goTo_eq
      change max (-1) (min ((index : Int) + 1) rows.length) = (index + 1 : Nat)
      omega
    rw [List.drop_eq_getElem_cons bound]
    refine .on (by rw [current_natCast, List.getElem?_eq_getElem bound]) ?_
    rw [moved]
    exact ih bound (by omega)

/-- Backwards from the last of so many rows, these rows are met in the opposite order. -/
theorem walk_previous {count : Nat} (inside : count ≤ rows.length) :
    Walk .previous ⟨rows, count - 1⟩ (rows.take count).reverse := by
  induction count with
  | zero => exact .off rfl
  | succ count ih =>
    have moved : move .previous ⟨rows, count⟩ = ⟨rows, count - 1⟩ := by
      apply goTo_eq
      change max (-1) (min ((count : Int) - 1) rows.length) = count - 1
      omega
    have here : ((count + 1 : Nat) : Int) - 1 = count := by omega
    rw [List.take_succ_eq_append_getElem inside, List.reverse_append, here]
    refine .on (by rw [current_natCast, List.getElem?_eq_getElem inside]) ?_
    rw [moved]
    exact ih (Nat.le_of_succ_le inside)

/-- From before the first row on, all rows are met. -/
theorem walk_from_first (rows : List Row) : Walk .next (move .next ⟨rows, -1⟩) rows := by
  have moved : move .next ⟨rows, -1⟩ = ⟨rows, (0 : Nat)⟩ := by
    apply goTo_eq
    change max (-1) (min ((-1 : Int) + 1) rows.length) = 0
    omega
  rw [moved]
  exact walk_next (Nat.zero_le _)

/-- From the last row on, all rows are met in the opposite order. -/
theorem walk_from_last (rows : List Row) : Walk .previous (move .last ⟨rows, -1⟩) rows.reverse := by
  have moved : move .last ⟨rows, -1⟩ = ⟨rows, rows.length - 1⟩ := by
    apply goTo_eq
    change max (-1) (min ((rows.length : Int) - 1) rows.length) = rows.length - 1
    omega
  have walk := walk_previous (Nat.le_refl rows.length)
  rw [List.take_length] at walk
  rw [moved]
  exact walk

end PlainCursor

namespace Cursor

variable {σ ρ : Type} [PageSource σ ρ]

/-! ## Walks of a cursor -/

/-- The rows that a cursor meets from the current one on, and where it is then. -/
inductive Walk (move : CursorCall) : List Row → Cursor ρ × σ → Cursor ρ × σ → Prop
  | off {state : Cursor ρ × σ} (nowhere : state.1.current = none) : Walk move [] state state
  | on {row : Row} {rows : List Row} {answer : Option Bool} {state next last : Cursor ρ × σ}
      (here : state.1.current = some row) (moved : perform move state = (.ok answer, next))
      (rest : Walk move rows next last) : Walk move (row :: rows) state last

/-- A cursor of either mode at the place of a plain one. -/
def Holds (mode : CursorMode) (rows : List Row) (ask : UInt64 → PageRequest) (plain : PlainCursor)
    (state : Cursor ρ × σ) : Prop :=
  match mode with
  | .forward => HoldsForward rows ask plain state
  | .scrollable => HoldsScrollable rows ask plain state

variable {mode : CursorMode} {rows met : List Row} {ask : UInt64 → PageRequest} {plain : PlainCursor}
  {state : Cursor ρ × σ} {call move : CursorCall} {Inv : Supply ρ × σ → Prop}

theorem Holds.agrees (holds : Holds mode rows ask plain state) : plain.Agrees state.1 := by
  cases mode with
  | forward => exact HoldsForward.agrees holds
  | scrollable => exact HoldsScrollable.agrees holds

theorem Holds.step (holds : Holds mode rows ask plain state) (stays : call ≠ .close) :
    ∃ next, Step ask mode call plain state (perform call state) next ∧
      Holds mode rows ask next (perform call state).2 := by
  cases mode with
  | forward => exact HoldsForward.step call stays holds
  | scrollable => exact HoldsScrollable.step call stays holds

/-- A cursor that goes where a plain one goes: it is at its place, and its source refuses nothing. Its supply
keeps whatever holds of it until it is closed. -/
structure Travels (Inv : Supply ρ × σ → Prop) (mode : CursorMode) (rows : List Row)
    (ask : UInt64 → PageRequest) (plain : PlainCursor) (state : Cursor ρ × σ) : Prop where
  holds : Holds mode rows ask plain state
  reliable : Paging.Reliable rows ask (paging state)
  kept : Inv (state.1.supply, state.2)

/-- It answers every move as the plain one does, and goes on. -/
theorem Travels.perform (travels : Travels Inv mode rows ask plain state)
    (carries : Supply.Carries fun _ => Inv) (supported : mode.supports call = true) (stays : call ≠ .close) :
    ∃ after, Cursor.perform call state = (.ok (plain.answer call), after) ∧
      Travels Inv mode rows ask (plain.move call) after := by
  obtain ⟨next, step, holds⟩ := travels.holds.step stays
  obtain ⟨answered, rfl, reliable⟩ := step.moves supported travels.reliable
  have kept := @perform_carries _ _ _ (fun _ => Inv) [] _ carries _ stays travels.kept
  exact ⟨_, Prod.ext answered rfl, holds, reliable, kept⟩

/-- It meets the rows that the plain one meets. -/
theorem Travels.walk (travels : Travels Inv mode rows ask plain state) (carries : Supply.Carries fun _ => Inv)
    (supported : mode.supports move = true) (stays : move ≠ .close) (walk : plain.Walk move met) :
    ∃ last, Walk move met state last ∧ Inv (last.1.supply, last.2) := by
  induction walk generalizing state with
  | off nowhere =>
    exact ⟨state, .off (travels.holds.agrees.current_eq.trans nowhere), travels.kept⟩
  | on here _ ih =>
    obtain ⟨after, moved, going⟩ := travels.perform carries supported stays
    obtain ⟨last, walk, kept⟩ := ih going
    exact ⟨last, .on (travels.holds.agrees.current_eq.trans here) moved walk, kept⟩

/-- A cursor that is opened over the first page of a result stands before the first shown row. -/
theorem open_travels {first : Page} {source : σ} (statement : UInt64) (options : FetchOptions)
    (ownsStatement : Bool) (bounded : rows.length ≤ ScrollableCursor.mostRows) (shows : first.Shows rows 0)
    (reliable : Paging.Reliable rows (options.ask statement) ⟨UInt64.ofNat first.rows.length, none, source⟩)
    (kept : Inv (Supply.ofFirst statement first options ownsStatement source).2) :
    ∃ cursor opened, «open» statement first options ownsStatement source = (.ok cursor, opened) ∧
      Travels Inv options.mode rows (options.ask statement) ⟨options.shown rows, -1⟩ (cursor, opened) := by
  obtain ⟨cursor, opened, begun, holds, run⟩ : ∃ cursor opened,
      «open» statement first options ownsStatement source = (.ok cursor, opened) ∧
        Holds options.mode rows (options.ask statement) ⟨options.shown rows, -1⟩ (cursor, opened) ∧
        Paging.Run (options.ask statement) ⟨UInt64.ofNat first.rows.length, none, source⟩ []
          (paging (cursor, opened)) := by
    cases mode : options.mode with
    | forward =>
      exact HoldsForward.of_open statement options ownsStatement (Nat.lt_of_le_of_lt bounded (by decide)) mode
        shows reliable.honest
    | scrollable => exact HoldsScrollable.of_open statement options ownsStatement bounded mode shows reliable.honest
  refine ⟨cursor, opened, begun, holds, reliable.after run, ?_⟩
  -- the supply of the cursor is the one that has taken in the first page, in either mode
  rw [«open»] at begun
  generalize Supply.ofFirst statement first options ownsStatement source = result at kept begun
  obtain ⟨failure | rows, supply, after⟩ := result
  · cases begun
  · obtain ⟨same, rfl⟩ := Prod.mk.inj begun
    obtain rfl := Except.ok.inj same
    cases mode : options.mode <;> exact kept

end Cursor

end PagedResults
