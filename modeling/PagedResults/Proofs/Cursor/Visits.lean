import PagedResults.Proofs.Cursor.Plain

/-! # Visits

The visits of a sequence of calls are the rows that its calls of `next` led to. A forward cursor that
follows a plain one visits the rows ahead one by one, whatever else it is asked in between and however
often a request fails; and once it has said that there is no next row, it has visited all of them and
says nothing else any more.
-/

namespace PagedResults

/-- A row that was visited, with its position and its number. -/
structure Visit where
  row : Option Row
  position : Int
  rowNumber : Int
deriving Repr

/-- The visits that a plain cursor has ahead. -/
def PlainCursor.ahead (plain : PlainCursor) : List Visit :=
  (plain.rows.zipIdx.drop (plain.index + 1).toNat).map fun (row, index) => ⟨some row, index, index + 1⟩

namespace Cursor

variable {σ ρ : Type}

/-- A call, what it was answered, and the cursor after it. -/
structure Turn (ρ : Type) where
  call : CursorCall
  answer : Outcome Error (Option Bool)
  cursor : Cursor ρ

/-- The row that a turn led to, if it went on to a next row. -/
def Turn.visit (turn : Turn ρ) : Option Visit :=
  match turn.call, turn.answer with
  | .next, .ok (some true) => some ⟨turn.cursor.current, turn.cursor.position, turn.cursor.rowNumber⟩
  | _, _ => none

variable [PageSource σ ρ]

/-- The turns of a sequence of calls. -/
def history : List CursorCall → Cursor ρ × σ → List (Turn ρ)
  | [], _ => []
  | call :: calls, state =>
      let (answer, after) := perform call state
      ⟨call, answer, after.1⟩ :: history calls after

end Cursor

namespace PlainCursor

variable {plain : PlainCursor}

private theorem move_next (range : plain.InRange) :
    plain.move .next = { plain with index := min (plain.index + 1) plain.count } := by
  apply goTo_eq
  obtain ⟨low, high⟩ := range
  have nonneg : 0 ≤ plain.count := Int.natCast_nonneg _
  change max (-1) (min (plain.index + 1) plain.count) = _
  omega

/-- On a row after a move to the next one, that row was the first one ahead. -/
theorem ahead_of_onRow (range : plain.InRange) (there : (plain.move .next).onRow = true) :
    plain.ahead = ⟨(plain.move .next).current, (plain.move .next).index, (plain.move .next).index + 1⟩ ::
      (plain.move .next).ahead := by
  rw [move_next range] at there ⊢
  have inside := index_lt_of_onRow there
  obtain ⟨index, here⟩ : ∃ index : Nat, plain.index + 1 = index :=
    ⟨(plain.index + 1).toNat, by have := range.1; omega⟩
  have bound : index < plain.rows.length := by
    unfold count at inside
    dsimp only at inside
    omega
  have moved : min (plain.index + 1) plain.count = index := by
    unfold count
    omega
  have listed : plain.rows.zipIdx.drop index =
      (plain.rows[index], index) :: plain.rows.zipIdx.drop (index + 1) := by
    rw [List.drop_eq_getElem_cons (by simpa using bound), List.getElem_zipIdx, Nat.zero_add]
  rw [moved]
  simp only [ahead, here, current, Int.toNat_natCast, listed, List.map_cons,
    List.getElem?_eq_getElem bound, Int.natCast_nonneg, if_true]
  rfl

private theorem ahead_eq_nil (ended : plain.count ≤ plain.index + 1) : plain.ahead = [] := by
  unfold ahead
  rw [List.drop_of_length_le, List.map_nil]
  rw [List.length_zipIdx]
  unfold count at ended
  omega

/-- No row after a move to the next one means that none was ahead. -/
theorem ahead_of_not_onRow (range : plain.InRange) (off : (plain.move .next).onRow = false) :
    plain.ahead = [] ∧ (plain.move .next).index = plain.count ∧ (plain.move .next).current = none := by
  have nowhere : (plain.move .next).current = none := by
    rw [← current_isSome] at off
    simpa using off
  rw [move_next range] at off nowhere ⊢
  have low := range.1
  have nonneg : 0 ≤ plain.count := Int.natCast_nonneg _
  have ended : plain.count ≤ plain.index + 1 := by
    simp only [onRow, Bool.and_eq_false_iff, decide_eq_false_iff_not] at off
    change _ ∨ ¬ min (plain.index + 1) plain.count < plain.count at off
    omega
  exact ⟨ahead_eq_nil ended, by dsimp only; omega, nowhere⟩

end PlainCursor

namespace Cursor

variable {σ ρ : Type} [PageSource σ ρ] {ask : UInt64 → PageRequest} {call : CursorCall}
  {calls : List CursorCall} {plain next : PlainCursor} {before : Cursor ρ × σ}
  {result : Outcome Error (Option Bool) × Cursor ρ × σ}

theorem history_cons (call : CursorCall) (calls : List CursorCall) (state : Cursor ρ × σ) :
    history (call :: calls) state =
      ⟨call, (perform call state).1, (perform call state).2.1⟩ ::
        history calls (perform call state).2 := rfl

/-- A turn of a forward cursor moves on to the next row, or leaves the cursor where it is; it only leaves
it there when asked for the next row if the request for that row failed. -/
theorem Step.forward_cases (step : Step ask .forward call plain before result next)
    (range : plain.InRange) :
    (call = .next ∧ result.1 = .ok (some (plain.move .next).onRow) ∧ next = plain.move .next) ∨
    (next = plain ∧ (call = .next → plain.index < plain.count ∧ ∃ error, result.1 = Outcome.fail error)) := by
  cases step with
  | moved supported run =>
    cases call with
    | next => exact .inl ⟨rfl, rfl, rfl⟩
    | isLast | close =>
      exact .inr ⟨PlainCursor.goTo_index range, fun same => nomatch same⟩
    | _ => contradiction
  | failed supported inside run passed => exact .inr ⟨rfl, fun _ => ⟨inside, _, rfl⟩⟩
  | unsupported unknown =>
    refine .inr ⟨rfl, ?_⟩
    rintro rfl
    contradiction

/-- A cursor after the last row stays there and finds no next row. -/
theorem Follows.next_eq_false {state : Cursor ρ × σ} (follows : Follows ask .forward calls plain state)
    (range : plain.InRange) (off : plain.index = plain.count) :
    ∀ turn ∈ history calls state, turn.call = .next → turn.answer = .ok (some false) := by
  induction follows with
  | nil agrees => exact fun turn member => nomatch member
  | @cons call calls plain next state agrees step rest ih =>
    have ended : (plain.move .next).onRow = false := by
      by_contra there
      have := PlainCursor.index_lt_of_onRow (by simpa using there)
      rw [PlainCursor.move_next range] at this
      change min (plain.index + 1) plain.count < plain.count at this
      omega
    have nowhere := (PlainCursor.ahead_of_not_onRow range ended).2.1
    have still : next.InRange ∧ next.index = next.count := by
      rcases step.forward_cases range with ⟨-, -, rfl⟩ | ⟨rfl, -⟩
      · exact ⟨PlainCursor.goTo_inRange _ _, nowhere⟩
      · exact ⟨range, off⟩
    intro turn member asked
    rw [history_cons, List.mem_cons] at member
    rcases member with rfl | later
    · rcases step.forward_cases range with ⟨-, answered, -⟩ | ⟨-, failed⟩
      · exact answered.trans (by rw [ended])
      · exact absurd (failed asked).1 (by omega)
    · exact ih still.1 still.2 turn later asked

/-- The turns deliver the rows ahead of a plain cursor: none is lost, repeated or out of order, and the
end is reported only after all of them, and for good. -/
structure Delivers (plain : PlainCursor) (turns : List (Turn ρ)) : Prop where
  visits_prefix : turns.filterMap Turn.visit <+: plain.ahead
  ends : ∀ before turn later, turns = before ++ turn :: later → turn.call = .next →
    turn.answer = .ok (some false) →
    before.filterMap Turn.visit = plain.ahead ∧ turn.cursor.current = none ∧
      turn.cursor.position = plain.count ∧
      ∀ other ∈ later, other.call = .next → other.answer = .ok (some false)

/-- One more turn in front: it visits what is ahead of the others, or it finds the end. -/
theorem Delivers.cons {turn : Turn ρ} {turns : List (Turn ρ)} (rest : Delivers next turns)
    (visited : turn.visit.toList ++ next.ahead = plain.ahead) (same : next.count = plain.count)
    (ended : turn.call = .next → turn.answer = .ok (some false) → plain.ahead = [] ∧
      turn.cursor.current = none ∧ turn.cursor.position = plain.count ∧
      ∀ other ∈ turns, other.call = .next → other.answer = .ok (some false)) :
    Delivers plain (turn :: turns) := by
  have split (others : List (Turn ρ)) : (turn :: others).filterMap Turn.visit =
      turn.visit.toList ++ others.filterMap Turn.visit := by
    rw [List.filterMap_cons]
    cases turn.visit <;> rfl
  constructor
  · rw [split, ← visited, List.prefix_append_right_inj]
    exact rest.visits_prefix
  · intro before other later listed asked answered
    cases before with
    | nil =>
      obtain ⟨rfl, rfl⟩ := List.cons.inj listed
      obtain ⟨empty, nowhere, there, final⟩ := ended asked answered
      exact ⟨empty.symm, nowhere, there, final⟩
    | cons first before =>
      obtain ⟨rfl, behind⟩ := List.cons.inj listed
      obtain ⟨all, nowhere, there, final⟩ := rest.ends before other later behind asked answered
      exact ⟨by rw [split, all, visited], nowhere, there.trans same, final⟩

/-- A forward cursor that follows a plain one delivers the rows ahead of it. -/
theorem Follows.delivers {state : Cursor ρ × σ} (follows : Follows ask .forward calls plain state)
    (range : plain.InRange) : Delivers plain (history calls state) := by
  induction follows with
  | nil agrees =>
    refine ⟨List.nil_prefix, ?_⟩
    intro before turn later same
    have sizes := congrArg List.length same
    simp only [history, List.length_nil, List.length_append, List.length_cons] at sizes
    omega
  | @cons call calls plain next state agrees step rest ih =>
    rw [history_cons]
    have seen : next.Agrees (perform call state).2.1 := by cases rest <;> assumption
    rcases step.forward_cases range with ⟨rfl, answered, rfl⟩ | ⟨rfl, unmoved⟩
    · have moved := PlainCursor.goTo_inRange (plain.target .next) plain
      by_cases there : (plain.move .next).onRow = true
      · rw [there] at answered
        refine (ih moved).cons ?_ rfl ?_
        · rw [Turn.visit, answered]
          simp only [Option.toList_some, List.singleton_append]
          rw [PlainCursor.ahead_of_onRow range there, seen.rowNumber_eq, seen.current_eq,
            seen.position_eq, if_pos there]
        · intro _ denied
          rw [answered] at denied
          cases denied
      · have off : (plain.move .next).onRow = false := by simpa using there
        obtain ⟨empty, index, nowhere⟩ := PlainCursor.ahead_of_not_onRow range off
        rw [off] at answered
        refine (ih moved).cons ?_ rfl ?_
        · rw [Turn.visit, answered, empty]
          exact PlainCursor.ahead_eq_nil (by rw [index]; change plain.count ≤ plain.count + 1; omega)
        · intro _ _
          exact ⟨empty, seen.current_eq.trans nowhere, seen.position_eq.trans index,
            rest.next_eq_false moved index⟩
    · have failed : call = .next → (perform call state).1 ≠ .ok (some false) := by
        intro asked answered
        obtain ⟨-, error, refused⟩ := unmoved asked
        rw [refused] at answered
        cases answered
      refine (ih range).cons ?_ rfl (fun asked answered => absurd answered (failed asked))
      have unvisited : (⟨call, (perform call state).1, (perform call state).2.1⟩ : Turn ρ).visit = none := by
        unfold Turn.visit
        split
        · next asked answered =>
          obtain ⟨-, error, refused⟩ := unmoved asked
          rw [refused] at answered
          cases answered
        · rfl
      rw [unvisited]
      rfl

end Cursor

end PagedResults
