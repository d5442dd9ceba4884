import PagedResults.Proofs.Cursor.Forward
import PagedResults.Proofs.Cursor.Scrollable

/-! # Reading a result to its end

`Op.Yields` says what a caller gets who reads on and on: these items, one by one, and then the end. Over
a source that answers every request with the page that was asked for, a cursor of either mode yields the
shown rows of the result.
-/

namespace PagedResults

namespace Op

variable {ε σ α : Type}

/-- Reading gives exactly these items, one after the other, and then the end. -/
inductive Yields (next : Op ε σ (Option α)) : List α → σ → Prop
  | done {state after : σ} (ended : next state = (.ok none, after)) : Yields next [] state
  | item {item : α} {items : List α} {state after : σ} (given : next state = (.ok (some item), after))
      (rest : Yields next items after) : Yields next (item :: items) state

/-- Reading a part of a state gives what the part has. -/
theorem Yields.onPart {τ : Type} {part : σ → τ} {replace : τ → σ → σ}
    (part_replace : ∀ next state, part (replace next state) = next) {next : Op ε τ (Option α)}
    {items : List α} {state : σ} (yields : Yields next items (part state)) :
    Yields (next.onPart part replace) items state := by
  generalize there : part state = inner at yields
  induction yields generalizing state with
  | @done inner after ended =>
    have ended : next.onPart part replace state = (.ok none, replace after state) := by
      rw [Op.onPart, there, ended]
    exact .done ended
  | @item item items inner after given rest ih =>
    have given : next.onPart part replace state = (.ok (some item), replace after state) := by
      rw [Op.onPart, there, given]
    exact .item given (ih (part_replace after state))

end Op

/-- Whatever the exchange has come to, a request that ends is answered with the page that was asked
for. -/
def Paging.Reliable {σ ρ : Type} [PageSource σ ρ] (rows : List Row) (ask : UInt64 → PageRequest)
    (start : Paging σ ρ) : Prop :=
  ∀ answers offset request source, Run ask start answers ⟨offset, some request, source⟩ →
    ∃ page, (PageSource.finish request source).1 = .ok page ∧ page.Shows rows offset.toNat

namespace Paging.Reliable

variable {σ ρ : Type} [PageSource σ ρ] {rows : List Row} {ask : UInt64 → PageRequest}
  {start now : Paging σ ρ} {answers : List (Outcome Error Page)}

theorem honest (reliable : Reliable rows ask start) : Honest rows ask start := by
  intro answers offset request source run
  obtain ⟨page, answered, shows⟩ := reliable _ _ _ _ run
  rw [answered]
  exact shows

theorem after (reliable : Reliable rows ask start) (run : Run ask start answers now) :
    Reliable rows ask now :=
  fun _ _ _ _ later => reliable _ _ _ _ (run.trans later)

/-- No request is refused. -/
theorem not_refused (reliable : Reliable rows ask start) {cause : Failure Error}
    (run : Run ask start (answers ++ [.error cause]) now) : False := by
  obtain ⟨offset, request, source, before, refused⟩ := run.refused_last
  obtain ⟨page, answered, -⟩ := reliable _ _ _ _ before
  rw [refused] at answered
  contradiction

end Paging.Reliable

/-- A plain cursor before its first row has all of its rows ahead. -/
theorem PlainCursor.ahead_start (rows : List Row) :
    (PlainCursor.ahead ⟨rows, -1⟩).map Visit.row = rows.map some := by
  have first : ((-1 : Int) + 1).toNat = 0 := rfl
  rw [ahead, first, List.drop_zero, List.map_map]
  change rows.zipIdx.map (some ∘ Prod.fst) = _
  rw [← List.map_map, List.zipIdx_map_fst]

namespace Cursor

variable {σ ρ : Type} [PageSource σ ρ] {rows : List Row} {ask : UInt64 → PageRequest} {mode : CursorMode}
  {plain : PlainCursor} {state : Cursor ρ × σ}

private theorem nextRow_apply (state : Cursor ρ × σ) {there : Bool} {after : Cursor ρ × σ}
    (performed : perform .next state = (.ok (some there), after)) :
    nextRow state = (.ok (if there then after.1.current else none), after) := by
  have moved : next state = (.ok there, after) := by
    rw [next, Op.bind_apply, performed]
    rfl
  rw [nextRow, Op.bind_apply, moved]
  cases there <;> rfl

/-- Over a source that refuses nothing, a cursor goes where the plain cursor goes. -/
theorem Step.moves {call : CursorCall} {next : PlainCursor}
    {result : Outcome Error (Option Bool) × Cursor ρ × σ}
    (step : Step ask mode call plain state result next) (supported : mode.supports call = true)
    (reliable : Paging.Reliable rows ask (paging state)) :
    result.1 = .ok (plain.answer call) ∧ next = plain.move call ∧
      Paging.Reliable rows ask (paging result.2) := by
  cases step with
  | moved _ run => exact ⟨rfl, rfl, reliable.after run⟩
  | failed _ _ run _ => exact (reliable.not_refused run).elim
  | unsupported unknown =>
    rw [supported] at unknown
    contradiction

/-- A cursor whose calls go along with a plain cursor, over a source that refuses nothing, yields the rows
that the plain cursor has ahead. -/
theorem yields_of_invariant {Holds : PlainCursor → Cursor ρ × σ → Prop}
    (agrees : ∀ {plain state}, Holds plain state → plain.Agrees state.1)
    (step : ∀ {plain state}, Holds plain state →
      ∃ next, Step ask mode .next plain state (perform .next state) next ∧ Holds next (perform .next state).2)
    {items : List Row} (holds : Holds plain state) (range : plain.InRange)
    (reliable : Paging.Reliable rows ask (paging state))
    (ahead : plain.ahead.map Visit.row = items.map some) : Op.Yields nextRow items state := by
  induction items generalizing plain state with
  | nil =>
    obtain ⟨next, stepped, -⟩ := step holds
    obtain ⟨answered, -, -⟩ := stepped.moves (by cases mode <;> rfl) reliable
    rcases performed : perform .next state with ⟨answer, after⟩
    rw [performed] at answered
    subst answered
    have off : (plain.move .next).onRow = false := by
      by_contra there
      rw [PlainCursor.ahead_of_onRow range (by simpa using there)] at ahead
      cases ahead
    have read := nextRow_apply state performed
    rw [off] at read
    exact .done read
  | cons item items ih =>
    obtain ⟨next, stepped, kept⟩ := step holds
    obtain ⟨answered, rfl, still⟩ := stepped.moves (by cases mode <;> rfl) reliable
    rcases performed : perform .next state with ⟨answer, after⟩
    rw [performed] at answered kept still
    subst answered
    have there : (plain.move .next).onRow = true := by
      by_contra off
      rw [(PlainCursor.ahead_of_not_onRow range (by simpa using off)).1] at ahead
      cases ahead
    rw [PlainCursor.ahead_of_onRow range there] at ahead
    obtain ⟨here, others⟩ := List.cons.inj ahead
    refine .item ?_ (ih kept (PlainCursor.goTo_inRange _ _) still others)
    rw [nextRow_apply state performed, there, (agrees kept).current_eq]
    exact congrArg (fun row => (Except.ok row, after)) here

/-- A cursor that is opened over the first page of a result yields the shown rows. -/
theorem open_yields {first : Page} {source : σ} (statement : UInt64) (options : FetchOptions)
    (ownsStatement : Bool) (bounded : rows.length ≤ ScrollableCursor.mostRows) (shows : first.Shows rows 0)
    (reliable : Paging.Reliable rows (options.ask statement)
      ⟨UInt64.ofNat first.rows.length, none, source⟩) :
    ∃ cursor opened, «open» statement first options ownsStatement source = (.ok cursor, opened) ∧
      Op.Yields nextRow (options.shown rows) (cursor, opened) := by
  have range : PlainCursor.InRange ⟨options.shown rows, -1⟩ :=
    ⟨Int.le_refl _, by change (-1 : Int) ≤ (options.shown rows).length; omega⟩
  cases mode : options.mode with
  | forward =>
    obtain ⟨cursor, opened, begun, holds, run⟩ := HoldsForward.of_open statement options ownsStatement
      (Nat.lt_of_le_of_lt bounded (by decide)) mode shows reliable.honest
    refine ⟨cursor, opened, begun, ?_⟩
    exact yields_of_invariant HoldsForward.agrees (HoldsForward.step .next (by decide)) holds range
      (reliable.after run) (PlainCursor.ahead_start _)
  | scrollable =>
    obtain ⟨cursor, opened, begun, holds, run⟩ :=
      HoldsScrollable.of_open statement options ownsStatement bounded mode shows reliable.honest
    refine ⟨cursor, opened, begun, ?_⟩
    exact yields_of_invariant HoldsScrollable.agrees (HoldsScrollable.step .next (by decide)) holds range
      (reliable.after run) (PlainCursor.ahead_start _)

end Cursor

end PagedResults
