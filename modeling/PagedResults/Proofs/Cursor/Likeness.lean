import PagedResults.Proofs.Cursor.Forward
import PagedResults.Proofs.Cursor.Scrollable
import PagedResults.Proofs.Supply.Likeness

/-! # Cursors that stay alike

A cursor knows of its source only what its supply learns. Two cursors over related supplies answer every
sequence of calls alike and show the same rows at the same places, and what relates their supplies lasts
for ever. Every operation of both modes is followed here once, for all relations and all invariants.
-/

namespace PagedResults

/-! ## Forward cursors -/

namespace ForwardCursor

variable {σ ρ τ υ : Type}

/-- Two cursors with the same rows at the same place, over related supplies. -/
structure Like (Rel : Supply ρ × σ → Supply υ × τ → Prop) (left : ForwardCursor ρ × σ)
    (right : ForwardCursor υ × τ) : Prop where
  supply : Rel (left.1.supply, left.2) (right.1.supply, right.2)
  buffer_eq : left.1.buffer = right.1.buffer
  current_eq : left.1.current = right.1.current
  consumed_eq : left.1.consumed = right.1.consumed
  afterLast_eq : left.1.afterLast = right.1.afterLast
  /-- Only rows that were handed on are at hand or were visited. -/
  seen_le : left.1.consumed + left.1.buffer.length ≤ left.1.supply.surfaced

/-- Two such cursors that are not closed. -/
def OpenLike (Rel : Supply ρ × σ → Supply υ × τ → Prop) (left : ForwardCursor ρ × σ)
    (right : ForwardCursor υ × τ) : Prop :=
  Like Rel left right ∧ left.1.supply.closed = false

variable [PageSource σ ρ] [PageSource τ υ] {Rel : Supply ρ × σ → Supply υ × τ → Prop}
  {left : ForwardCursor ρ × σ} {right : ForwardCursor υ × τ}

omit [PageSource σ ρ] [PageSource τ υ] in
/-- Replacing the supplies by related ones that handed on no fewer rows. -/
theorem Like.resupplied (like : Like Rel left right) {supply : Supply ρ × σ} {supply' : Supply υ × τ}
    (related : Rel supply supply') (surfaced : left.1.supply.surfaced ≤ supply.1.surfaced) :
    Like Rel ({ left.1 with supply := supply.1 }, supply.2)
      ({ right.1 with supply := supply'.1 }, supply'.2) :=
  { like with supply := related, seen_le := like.seen_le.trans surfaced }

/-- What comes behind the check that a cursor is open runs only on open cursors. -/
theorem checked_alike {α : Type} (likeness : Supply.Likeness Rel) (like : Like Rel left right)
    {next : Op Error (ForwardCursor ρ × σ) α} {next' : Op Error (ForwardCursor υ × τ) α}
    (rest : OpenLike Rel left right → Op.Alike (OpenLike Rel) (next left) (next' right)) :
    Op.Alike (Like Rel) ((do onSupply Supply.checkOpen; next) left)
      ((do onSupply Supply.checkOpen; next') right) := by
  have same : left.1.supply.closed = right.1.supply.closed := likeness.closed_eq like.supply
  rw [Op.bind_apply, Op.bind_apply, onSupply_apply, onSupply_apply, Supply.checkOpen, Supply.checkOpen]
  cases isOpen : left.1.supply.closed with
  | true => simpa only [← same, isOpen, if_true] using ⟨rfl, like⟩
  | false =>
    have came := (rest ⟨like, isOpen⟩).mono fun _ _ like => like.1
    simpa only [← same, isOpen, Bool.false_eq_true, if_false] using came

private theorem refill_alike (likeness : Supply.Likeness Rel) (like : OpenLike Rel left right) :
    Op.Alike (OpenLike Rel) (refill left) (refill right) := by
  obtain ⟨cursor, source⟩ := left
  obtain ⟨cursor', source'⟩ := right
  obtain ⟨like, isOpen⟩ := like
  have condition : (cursor'.buffer.isEmpty &&
      (cursor'.supply.inFlight.isSome || !cursor'.supply.exhausted)) =
      (cursor.buffer.isEmpty && (cursor.supply.inFlight.isSome || !cursor.supply.exhausted)) := by
    rw [like.buffer_eq, ← likeness.busy_eq like.supply, ← likeness.exhausted_eq like.supply]
  apply Op.Alike.get_bind
  dsimp only
  rw [condition]
  split
  · rcases fetched : Supply.fetchNow (cursor.supply, source) with ⟨outcome, supply⟩
    obtain ⟨supply', fetched', related, closed, surfaced⟩ := likeness.fetchNow like.supply isOpen fetched
    rw [Op.bind_apply, Op.bind_apply, onSupply_apply, onSupply_apply, fetched, fetched']
    have resupplied := like.resupplied related (by rw [surfaced]; exact Nat.le_add_right _ _)
    cases outcome with
    | error failure => exact ⟨rfl, resupplied, closed⟩
    | ok rows =>
      have handed : supply.1.surfaced = cursor.supply.surfaced + rows.length := surfaced
      have seen := like.seen_le
      refine ⟨rfl, { resupplied with buffer_eq := congrArg (· ++ rows) like.buffer_eq, seen_le := ?_ }, closed⟩
      change cursor.consumed + (cursor.buffer ++ rows).length ≤ supply.1.surfaced
      rw [List.length_append]
      dsimp only at seen
      omega
  · exact ⟨rfl, like, isOpen⟩

omit [PageSource σ ρ] [PageSource τ υ] in
private theorem advance_alike (like : Like Rel left right) :
    (advance left.1).1 = (advance right.1).1 ∧
      Like Rel ((advance left.1).2, left.2) ((advance right.1).2, right.2) := by
  have seen := like.seen_le
  unfold advance
  rw [← like.buffer_eq]
  cases held : left.1.buffer with
  | nil =>
    rw [held] at seen
    exact ⟨rfl, { like with buffer_eq := rfl, current_eq := rfl, afterLast_eq := rfl, seen_le := seen }⟩
  | cons row rest =>
    rw [held, List.length_cons] at seen
    refine ⟨rfl, { like with buffer_eq := rfl, current_eq := rfl, consumed_eq := ?_, seen_le := ?_ }⟩
    · exact congrArg (· + 1) like.consumed_eq
    · dsimp only
      omega

/-- Beginning to fetch the next page. -/
theorem prefetch_alike (likeness : Supply.Likeness Rel) (like : OpenLike Rel left right) :
    Op.Alike (OpenLike Rel) (onSupply (modify Supply.prefetch) left)
      (onSupply (modify Supply.prefetch) right) := by
  obtain ⟨like, isOpen⟩ := like
  refine ⟨rfl, like.resupplied (likeness.prefetch like.supply isOpen) ?_, ?_⟩
  · exact (Supply.prefetch_surfaced (left.1.supply, left.2)).ge
  · exact (Supply.prefetch_closed (left.1.supply, left.2)).trans isOpen

private theorem next_alike (likeness : Supply.Likeness Rel) (like : Like Rel left right) :
    Op.Alike (Like Rel) (next left) (next right) := by
  obtain ⟨cursor, source⟩ := left
  obtain ⟨cursor', source'⟩ := right
  have step (left : ForwardCursor ρ × σ) (right : ForwardCursor υ × τ) (like : OpenLike Rel left right) :
      Op.Alike (OpenLike Rel)
        ((do refill; modifyGet fun state => ((advance state.1).1, (advance state.1).2, state.2) :
          Op Error _ Bool) left)
        ((do refill; modifyGet fun state => ((advance state.1).1, (advance state.1).2, state.2) :
          Op Error _ Bool) right) := by
    refine (refill_alike likeness like).bind fun _ left right like => ?_
    obtain ⟨same, moved⟩ := advance_alike like.1
    refine ⟨congrArg Except.ok same, moved, Eq.trans ?_ like.2⟩
    change (advance left.1).2.supply.closed = _
    unfold advance
    split <;> rfl
  refine checked_alike likeness like fun openLike => ?_
  apply Op.Alike.get_bind
  have afterLast : cursor.afterLast = cursor'.afterLast := like.afterLast_eq
  have buffer : cursor.buffer = cursor'.buffer := like.buffer_eq
  have options : cursor.supply.options = cursor'.supply.options := likeness.options_eq like.supply
  dsimp only
  rw [← afterLast, ← buffer, ← options]
  split
  · exact Op.Alike.pure _ openLike
  · split
    · exact (prefetch_alike likeness openLike).bind fun _ left right like => step left right like
    · exact step _ _ openLike

private theorem isLast_alike (likeness : Supply.Likeness Rel) (like : Like Rel left right) :
    Op.Alike (Like Rel) (isLast left) (isLast right) := by
  obtain ⟨cursor, source⟩ := left
  obtain ⟨cursor', source'⟩ := right
  refine checked_alike likeness like fun openLike => ?_
  apply Op.Alike.get_bind
  have current : cursor.current = cursor'.current := like.current_eq
  dsimp only
  rw [← current]
  split
  · exact Op.Alike.pure _ openLike
  · refine (refill_alike likeness openLike).bind fun _ left right like => Op.Alike.get_bind ?_
    rw [← like.1.buffer_eq]
    exact Op.Alike.pure _ like

private theorem close_alike (likeness : Supply.Likeness Rel) (like : Like Rel left right) :
    Op.Alike (Like Rel) (close left) (close right) := by
  have closed := likeness.close like.supply
  refine ⟨closed.1, closed.2.1, rfl, rfl, like.consumed_eq, like.afterLast_eq, ?_⟩
  have seen := like.seen_le
  change left.1.consumed + 0 ≤ (Supply.close (left.1.supply, left.2)).2.1.surfaced
  rw [Supply.close_surfaced]
  dsimp only
  omega

end ForwardCursor

/-! ## Scrollable cursors -/

namespace ScrollableCursor

variable {σ ρ τ υ : Type}

/-- Two cursors with the same rows at the same place, over related supplies. -/
structure Like (Rel : Supply ρ × σ → Supply υ × τ → Prop) (left : ScrollableCursor ρ × σ)
    (right : ScrollableCursor υ × τ) : Prop where
  supply : Rel (left.1.supply, left.2) (right.1.supply, right.2)
  rows_eq : left.1.rows = right.1.rows
  index_eq : left.1.index = right.1.index
  /-- Only rows that were handed on are kept. -/
  seen_le : left.1.rows.size ≤ left.1.supply.surfaced

/-- Two such cursors that are not closed. -/
def OpenLike (Rel : Supply ρ × σ → Supply υ × τ → Prop) (left : ScrollableCursor ρ × σ)
    (right : ScrollableCursor υ × τ) : Prop :=
  Like Rel left right ∧ left.1.supply.closed = false

variable {Rel : Supply ρ × σ → Supply υ × τ → Prop} {left : ScrollableCursor ρ × σ}
  {right : ScrollableCursor υ × τ}

/-- Replacing the supplies by related ones that handed on no fewer rows. -/
theorem Like.resupplied (like : Like Rel left right) {supply : Supply ρ × σ} {supply' : Supply υ × τ}
    (related : Rel supply supply') (surfaced : left.1.supply.surfaced ≤ supply.1.surfaced) :
    Like Rel ({ left.1 with supply := supply.1 }, supply.2)
      ({ right.1 with supply := supply'.1 }, supply'.2) :=
  { like with supply := related, seen_le := like.seen_le.trans surfaced }

/-- Keeping rows that related supplies have handed on. -/
theorem Like.keep (like : Like Rel left right) {supply : Supply ρ × σ} {supply' : Supply υ × τ}
    (related : Rel supply supply') {rows : List Row}
    (surfaced : supply.1.surfaced = left.1.supply.surfaced + rows.length) :
    Like Rel (keep rows { left.1 with supply := supply.1 }, supply.2)
      (keep rows { right.1 with supply := supply'.1 }, supply'.2) where
  supply := related
  rows_eq := congrArg (· ++ rows.toArray) like.rows_eq
  index_eq := like.index_eq
  seen_le := by
    have seen := like.seen_le
    rw [ScrollableCursor.keep, Array.size_append, List.size_toArray, surfaced]
    exact Nat.add_le_add_right seen _

theorem Like.length_eq (like : Like Rel left right) : left.1.length = right.1.length :=
  congrArg (fun rows : Array Row => Int64.ofNat rows.size) like.rows_eq

theorem Like.onRow_eq (like : Like Rel left right) : left.1.onRow = right.1.onRow := by
  rw [onRow, onRow, like.index_eq, like.length_eq]

variable [PageSource σ ρ] [PageSource τ υ]

/-- What comes behind the check that a cursor is open runs only on open cursors. -/
theorem checked_alike {α : Type} (likeness : Supply.Likeness Rel) (like : Like Rel left right)
    {next : Op Error (ScrollableCursor ρ × σ) α} {next' : Op Error (ScrollableCursor υ × τ) α}
    (rest : OpenLike Rel left right → Op.Alike (OpenLike Rel) (next left) (next' right)) :
    Op.Alike (Like Rel) ((do onSupply Supply.checkOpen; next) left)
      ((do onSupply Supply.checkOpen; next') right) := by
  have same : left.1.supply.closed = right.1.supply.closed := likeness.closed_eq like.supply
  rw [Op.bind_apply, Op.bind_apply, onSupply_apply, onSupply_apply, Supply.checkOpen, Supply.checkOpen]
  cases isOpen : left.1.supply.closed with
  | true => simpa only [← same, isOpen, if_true] using ⟨rfl, like⟩
  | false =>
    have came := (rest ⟨like, isOpen⟩).mono fun _ _ like => like.1
    simpa only [← same, isOpen, Bool.false_eq_true, if_false] using came

/-- Beginning to fetch the next page. -/
theorem prefetch_alike (likeness : Supply.Likeness Rel) (like : OpenLike Rel left right) :
    Op.Alike (OpenLike Rel) (onSupply (modify Supply.prefetch) left)
      (onSupply (modify Supply.prefetch) right) := by
  obtain ⟨like, isOpen⟩ := like
  refine ⟨rfl, like.resupplied (likeness.prefetch like.supply isOpen) ?_, ?_⟩
  · exact (Supply.prefetch_surfaced (left.1.supply, left.2)).ge
  · exact (Supply.prefetch_closed (left.1.supply, left.2)).trans isOpen

private theorem mergeInFlight_alike (likeness : Supply.Likeness Rel) (like : OpenLike Rel left right) :
    Op.Alike (OpenLike Rel) (mergeInFlight left) (mergeInFlight right) := by
  obtain ⟨like, isOpen⟩ := like
  obtain ⟨outcome, supply, supply', came, came', related⟩ := (likeness.join like.supply isOpen).elim
  obtain ⟨closed, surfaced⟩ := Supply.join_counts (left.1.supply, left.2)
  rw [came] at closed surfaced
  rw [mergeInFlight, mergeInFlight, Op.bind_apply, Op.bind_apply, onSupply_apply, onSupply_apply, came, came']
  have resupplied := like.resupplied related (by rw [surfaced]; exact Nat.le_add_right _ _)
  rcases outcome with failure | _ | rows
  · exact ⟨rfl, resupplied, closed.trans isOpen⟩
  · exact ⟨rfl, resupplied, closed.trans isOpen⟩
  · have size : left.1.rows = right.1.rows := like.rows_eq
    by_cases full : mostRows < left.1.rows.size + rows.length
    · have full' : mostRows < right.1.rows.size + rows.length := size ▸ full
      simp only [extend, if_pos full, if_pos full']
      exact ⟨rfl, resupplied, closed.trans isOpen⟩
    · have fits' : ¬ mostRows < right.1.rows.size + rows.length := size ▸ full
      simp only [extend, if_neg full, if_neg fits']
      exact ⟨rfl, like.keep related surfaced, closed.trans isOpen⟩

/-- Both cursors have read enough or neither has. -/
theorem OpenLike.done_eq (like : OpenLike Rel left right)
    (likeness : Supply.Likeness Rel) (enough : Nat → Bool) :
    (enough left.1.rows.size || left.1.supply.exhausted) =
      (enough right.1.rows.size || right.1.supply.exhausted) := by
  have exhausted : left.1.supply.exhausted = right.1.supply.exhausted :=
    likeness.exhausted_eq like.1.supply
  rw [like.1.rows_eq, exhausted]

private theorem readUntil_alike (likeness : Supply.Likeness Rel) (enough : Nat → Bool)
    {cursor : ScrollableCursor ρ} {cursor' : ScrollableCursor υ} {source : σ} {source' : τ}
    (like : OpenLike Rel (cursor, source) (cursor', source')) :
    Op.Alike (OpenLike Rel) (readUntil enough cursor source) (readUntil enough cursor' source') := by
  -- along the reading of the one cursor; the other one takes the same branch each time, as the tests look
  -- only at what the two have in common
  fun_induction readUntil enough cursor source generalizing cursor' source' with
  | case1 cursor source done =>
    rw [like.done_eq likeness enough] at done
    rw [readUntil, if_pos done]
    exact ⟨rfl, like⟩
  | case2 cursor source more failure supply next refused =>
    obtain ⟨supply', refused', related, closed, surfaced⟩ := likeness.fetchNow like.1.supply like.2 refused
    rw [like.done_eq likeness enough] at more
    rw [readUntil, if_neg more, refused']
    exact ⟨rfl, like.1.resupplied related (by rw [surfaced]; exact Nat.le_add_right _ _), closed⟩
  | case3 cursor source more supply next fetched =>
    obtain ⟨supply', fetched', related, closed, surfaced⟩ := likeness.fetchNow like.1.supply like.2 fetched
    rw [like.done_eq likeness enough] at more
    rw [readUntil, if_neg more, fetched']
    exact ⟨rfl, like.1.resupplied related (by rw [surfaced]; exact Nat.le_add_right _ _), closed⟩
  | case4 cursor source more added supply next fetched someRow full =>
    obtain ⟨supply', fetched', related, closed, surfaced⟩ := likeness.fetchNow like.1.supply like.2 fetched
    rw [like.done_eq likeness enough] at more
    have size : cursor.rows = cursor'.rows := like.1.rows_eq
    rw [size] at full
    rw [readUntil, if_neg more, fetched']
    simp only [if_neg someRow, if_pos full]
    exact ⟨rfl, like.1.resupplied related (by rw [surfaced]; exact Nat.le_add_right _ _), closed⟩
  | case5 cursor source more added supply next fetched someRow fits ih =>
    obtain ⟨supply', fetched', related, closed, surfaced⟩ := likeness.fetchNow like.1.supply like.2 fetched
    rw [like.done_eq likeness enough] at more
    have size : cursor.rows = cursor'.rows := like.1.rows_eq
    rw [size] at fits
    rw [readUntil.eq_1 enough cursor', if_neg more, fetched']
    simp only [if_neg someRow, if_neg fits]
    exact ih ⟨like.1.keep related surfaced, closed⟩

private theorem materializeTo_alike (likeness : Supply.Likeness Rel) (target : Int64)
    (like : OpenLike Rel left right) :
    Op.Alike (OpenLike Rel) (materializeTo target left) (materializeTo target right) := by
  apply Op.Alike.get_bind
  have length : left.1.length = right.1.length := like.1.length_eq
  dsimp only
  rw [← length]
  split
  · exact Op.Alike.pure _ like
  · refine (mergeInFlight_alike likeness like).bind fun _ left right like => ?_
    refine Op.Alike.bind (readUntil_alike likeness _ like) fun _ left right like => ?_
    apply Op.Alike.get_bind
    rw [← like.1.length_eq]
    exact Op.Alike.pure _ like

private theorem drain_alike (likeness : Supply.Likeness Rel) (like : OpenLike Rel left right) :
    Op.Alike (OpenLike Rel) (drain left) (drain right) := by
  refine (mergeInFlight_alike likeness like).bind fun _ left right like => ?_
  refine Op.Alike.bind (readUntil_alike likeness _ like) fun _ left right like => ?_
  apply Op.Alike.get_bind
  have rows : left.1.rows = right.1.rows := like.1.rows_eq
  dsimp only
  rw [← rows]
  exact ⟨rfl, { like.1 with supply := likeness.note _ like.1.supply }, like.2⟩

omit [PageSource σ ρ] [PageSource τ υ] in
private theorem goTo_alike (index : ScrollableCursor ρ → Int64) (index' : ScrollableCursor υ → Int64)
    (like : OpenLike Rel left right) (same : index left.1 = index' right.1) :
    Op.Alike (OpenLike Rel) (update (fun cursor => { cursor with index := index cursor }) left)
      (update (fun cursor => { cursor with index := index' cursor }) right) :=
  ⟨rfl, { like.1 with index_eq := same }, like.2⟩

private theorem moveTo_alike (likeness : Supply.Likeness Rel) (target : Int64) (like : OpenLike Rel left right) :
    Op.Alike (OpenLike Rel) (moveTo target left) (moveTo target right) := by
  rw [moveTo, moveTo]
  split
  · exact (goTo_alike _ _ like rfl).bind fun _ left right like => Op.Alike.pure _ like
  · refine (materializeTo_alike likeness target like).bind fun found left right like => ?_
    have same : (if found then target else left.1.length) = if found then target else right.1.length := by
      rw [like.1.length_eq]
    exact (goTo_alike _ _ like same).bind fun _ left right like => Op.Alike.pure _ like

/-- What is left of a move to the next row. -/
def stepTo (target : Int64) : Op Error (ScrollableCursor ρ × σ) Bool := do
  let _ ← materializeTo target
  update fun cursor => { cursor with index := min target cursor.length }
  return (← get).1.onRow

private theorem next_alike (likeness : Supply.Likeness Rel) (like : Like Rel left right) :
    Op.Alike (Like Rel) (next left) (next right) := by
  obtain ⟨cursor, source⟩ := left
  obtain ⟨cursor', source'⟩ := right
  refine checked_alike likeness like fun openLike => ?_
  apply Op.Alike.get_bind
  have index : cursor.index = cursor'.index := like.index_eq
  have length : cursor.length = cursor'.length := like.length_eq
  have options : cursor.supply.options = cursor'.supply.options := likeness.options_eq like.supply
  dsimp only
  rw [← index, ← length, ← options]
  split
  · exact Op.Alike.pure _ openLike
  · have step (left : ScrollableCursor ρ × σ) (right : ScrollableCursor υ × τ)
        (like : OpenLike Rel left right) :
        Op.Alike (OpenLike Rel) (stepTo (cursor.index + 1) left) (stepTo (cursor.index + 1) right) := by
      refine (materializeTo_alike likeness _ like).bind fun _ left right like => ?_
      refine (goTo_alike _ _ like (by rw [like.1.length_eq])).bind fun _ left right like => ?_
      apply Op.Alike.get_bind
      rw [← like.1.onRow_eq]
      exact Op.Alike.pure _ like
    split
    · exact (prefetch_alike likeness openLike).bind fun _ left right like => step left right like
    · exact step _ _ openLike

private theorem isLast_alike (likeness : Supply.Likeness Rel) (like : Like Rel left right) :
    Op.Alike (Like Rel) (isLast left) (isLast right) := by
  obtain ⟨cursor, source⟩ := left
  obtain ⟨cursor', source'⟩ := right
  refine checked_alike likeness like fun openLike => ?_
  apply Op.Alike.get_bind
  have index : cursor.index = cursor'.index := like.index_eq
  have onRow : cursor.onRow = cursor'.onRow := like.onRow_eq
  dsimp only
  rw [← index, ← onRow]
  split
  · exact Op.Alike.pure _ openLike
  · exact (materializeTo_alike likeness _ openLike).bind fun _ left right like => Op.Alike.pure _ like

private theorem absolute_alike (likeness : Supply.Likeness Rel) (row : Int64) (like : Like Rel left right) :
    Op.Alike (Like Rel) (absolute row left) (absolute row right) := by
  refine checked_alike likeness like fun openLike => ?_
  split
  · exact (goTo_alike _ _ openLike rfl).bind fun _ left right like => Op.Alike.pure _ like
  · split
    · exact moveTo_alike likeness _ openLike
    · refine (drain_alike likeness openLike).bind fun _ left right like => ?_
      apply Op.Alike.get_bind
      rw [← like.1.length_eq]
      exact moveTo_alike likeness _ like

private theorem relative_alike (likeness : Supply.Likeness Rel) (offset : Int64) (like : Like Rel left right) :
    Op.Alike (Like Rel) (relative offset left) (relative offset right) := by
  obtain ⟨cursor, source⟩ := left
  obtain ⟨cursor', source'⟩ := right
  refine checked_alike likeness like fun openLike => ?_
  apply Op.Alike.get_bind
  have index : cursor.index = cursor'.index := like.index_eq
  have onRow : cursor.onRow = cursor'.onRow := like.onRow_eq
  dsimp only
  rw [← index, ← onRow]
  split
  · exact Op.Alike.pure _ openLike
  · exact moveTo_alike likeness _ openLike

private theorem afterLast_alike (likeness : Supply.Likeness Rel) (like : Like Rel left right) :
    Op.Alike (Like Rel) (afterLast left) (afterLast right) := by
  refine checked_alike likeness like fun openLike => ?_
  refine (drain_alike likeness openLike).bind fun _ left right like => ?_
  exact goTo_alike _ _ like like.1.length_eq

private theorem close_alike (likeness : Supply.Likeness Rel) (like : Like Rel left right) :
    Op.Alike (Like Rel) (close left) (close right) := by
  have closed := likeness.close like.supply
  exact ⟨closed.1, closed.2.1, rfl, rfl, Nat.zero_le _⟩

end ScrollableCursor

/-! ## Cursors of either mode -/

namespace Cursor

variable {σ ρ τ υ : Type} 

/-- Two cursors of the same mode with the same rows at the same place, over related supplies. -/
inductive Like (Rel : Supply ρ × σ → Supply υ × τ → Prop) : Cursor ρ × σ → Cursor υ × τ → Prop
  | forward {left : ForwardCursor ρ} {right : ForwardCursor υ} {source : σ} {source' : τ}
      (like : ForwardCursor.Like Rel (left, source) (right, source')) :
      Like Rel (.forward left, source) (.forward right, source')
  | scrollable {left : ScrollableCursor ρ} {right : ScrollableCursor υ} {source : σ} {source' : τ}
      (like : ScrollableCursor.Like Rel (left, source) (right, source')) :
      Like Rel (.scrollable left, source) (.scrollable right, source')

/-- The number of rows that were visited or are at hand. -/
def seen : Cursor ρ → Nat
  | .forward cursor => cursor.consumed + cursor.buffer.length
  | .scrollable cursor => cursor.rows.size

variable {Rel : Supply ρ × σ → Supply υ × τ → Prop} {left : Cursor ρ × σ} {right : Cursor υ × τ}

theorem Like.supply (like : Like Rel left right) :
    Rel (left.1.supply, left.2) (right.1.supply, right.2) := by
  cases like with
  | forward like => exact like.supply
  | scrollable like => exact like.supply

/-- A cursor is like itself, whatever is known about its supply. -/
theorem Like.self (like : Like Rel left right) {Known : Supply ρ × σ → Supply ρ × σ → Prop}
    (known : Known (left.1.supply, left.2) (left.1.supply, left.2)) : Like Known left left := by
  cases like with
  | forward like => exact .forward ⟨known, rfl, rfl, rfl, rfl, like.seen_le⟩
  | scrollable like => exact .scrollable ⟨known, rfl, rfl, like.seen_le⟩

/-- Cursors stay alike over other sources if their supplies are related there. -/
theorem Like.over {cursor : Cursor ρ} {cursor' : Cursor υ} {source after : σ} {source' after' : τ}
    {Other : Supply ρ × σ → Supply υ × τ → Prop} (like : Like Rel (cursor, source) (cursor', source'))
    (related : Other (cursor.supply, after) (cursor'.supply, after')) :
    Like Other (cursor, after) (cursor', after') := by
  cases like with
  | forward like => exact .forward { like with supply := related }
  | scrollable like => exact .scrollable { like with supply := related }

theorem Like.seen_le (like : Like Rel left right) : left.1.seen ≤ left.1.supply.surfaced := by
  cases like with
  | forward like => exact like.seen_le
  | scrollable like => exact like.seen_le

theorem Like.current_eq (like : Like Rel left right) : left.1.current = right.1.current := by
  cases like with
  | forward like => exact like.current_eq
  | scrollable like =>
    have rows : _ = _ := like.rows_eq
    have index : _ = _ := like.index_eq
    simp only [current, ScrollableCursor.current]
    rw [rows, index]

theorem Like.position_eq (like : Like Rel left right) : left.1.position = right.1.position := by
  cases like with
  | forward like =>
    have consumed : _ = _ := like.consumed_eq
    have afterLast : _ = _ := like.afterLast_eq
    simp only [position, ForwardCursor.position]
    rw [consumed, afterLast]
  | scrollable like => exact congrArg Int64.toInt like.index_eq

variable [PageSource σ ρ] [PageSource τ υ]

/-- Cursors that are opened over supplies with the same first rows are alike. -/
theorem open_alike {statement statement' : UInt64} {first first' : Page} {options : FetchOptions}
    {ownsStatement ownsStatement' : Bool} {source : σ} {source' : τ} {rows : List Row} 
    {supply : Supply ρ × σ} {supply' : Supply υ × τ}
    (taken : Supply.ofFirst statement first options ownsStatement source = (.ok rows, supply))
    (taken' : Supply.ofFirst statement' first' options ownsStatement' source' = (.ok rows, supply'))
    (related : Rel supply supply') :
    ∃ cursor cursor', «open» statement first options ownsStatement source = (.ok cursor, supply.2) ∧
      «open» statement' first' options ownsStatement' source' = (.ok cursor', supply'.2) ∧
      Like Rel (cursor, supply.2) (cursor', supply'.2) := by
  have surfaced : supply.1.surfaced = rows.length := by
    have counted := (Supply.accept_counts first
      { statement, options, ownsStatement, nextOffset := first.offset } source).2
    rw [Supply.ofFirst] at taken
    rw [taken] at counted
    exact counted.trans (Nat.zero_add _)
  rw [«open», «open», taken, taken']
  cases options.mode with
  | forward =>
    exact ⟨_, _, rfl, rfl, .forward ⟨related, rfl, rfl, rfl, rfl, (Nat.zero_add _).trans_le surfaced.ge⟩⟩
  | scrollable =>
    exact ⟨_, _, rfl, rfl, .scrollable ⟨related, rfl, rfl, surfaced.ge⟩⟩

private theorem performForward_alike (likeness : Supply.Likeness Rel) (call : CursorCall)
    {left : ForwardCursor ρ × σ} {right : ForwardCursor υ × τ} (like : ForwardCursor.Like Rel left right) :
    Op.Alike (ForwardCursor.Like Rel) (performForward call left) (performForward call right) := by
  cases call with
  | next => exact (ForwardCursor.next_alike likeness like).map some
  | isLast => exact (ForwardCursor.isLast_alike likeness like).map some
  | close => exact (ForwardCursor.close_alike likeness like).bind fun _ left right like => Op.Alike.pure _ like
  | _ => exact ⟨rfl, like⟩

private theorem performScrollable_alike (likeness : Supply.Likeness Rel) (call : CursorCall)
    {left : ScrollableCursor ρ × σ} {right : ScrollableCursor υ × τ}
    (like : ScrollableCursor.Like Rel left right) :
    Op.Alike (ScrollableCursor.Like Rel) (performScrollable call left) (performScrollable call right) := by
  cases call with
  | next => exact (ScrollableCursor.next_alike likeness like).map some
  | isLast => exact (ScrollableCursor.isLast_alike likeness like).map some
  | previous => exact (ScrollableCursor.relative_alike likeness _ like).map some
  | first => exact (ScrollableCursor.absolute_alike likeness _ like).map some
  | last => exact (ScrollableCursor.absolute_alike likeness _ like).map some
  | absolute row => exact (ScrollableCursor.absolute_alike likeness row like).map some
  | relative offset => exact (ScrollableCursor.relative_alike likeness offset like).map some
  | beforeFirst =>
    exact (ScrollableCursor.absolute_alike likeness 0 like).bind fun _ left right like => Op.Alike.pure _ like
  | afterLast =>
    exact (ScrollableCursor.afterLast_alike likeness like).bind fun _ left right like => Op.Alike.pure _ like
  | close =>
    exact (ScrollableCursor.close_alike likeness like).bind fun _ left right like => Op.Alike.pure _ like

/-- Cursors over related supplies answer every call alike. -/
theorem perform_alike (likeness : Supply.Likeness Rel) (call : CursorCall) (like : Like Rel left right) :
    Op.Alike (Like Rel) (perform call left) (perform call right) := by
  cases like with
  | forward like =>
    have performed := performForward_alike likeness call like
    exact ⟨performed.1, .forward performed.2⟩
  | scrollable like =>
    have performed := performScrollable_alike likeness call like
    exact ⟨performed.1, .scrollable performed.2⟩

/-- A cursor and its source after a sequence of calls. -/
def after (calls : List CursorCall) (state : Cursor ρ × σ) : Cursor ρ × σ :=
  calls.foldl (fun state call => (perform call state).2) state

/-- What a caller sees of a turn: the answer, the row under the cursor, and its place. -/
def Turn.sight (turn : Turn ρ) : Outcome Error (Option Bool) × Option Row × Int :=
  (turn.answer, turn.cursor.current, turn.cursor.position)

theorem after_append (calls later : List CursorCall) (state : Cursor ρ × σ) :
    after (calls ++ later) state = after later (after calls state) :=
  List.foldl_append

/-- Closing a cursor closes its supply. -/
theorem supply_perform_close (state : Cursor ρ × σ) :
    ((perform .close state).2.1.supply, (perform .close state).2.2) =
      (Supply.close (state.1.supply, state.2)).2 := by
  obtain ⟨cursor | cursor, source⟩ := state
  · rcases closed : Supply.close (cursor.supply, source) with ⟨_ | _, supply⟩ <;>
      simp [perform, performForward, ForwardCursor.close, Op.bind_apply, ForwardCursor.update,
        Op.modify_apply, ForwardCursor.onSupply_apply, Cursor.supply, closed, Op.pure_apply]
  · rcases closed : Supply.close (cursor.supply, source) with ⟨_ | _, supply⟩ <;>
      simp [perform, performScrollable, ScrollableCursor.close, Op.bind_apply, ScrollableCursor.update,
        Op.modify_apply, ScrollableCursor.onSupply_apply, Cursor.supply, closed, Op.pure_apply]

/-- Cursors over related supplies stay alike through every sequence of calls. -/
theorem after_alike (likeness : Supply.Likeness Rel) (calls : List CursorCall) (like : Like Rel left right) :
    Like Rel (after calls left) (after calls right) := by
  induction calls generalizing left right with
  | nil => exact like
  | cons call calls ih => exact ih (perform_alike likeness call like).2

/-- Nobody can tell cursors over related supplies apart. -/
theorem history_alike (likeness : Supply.Likeness Rel) (calls : List CursorCall) (like : Like Rel left right) :
    (history calls left).map Turn.sight = (history calls right).map Turn.sight := by
  induction calls generalizing left right with
  | nil => rfl
  | cons call calls ih =>
    have performed := perform_alike likeness call like
    rw [history_cons, history_cons, List.map_cons, List.map_cons, ih performed.2]
    refine congrArg (· :: _) ?_
    exact Prod.ext performed.1 (Prod.ext performed.2.current_eq performed.2.position_eq)

end Cursor

end PagedResults
