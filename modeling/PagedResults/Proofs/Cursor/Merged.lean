import PagedResults.Proofs.Cursor.Likeness

/-! # What an open cursor has merged

As long as it is not closed, a cursor begins requests, waits for them, and puts the rows handed on behind
the rows that it has. What holds of a supply and of the rows taken over from it therefore lasts through
every call but `close`. `Supply.Carries` collects what such an invariant must satisfy; the operations of
both modes are followed here once, for all of them.
-/

namespace PagedResults

namespace Op

/-- An operation leaves a state with a property, whatever it came to. -/
def Leaves {ε α σ : Type} (P : σ → Prop) (result : Outcome ε α × σ) : Prop := P result.2

namespace Leaves

variable {ε α β σ : Type} {P : σ → Prop} {state : σ}

theorem bind {op : Op ε σ α} {next : α → Op ε σ β} (first : Leaves P (op state))
    (rest : ∀ value after, P after → Leaves P (next value after)) : Leaves P ((op >>= next) state) := by
  rw [Op.bind_apply]
  rcases came : op state with ⟨failure | value, after⟩ <;> rw [came] at first
  · exact first
  · exact rest value after first

theorem get_bind {next : σ → Op ε σ β} (rest : Leaves P (next state state)) :
    Leaves P ((get >>= next) state) := by
  rw [Op.bind_apply]
  exact rest

theorem attempt {op : Op ε σ α} (leaves : Leaves P (op state)) : Leaves P (op.attempt state) := by
  rw [Op.attempt]
  generalize op state = result at leaves ⊢
  obtain ⟨(cause | reason) | value, after⟩ := result <;> exact leaves

theorem map (change : α → β) {op : Op ε σ α} (leaves : Leaves P (op state)) :
    Leaves P ((change <$> op) state) := by
  rw [Op.map_apply]
  exact leaves

end Leaves

end Op

namespace Supply

variable {σ ρ : Type} [PageSource σ ρ]

/-- What holds of an open supply and of the rows taken over from it. -/
structure Carries (Inv : List Row → Supply ρ × σ → Prop) : Prop where
  is_open : ∀ {rows state}, Inv rows state → state.1.closed = false
  prefetch : ∀ {rows state}, Inv rows state → Inv rows (prefetch state)
  join : ∀ {rows state}, Inv rows state → Inv (rows ++ handedOn (join state).1) (join state).2
  note : ∀ {rows state} (event : Event), Inv rows state →
    Inv rows (state.1, PageSource.note .caller event state.2)
  /-- Rows are lost where no list can hold them. -/
  lose : ∀ {rows lost state}, Inv (rows ++ lost) state → ScrollableCursor.mostRows < rows.length + lost.length →
    Inv rows state

variable {Inv : List Row → Supply ρ × σ → Prop} {rows : List Row} {state : Supply ρ × σ}

/-- The rows of the next page are put behind the others. -/
theorem Carries.fetchNow (carries : Carries Inv) (inv : Inv rows state) :
    Inv (rows ++ handedOn ((Supply.fetchNow state).1.map some)) (Supply.fetchNow state).2 := by
  have joined := carries.join (carries.prefetch inv)
  rw [fetchNow_apply]
  rcases came : Supply.join (Supply.prefetch state) with ⟨failure | _ | added, after⟩ <;>
    rw [came] at joined <;> exact joined

end Supply

/-! ## Forward cursors -/

namespace ForwardCursor

variable {σ ρ : Type}

/-- What holds of the rows that a cursor has visited or has at hand. -/
def Carried (Inv : List Row → Supply ρ × σ → Prop) (visited : List Row) (state : ForwardCursor ρ × σ) :
    Prop :=
  Inv (visited ++ state.1.buffer) (state.1.supply, state.2)

variable [PageSource σ ρ] {Inv : List Row → Supply ρ × σ → Prop} {visited : List Row}

private theorem refill_carries (carries : Supply.Carries Inv) {state : ForwardCursor ρ × σ}
    (carried : Carried Inv visited state) : Op.Leaves (Carried Inv visited) (refill state) := by
  obtain ⟨cursor, source⟩ := state
  apply Op.Leaves.get_bind
  dsimp only
  split
  · have fetched := carries.fetchNow carried
    rw [Op.bind_apply, onSupply_apply]
    rcases came : Supply.fetchNow (cursor.supply, source) with ⟨failure | added, supply, after⟩ <;>
      rw [came] at fetched
    · rw [Except.map, Supply.handedOn, List.append_nil] at fetched
      exact fetched
    · change Inv (visited ++ (cursor.buffer ++ added)) (supply, after)
      rw [← List.append_assoc]
      exact fetched
  · exact carried

/-- A row that is visited was the first one at hand. -/
theorem next_carries (carries : Supply.Carries Inv) {state : ForwardCursor ρ × σ}
    (carried : Carried Inv visited state) :
    match next state with
    | (.ok true, after) => ∃ row, after.1.current = some row ∧ Carried Inv (visited ++ [row]) after
    | (_, after) => Carried Inv visited after := by
  obtain ⟨cursor, source⟩ := state
  have isOpen : cursor.supply.closed = false := carries.is_open carried
  cases off : cursor.afterLast with
  | true =>
    rw [next_afterLast isOpen off]
    exact carried
  | false =>
    rw [next_apply source isOpen off]
    have begun : Carried Inv visited (
        { cursor with supply := (if (cursor.buffer.drop cursor.supply.options.prefetchThreshold).isEmpty
            then Supply.prefetch (cursor.supply, source) else (cursor.supply, source)).1 },
        (if (cursor.buffer.drop cursor.supply.options.prefetchThreshold).isEmpty
            then Supply.prefetch (cursor.supply, source) else (cursor.supply, source)).2) := by
      split
      · exact carries.prefetch carried
      · exact carried
    have refilled := refill_carries carries begun
    dsimp only at refilled ⊢
    generalize refill (_ : ForwardCursor ρ × σ) = result at refilled ⊢
    obtain ⟨failure | ⟨⟩, after, source⟩ := result
    · exact refilled
    · change Inv (visited ++ after.buffer) (after.supply, source) at refilled
      dsimp only [advance]
      cases held : after.buffer with
      | nil =>
        rw [held] at refilled
        exact refilled
      | cons row rest =>
        rw [held, ← List.singleton_append, ← List.append_assoc] at refilled
        exact ⟨row, rfl, refilled⟩

private theorem isLast_carries (carries : Supply.Carries Inv) {state : ForwardCursor ρ × σ}
    (carried : Carried Inv visited state) : Op.Leaves (Carried Inv visited) (isLast state) := by
  obtain ⟨cursor, source⟩ := state
  rw [isLast_apply source (carries.is_open carried)]
  split
  · exact carried
  · have refilled := refill_carries carries carried
    generalize refill (cursor, source) = result at refilled ⊢
    obtain ⟨failure | ⟨⟩, after⟩ := result <;> exact refilled

end ForwardCursor

/-! ## Scrollable cursors -/

namespace ScrollableCursor

variable {σ ρ : Type}

/-- What holds of the rows that a cursor keeps. -/
def Carried (Inv : List Row → Supply ρ × σ → Prop) (state : ScrollableCursor ρ × σ) : Prop :=
  Inv state.1.rows.toList (state.1.supply, state.2)

variable {Inv : List Row → Supply ρ × σ → Prop} {state : ScrollableCursor ρ × σ}

/-- Moving takes no rows over. -/
theorem goTo_carries (index : ScrollableCursor ρ → Int64) (carried : Carried Inv state) :
    Op.Leaves (Carried Inv) (update (fun cursor => { cursor with index := index cursor }) state) := carried

variable [PageSource σ ρ]

private theorem prefetch_carries (carries : Supply.Carries Inv) (carried : Carried Inv state) :
    Op.Leaves (Carried Inv) (onSupply (modify Supply.prefetch) state) := carries.prefetch carried

private theorem mergeInFlight_carries (carries : Supply.Carries Inv) (carried : Carried Inv state) :
    Op.Leaves (Carried Inv) (mergeInFlight state) := by
  obtain ⟨cursor, source⟩ := state
  have joined := carries.join carried
  rw [mergeInFlight, Op.bind_apply, onSupply_apply]
  rcases came : Supply.join (cursor.supply, source) with ⟨failure | _ | added, supply, after⟩ <;>
    rw [came] at joined
  · rw [Supply.handedOn, List.append_nil] at joined
    exact joined
  · rw [Supply.handedOn, Option.getD_none, List.append_nil] at joined
    exact joined
  · dsimp only
    rw [extend]
    split
    · next full => exact carries.lose joined (by rwa [Array.length_toList])
    · change Inv (cursor.rows ++ added.toArray).toList (supply, after)
      rw [Array.toList_append]
      exact joined

/-- Reading on takes over the rows of one page after the other. -/
theorem readUntil_carries (carries : Supply.Carries Inv) (enough : Nat → Bool) {cursor : ScrollableCursor ρ}
    {source : σ} (carried : Carried Inv (cursor, source)) :
    Op.Leaves (Carried Inv) (readUntil enough cursor source) := by
  have taken {cursor : ScrollableCursor ρ} {source : σ} (carried : Carried Inv (cursor, source))
      {outcome : Outcome Error (List Row)} {after : Supply ρ × σ}
      (fetched : Supply.fetchNow (cursor.supply, source) = (outcome, after)) :
      Inv (cursor.rows.toList ++ Supply.handedOn (outcome.map some)) after := by
    have came := carries.fetchNow carried
    rw [fetched] at came
    exact came
  fun_induction readUntil enough cursor source with
  | case1 cursor source done => exact carried
  | case2 cursor source more failure supply next refused =>
    have kept := taken carried refused
    rw [Except.map, Supply.handedOn, List.append_nil] at kept
    exact kept
  | case3 cursor source more supply next fetched =>
    have kept := taken carried fetched
    rw [Except.map, Supply.handedOn, Option.getD_some, List.append_nil] at kept
    exact kept
  | case4 cursor source more added supply next fetched someRow full =>
    exact carries.lose (taken carried fetched) (by rwa [Array.length_toList])
  | case5 cursor source more added supply next fetched someRow fits ih =>
    apply ih
    change Inv (cursor.rows ++ added.toArray).toList (supply, next)
    rw [Array.toList_append]
    exact taken carried fetched

private theorem materializeTo_carries (carries : Supply.Carries Inv) (target : Int64) (carried : Carried Inv state) :
    Op.Leaves (Carried Inv) (materializeTo target state) := by
  apply Op.Leaves.get_bind
  dsimp only
  split
  · exact carried
  · refine (mergeInFlight_carries carries carried).bind fun _ after carried => ?_
    exact Op.Leaves.bind (readUntil_carries carries _ carried) fun _ _ carried => Op.Leaves.get_bind carried

private theorem drain_carries (carries : Supply.Carries Inv) (carried : Carried Inv state) :
    Op.Leaves (Carried Inv) (drain state) := by
  refine (mergeInFlight_carries carries carried).bind fun _ after carried => ?_
  refine Op.Leaves.bind (readUntil_carries carries _ carried) fun _ after carried => ?_
  exact Op.Leaves.get_bind (carries.note _ carried)

private theorem moveTo_carries (carries : Supply.Carries Inv) (target : Int64) (carried : Carried Inv state) :
    Op.Leaves (Carried Inv) (moveTo target state) := by
  rw [moveTo]
  split
  · exact carried
  · refine (materializeTo_carries carries target carried).bind fun found after carried => ?_
    exact (goTo_carries _ carried).bind fun _ _ carried => carried

/-- An open cursor passes the check in front of an operation. -/
theorem checked_carries {α : Type} (carries : Supply.Carries Inv) (carried : Carried Inv state)
    {next : Op Error (ScrollableCursor ρ × σ) α} (rest : Op.Leaves (Carried Inv) (next state)) :
    Op.Leaves (Carried Inv) ((do onSupply Supply.checkOpen; next) state) := by
  obtain ⟨cursor, source⟩ := state
  rw [checkOpen_bind (carries.is_open carried)]
  exact rest

private theorem next_carries (carries : Supply.Carries Inv) (carried : Carried Inv state) :
    Op.Leaves (Carried Inv) (next state) := by
  have step (target : Int64) (state : ScrollableCursor ρ × σ) (carried : Carried Inv state) :
      Op.Leaves (Carried Inv) (stepTo target state) := by
    refine (materializeTo_carries carries _ carried).bind fun _ after carried => ?_
    exact (goTo_carries _ carried).bind fun _ _ carried => Op.Leaves.get_bind carried
  refine checked_carries carries carried (Op.Leaves.get_bind ?_)
  dsimp only
  split
  · exact carried
  · split
    · exact (prefetch_carries carries carried).bind fun _ after carried => step _ after carried
    · exact step _ state carried

private theorem isLast_carries (carries : Supply.Carries Inv) (carried : Carried Inv state) :
    Op.Leaves (Carried Inv) (isLast state) := by
  refine checked_carries carries carried (Op.Leaves.get_bind ?_)
  dsimp only
  split
  · exact carried
  · exact (materializeTo_carries carries _ carried).bind fun _ _ carried => carried

private theorem absolute_carries (carries : Supply.Carries Inv) (row : Int64) (carried : Carried Inv state) :
    Op.Leaves (Carried Inv) (absolute row state) := by
  refine checked_carries carries carried ?_
  split
  · exact carried
  · split
    · exact moveTo_carries carries _ carried
    · refine (drain_carries carries carried).bind fun _ after carried => ?_
      exact Op.Leaves.get_bind (moveTo_carries carries _ carried)

private theorem relative_carries (carries : Supply.Carries Inv) (offset : Int64) (carried : Carried Inv state) :
    Op.Leaves (Carried Inv) (relative offset state) := by
  refine checked_carries carries carried (Op.Leaves.get_bind ?_)
  dsimp only
  split
  · exact carried
  · exact moveTo_carries carries _ carried

private theorem afterLast_carries (carries : Supply.Carries Inv) (carried : Carried Inv state) :
    Op.Leaves (Carried Inv) (afterLast state) := by
  refine checked_carries carries carried ?_
  exact (drain_carries carries carried).bind fun _ _ carried => goTo_carries _ carried

end ScrollableCursor

/-! ## Cursors of either mode -/

namespace Cursor

variable {σ ρ : Type}

/-- The row that a turn led to, if it went on to a next row. -/
def Turn.row (turn : Turn ρ) : Option Row := turn.visit.bind Visit.row

/-- The rows that a cursor has merged: a forward one has visited some of them and dropped them, a
scrollable one keeps them all. -/
def merged (visited : List Row) : Cursor ρ → List Row
  | .forward cursor => visited ++ cursor.buffer
  | .scrollable cursor => cursor.rows.toList

variable [PageSource σ ρ] {Inv : List Row → Supply ρ × σ → Prop} {visited : List Row}
  {state : Cursor ρ × σ}

private theorem performScrollable_carries (carries : Supply.Carries Inv) {call : CursorCall}
    (stays : call ≠ .close) {state : ScrollableCursor ρ × σ} (carried : ScrollableCursor.Carried Inv state) :
    Op.Leaves (ScrollableCursor.Carried Inv) (performScrollable call state) := by
  cases call with
  | next => exact (ScrollableCursor.next_carries carries carried).map some
  | isLast => exact (ScrollableCursor.isLast_carries carries carried).map some
  | previous => exact (ScrollableCursor.relative_carries carries _ carried).map some
  | first => exact (ScrollableCursor.absolute_carries carries _ carried).map some
  | last => exact (ScrollableCursor.absolute_carries carries _ carried).map some
  | absolute row => exact (ScrollableCursor.absolute_carries carries row carried).map some
  | relative offset => exact (ScrollableCursor.relative_carries carries offset carried).map some
  | beforeFirst => exact (ScrollableCursor.absolute_carries carries 0 carried).bind fun _ _ carried => carried
  | afterLast => exact (ScrollableCursor.afterLast_carries carries carried).bind fun _ _ carried => carried
  | close => exact absurd rfl stays

/-- Every call but `close` keeps what holds of the rows merged. -/
theorem perform_carries (carries : Supply.Carries Inv) {call : CursorCall} (stays : call ≠ .close)
    (inv : Inv (state.1.merged visited) (state.1.supply, state.2)) :
    Inv ((perform call state).2.1.merged
        (visited ++ (Turn.row ⟨call, (perform call state).1, (perform call state).2.1⟩).toList))
      ((perform call state).2.1.supply, (perform call state).2.2) := by
  obtain ⟨cursor | cursor, source⟩ := state
  · have carried : ForwardCursor.Carried Inv visited (cursor, source) := inv
    cases call with
    | next =>
      have moved := ForwardCursor.next_carries carries carried
      simp only [perform, performForward, Op.map_apply, Turn.row, Turn.visit]
      rcases came : ForwardCursor.next (cursor, source) with ⟨failure | _ | _, after⟩ <;> rw [came] at moved
      · exact (List.append_nil visited).symm ▸ moved
      · exact (List.append_nil visited).symm ▸ moved
      · obtain ⟨row, current, moved⟩ := moved
        simp only [Except.map, Option.bind_some, Cursor.current, current, Option.toList_some]
        exact moved
    | isLast =>
      have moved := (ForwardCursor.isLast_carries carries carried).map some
      rw [Turn.row, Turn.visit, Option.bind_none, Option.toList_none, List.append_nil]
      exact moved
    | close => exact absurd rfl stays
    | _ => exact (List.append_nil visited).symm ▸ carried
  · exact performScrollable_carries carries stays inv

/-- The rows that the first call led to come first. -/
theorem history_rows_cons (call : CursorCall) (calls : List CursorCall) (state : Cursor ρ × σ) :
    (history (call :: calls) state).filterMap Turn.row =
      (Turn.row ⟨call, (perform call state).1, (perform call state).2.1⟩).toList ++
        (history calls (perform call state).2).filterMap Turn.row := by
  rw [history_cons, List.filterMap_cons]
  cases Turn.row _ <;> rfl

/-- Any sequence of calls but `close` keeps what holds of the rows merged. -/
theorem after_carries (carries : Supply.Carries Inv) {calls : List CursorCall} (stays : .close ∉ calls)
    (state : Cursor ρ × σ) (inv : Inv (state.1.merged visited) (state.1.supply, state.2)) :
    Inv ((after calls state).1.merged (visited ++ (history calls state).filterMap Turn.row))
      ((after calls state).1.supply, (after calls state).2) := by
  induction calls generalizing visited state with
  | nil =>
    rw [history, List.filterMap_nil, List.append_nil]
    exact inv
  | cons call calls ih =>
    obtain ⟨other, later⟩ := List.ne_and_not_mem_of_not_mem_cons stays
    rw [history_rows_cons, ← List.append_assoc]
    exact ih later _ (perform_carries carries other.symm inv)

end Cursor

end PagedResults
