import PagedResults.Proofs.Cursor.Life
import PagedResults.Proofs.Cursor.Merged

/-! # What a source keeps, whoever asks it

A cursor touches its source through the operations of a page source alone. What all of them keep is therefore kept
by everything that can be done with any cursor, open or closed, in whatever place it stands.
-/

namespace PagedResults

variable {σ ρ : Type} [PageSource σ ρ]

/-- A property of a source that every operation keeps, whatever it comes to. -/
structure PageSource.Keeps (P : σ → Prop) : Prop where
  start : ∀ {source} (request : PageRequest), P source → P (PageSource.start request source).2
  finish : ∀ {source} (ticket : ρ), P source → Op.Leaves P (PageSource.finish ticket source)
  closeResult : ∀ {source} (statement : UInt64) (limit : Duration), P source →
    Op.Leaves P (PageSource.closeResult statement limit source)
  closeStatement : ∀ {source} (statement : UInt64) (limit : Duration), P source →
    Op.Leaves P (PageSource.closeStatement statement limit source)
  note : ∀ {source} (thread : Thread) (event : Event), P source → P (PageSource.note thread event source)

namespace PageSource.Keeps

variable {P : σ → Prop} {source : σ} {supply : Supply ρ} {state : Supply ρ × σ}

theorem noteAll (keeps : Keeps P) (thread : Thread) (events : List Event) (holds : P source) :
    P (PageSource.noteAll thread events source) := by
  rw [PageSource.noteAll]
  induction events generalizing source with
  | nil => exact holds
  | cons event rest ih => exact ih (keeps.note thread event holds)

theorem accept (keeps : Keeps P) (page : Page) (holds : P state.2) : P (Supply.accept page state).2.2 := by
  have noted := keeps.noteAll .caller (state.1.remarks page) holds
  rw [Supply.accept]
  split
  · exact noted
  · exact noted

theorem prefetch (keeps : Keeps P) (holds : P state.2) : P (Supply.prefetch state).2 := by
  rw [Supply.prefetch]
  dsimp only
  split
  · exact holds
  · exact keeps.note .caller _ (keeps.start _ (keeps.note .fetch _ holds))

theorem wait (keeps : Keeps P) (holds : P state.2) : P (Supply.wait state).2.2 := by
  rw [Supply.wait]
  split
  · exact holds
  · next offset request _ => exact keeps.finish request holds

theorem join (keeps : Keeps P) (holds : P state.2) : P (Supply.join state).2.2 := by
  have waited : Op.Leaves (fun now : Supply ρ × σ => P now.2) (Supply.wait state) := keeps.wait holds
  refine waited.bind fun answer after holds => ?_
  cases answer with
  | none => exact holds
  | some page =>
    have accepted : Op.Leaves (fun now : Supply ρ × σ => P now.2) (Supply.accept page after) :=
      keeps.accept page holds
    exact accepted.map some

/-- What a source keeps an open supply over it carries. -/
theorem carries (keeps : Keeps P) :
    Supply.Carries fun _ (state : Supply ρ × σ) => state.1.closed = false ∧ P state.2 where
  is_open kept := kept.1
  prefetch kept := ⟨(Supply.prefetch_closed _).trans kept.1, keeps.prefetch kept.2⟩
  join kept := ⟨(Supply.join_counts _).1.trans kept.1, keeps.join kept.2⟩
  note event kept := ⟨kept.1, keeps.note .caller event kept.2⟩
  lose kept _ := kept

/-- Closing a supply keeps it as well. -/
theorem close (keeps : Keeps P) (holds : P state.2) : P (Supply.close state).2.2 := by
  have lasts : Supply.Lasts fun state : Supply ρ × σ => P state.2 :=
    { shut := fun holds _ => holds
      wait := fun holds _ => keeps.wait holds
      closeResult := fun limit holds _ _ => keeps.closeResult _ limit holds
      closeStatement := fun limit holds _ _ => keeps.closeStatement _ limit holds
      note := fun event holds => keeps.note .caller event holds }
  exact (lasts.closing.close ⟨rfl, holds⟩).2.1.2

/-- A cursor is opened over the first page of a result. -/
theorem ofFirst (keeps : Keeps P) (statement : UInt64) (first : Page) (options : FetchOptions)
    (ownsStatement : Bool) (holds : P source) :
    Op.Leaves P (Cursor.open statement first options ownsStatement source) := by
  have begun : P (({ statement, options, ownsStatement, nextOffset := first.offset } : Supply ρ), source).2 := holds
  exact keeps.accept first begun

/-- Whatever is asked of any cursor. -/
theorem perform (keeps : Keeps P) (call : CursorCall) (cursor : Cursor ρ) (holds : P source) :
    P (Cursor.perform call (cursor, source)).2.2 := by
  by_cases closes : call = .close
  · subst closes
    rw [congrArg Prod.snd (Cursor.supply_perform_close (cursor, source))]
    exact keeps.close holds
  · cases closed : cursor.supply.closed with
    | true =>
      rw [Cursor.perform_of_closed closed closes]
      exact holds
    | false =>
      have inv : cursor.supply.closed = false ∧ P source := ⟨closed, holds⟩
      exact (@Cursor.perform_carries _ _ _ _ [] _ keeps.carries _ closes inv).2

/-- Nobody uses the cursor any more. -/
theorem drop (keeps : Keeps P) (cursor : Cursor ρ) (holds : P source) :
    Op.Leaves P (Cursor.drop cursor source) := by
  have closed : Op.Leaves (fun now : Supply ρ × σ => P now.2) (Supply.close (cursor.supply, source)) :=
    keeps.close holds
  have dropped : Op.Leaves (fun now : Supply ρ × σ => P now.2) (Supply.drop (cursor.supply, source)) := by
    refine closed.attempt.bind fun answer after holds => ?_
    cases answer with
    | ok => exact holds
    | error cause => exact Op.Leaves.get_bind (keeps.note .caller _ holds)
  exact dropped

end PageSource.Keeps

end PagedResults
