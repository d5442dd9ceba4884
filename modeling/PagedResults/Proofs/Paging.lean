import Mathlib.Data.List.Infix
import PagedResults.Options
import PagedResults.PageSource

/-! # Paging through a source

A source is asked for one page at a time, each where the page before it ended, and again at the same
place when the answer was no page. `Paging.Run` follows such an exchange with any source, and
`Paging.Honest` says what the exchange must be like for its pages to show one result: every answer is
an error, a halt of the fetching thread, or the page that was asked for.
-/

namespace PagedResults

/-- An entry of a longer record is the newest one or one of the others. -/
theorem snoc_cases {α : Type} {record before after : List α} {newest entry : α}
    (split : record ++ [newest] = before ++ entry :: after) :
    record = before ∧ newest = entry ∧ after = [] ∨
      ∃ rest, record = before ++ entry :: rest ∧ after = rest ++ [newest] := by
  rcases List.eq_nil_or_concat after with rfl | ⟨rest, last, rfl⟩
  · obtain ⟨rfl, same⟩ := List.append_inj' split rfl
    exact .inl ⟨rfl, (List.cons.inj same).1, rfl⟩
  · rw [List.concat_eq_append] at split ⊢
    rw [← List.cons_append, ← List.append_assoc] at split
    obtain ⟨inside, same⟩ := List.append_inj' split rfl
    exact .inr ⟨rest, inside, by rw [same]⟩

/-- The page shows the rows of a result from `start` on: at least one of them if there is any, and the
mark of the last page only where the result ends. -/
structure Page.Shows (rows : List Row) (start : Nat) (page : Page) : Prop where
  offset_eq : page.offset.toNat = start
  rows_prefix : page.rows <+: rows.drop start
  rows_ne_nil : start < rows.length → page.rows ≠ []
  ends : page.isLast = true → rows.length ≤ start + page.rows.length

namespace Page.Shows

variable {rows : List Row} {start : Nat} {page : Page}

theorem end_le (shows : page.Shows rows start) (inside : start ≤ rows.length) :
    start + page.rows.length ≤ rows.length := by
  have bound := shows.rows_prefix.length_le
  rw [List.length_drop] at bound
  omega

theorem take_append (shows : page.Shows rows start) :
    rows.take start ++ page.rows = rows.take (start + page.rows.length) := by
  rw [List.take_add, ← List.prefix_iff_eq_take.mp shows.rows_prefix]

/-- The place behind a page that lies within an addressable result. -/
theorem toNat_next (shows : page.Shows rows start) (inside : start ≤ rows.length)
    (addressable : rows.length < UInt64.size) :
    (page.offset + UInt64.ofNat page.rows.length).toNat = start + page.rows.length := by
  have bound := shows.end_le inside
  have size : UInt64.size = 2 ^ 64 := rfl
  rw [UInt64.toNat_add, shows.offset_eq, UInt64.toNat_ofNat', Nat.mod_eq_of_lt (by omega),
    Nat.mod_eq_of_lt (by omega)]

/-- An empty page shows that nothing is left to show. -/
theorem length_le_of_rows_nil (shows : page.Shows rows start) (empty : page.rows = []) :
    rows.length ≤ start := by
  by_contra more
  exact shows.rows_ne_nil (by omega) empty

end Page.Shows

/-- What may come of a request for the page at `start`: an error, a halt of the fetching thread, or
the page. -/
def Answers (rows : List Row) (start : Nat) : Outcome Error Page → Prop
  | .ok page => page.Shows rows start
  | .error (.error _) => True
  | .error (.halt reason) => reason ≠ .endlessWait

/-- The rows of a result that the options let through. -/
def FetchOptions.shown (options : FetchOptions) (rows : List Row) : List Row :=
  if options.maxRows = 0 then rows else rows.take options.maxRows.toNat

theorem FetchOptions.shown_length_le (options : FetchOptions) (rows : List Row) :
    (options.shown rows).length ≤ rows.length := by
  unfold shown
  split
  · exact Nat.le_refl _
  · exact List.length_take_le' _ _

/-- The request for the page of a result at an offset. -/
def FetchOptions.ask (options : FetchOptions) (statement offset : UInt64) : PageRequest :=
  ⟨statement, offset, options.effectiveFetchSize, options.timeout⟩

/-- An exchange with a source: where the next page starts, and the request under way if there is
one. -/
structure Paging (σ ρ : Type) where
  offset : UInt64
  request : Option ρ
  source : σ

namespace Paging

variable {σ ρ : Type} [PageSource σ ρ] {ask : UInt64 → PageRequest}

/-- The exchange goes on, one request after the other, and the requests that ended meanwhile came to
`answers`. -/
inductive Run (ask : UInt64 → PageRequest) (start : Paging σ ρ) :
    List (Outcome Error Page) → Paging σ ρ → Prop
  | refl : Run ask start [] start
  | note {answers : List (Outcome Error Page)} {now : Paging σ ρ} (thread : Thread) (event : Event)
      (run : Run ask start answers now) :
      Run ask start answers { now with source := PageSource.note thread event now.source }
  | begin {answers : List (Outcome Error Page)} {offset : UInt64} {source : σ}
      (run : Run ask start answers ⟨offset, none, source⟩) :
      Run ask start answers
        ⟨offset, some (PageSource.start (ask offset) source).1, (PageSource.start (ask offset) source).2⟩
  | answered {answers : List (Outcome Error Page)} {offset : UInt64} {request : ρ} {source next : σ}
      {page : Page} (run : Run ask start answers ⟨offset, some request, source⟩)
      (finished : PageSource.finish request source = (.ok page, next)) :
      Run ask start (answers ++ [.ok page])
        ⟨page.offset + UInt64.ofNat page.rows.length, none, next⟩
  | refused {answers : List (Outcome Error Page)} {offset : UInt64} {request : ρ} {source next : σ}
      {cause : Failure Error} (run : Run ask start answers ⟨offset, some request, source⟩)
      (finished : PageSource.finish request source = (.error cause, next)) :
      Run ask start (answers ++ [.error cause]) ⟨offset, none, next⟩

/-- Whatever the exchange has come to, a request that ends is answered as it should be. -/
def Honest (rows : List Row) (ask : UInt64 → PageRequest) (start : Paging σ ρ) : Prop :=
  ∀ answers offset request source, Run ask start answers ⟨offset, some request, source⟩ →
    Answers rows offset.toNat (PageSource.finish request source).1

theorem Run.trans {first middle last : Paging σ ρ} {before after : List (Outcome Error Page)}
    (left : Run ask first before middle) (right : Run ask middle after last) :
    Run ask first (before ++ after) last := by
  induction right with
  | refl => rw [List.append_nil]; exact left
  | note thread event _ ih => exact .note thread event ih
  | begin _ ih => exact .begin ih
  | answered _ finished ih => rw [← List.append_assoc]; exact .answered ih finished
  | refused _ finished ih => rw [← List.append_assoc]; exact .refused ih finished

theorem Run.noteAll {start now : Paging σ ρ} {answers : List (Outcome Error Page)} (thread : Thread)
    (events : List Event) (run : Run ask start answers now) :
    Run ask start answers { now with source := PageSource.noteAll thread events now.source } := by
  induction events generalizing now with
  | nil => exact run
  | cons event rest ih => exact ih (.note thread event run)

theorem Honest.after {rows : List Row} {start now : Paging σ ρ} {answers : List (Outcome Error Page)}
    (honest : Honest rows ask start) (run : Run ask start answers now) : Honest rows ask now :=
  fun _ _ _ _ later => honest _ _ _ _ (run.trans later)

/-- A refusal at the end of an exchange comes from a request that was under way. -/
theorem Run.refused_last {start now : Paging σ ρ} {answers : List (Outcome Error Page)}
    {cause : Failure Error} (run : Run ask start (answers ++ [.error cause]) now) :
    ∃ offset request source, Run ask start answers ⟨offset, some request, source⟩ ∧
      (PageSource.finish request source).1 = .error cause := by
  generalize history : answers ++ [.error cause] = all at run
  induction run with
  | refl => simp at history
  | note _ _ _ ih => exact ih history
  | begin _ ih => exact ih history
  | answered run finished => simp at history
  | refused run finished =>
    obtain ⟨rfl, same⟩ := List.append_inj' history rfl
    obtain rfl : cause = _ := by simpa using same
    exact ⟨_, _, _, run, by rw [finished]⟩

end Paging

end PagedResults
