import PagedResults.Proofs.Paging
import PagedResults.Script.Source

/-! # Scripts that only interrupt

A scripted source whose script lays down nothing but errors and halts is honest: it answers every
request with the page of its series, except where the script has the request fail.
-/

namespace PagedResults

theorem FetchOptions.effectiveFetchSize_pos (options : FetchOptions) :
    0 < options.effectiveFetchSize.toNat := by
  unfold effectiveFetchSize
  split
  · decide
  · next nonzero =>
    have : options.fetchSize.toNat ≠ 0 := fun zero => nonzero (UInt32.toNat_inj.mp zero)
    omega

namespace Table

@[simp] theorem length_seriesRows (first count : Nat) : (seriesRows first count).length = count := by
  rw [seriesRows, List.length_map, List.length_range']

private theorem drop_seriesRows (start total : Nat) :
    (seriesRows 0 total).drop start = seriesRows start (total - start) := by
  rw [seriesRows, ← List.map_drop, List.drop_range', Nat.zero_add, Nat.mul_one]
  rfl

private theorem take_seriesRows (start : Nat) {count total : Nat} (inside : count ≤ total) :
    (seriesRows start total).take count = seriesRows start count := by
  rw [seriesRows, ← List.map_take, List.take_range'_of_length_ge inside]
  rfl

end Table

namespace ScriptedSource

/-- An entry of a script that lets a request fail, or leaves it to the series. -/
def Interrupts : Option (Outcome Error Page) → Prop
  | none | some (.error (.error _)) => True
  | some (.error (.halt reason)) => reason ≠ .endlessWait
  | some (.ok _) => False

/-- The page of the series that a request asks for shows the series from there on. -/
theorem seriesPage_shows (request : PageRequest) (source : ScriptedSource)
    (inside : request.offset.toNat ≤ source.total) (sized : 0 < request.size.toNat) :
    (source.seriesPage request).Shows (Table.seriesRows 0 source.total) request.offset.toNat := by
  have first : min request.offset.toNat (min (request.offset.toNat + request.size.toNat) source.total) =
      request.offset.toNat := by
    omega
  unfold seriesPage
  simp only [first]
  refine ⟨?_, ?_, ?_, ?_⟩
  · exact congrArg UInt64.toNat (UInt64.ofNat_toNat)
  · rw [Table.drop_seriesRows, ← Table.take_seriesRows _ (by omega :
      min (request.offset.toNat + request.size.toNat) source.total - request.offset.toNat ≤
        source.total - request.offset.toNat)]
    exact List.take_prefix _ _
  · intro more
    rw [Table.length_seriesRows] at more
    rw [← List.length_pos_iff, Table.length_seriesRows]
    omega
  · intro last
    simp only [decide_eq_true_eq] at last
    rw [Table.length_seriesRows, Table.length_seriesRows]
    omega

/-- An exchange with a source whose script only interrupts. -/
structure Plays (total : Nat) (now : Paging ScriptedSource (Outcome Error Page)) : Prop where
  total_eq : now.source.total = total
  offset_le : now.offset.toNat ≤ total
  interrupts : ∀ entry ∈ now.source.script, Interrupts entry
  answers : ∀ answer, now.request = some answer →
    Answers (Table.seriesRows 0 total) now.offset.toNat answer

variable {total : Nat} {ask : UInt64 → PageRequest}

theorem Plays.begin {offset : UInt64} {source : ScriptedSource}
    (asks : (ask offset).offset = offset ∧ 0 < (ask offset).size.toNat)
    (plays : Plays total ⟨offset, none, source⟩) :
    Plays total ⟨offset, some (PageSource.start (ask offset) source).1,
      (PageSource.start (ask offset) source).2⟩ := by
  obtain ⟨same, inside, interrupts, -⟩ := plays
  refine ⟨same, inside, fun entry member => interrupts entry (List.mem_of_mem_drop member), ?_⟩
  intro answer started
  obtain rfl : (source.script.headD none).getD (.ok (source.seriesPage (ask offset))) = answer :=
    Option.some.inj started
  rcases scripted : source.script.headD none with _ | outcome
  · rw [Option.getD_none, ← same]
    have shows := seriesPage_shows (ask offset) source (by rw [asks.1, same]; exact inside) asks.2
    rw [asks.1] at shows
    exact shows
  · have member : some outcome ∈ source.script := by
      cases listed : source.script with
      | nil => rw [listed] at scripted; contradiction
      | cons entry rest =>
        rw [listed] at scripted
        exact List.mem_cons.mpr (.inl scripted.symm)
    rw [Option.getD_some]
    match outcome, interrupts _ member with
    | .error (.error _), _ => exact trivial
    | .error (.halt _), live => exact live

theorem Plays.answered {offset : UInt64} {request : Outcome Error Page} {source next : ScriptedSource}
    {page : Page} (addressable : total < UInt64.size)
    (finished : PageSource.finish request source = (.ok page, next))
    (plays : Plays total ⟨offset, some request, source⟩) :
    Plays total ⟨page.offset + UInt64.ofNat page.rows.length, none, next⟩ := by
  obtain ⟨same, inside, interrupts, answers⟩ := plays
  obtain ⟨rfl, rfl⟩ := Prod.mk.inj finished
  have shows : page.Shows (Table.seriesRows 0 total) offset.toNat := answers _ rfl
  have length := Table.length_seriesRows 0 total
  have bound := shows.end_le (by rw [length]; exact inside)
  refine ⟨same, ?_, interrupts, fun answer started => nomatch started⟩
  dsimp only
  rw [shows.toNat_next (by rw [length]; exact inside) (by rw [length]; exact addressable)]
  exact length ▸ bound

theorem Plays.run {start now : Paging ScriptedSource (Outcome Error Page)}
    {answers : List (Outcome Error Page)} (plays : Plays total start)
    (asks : ∀ offset, (ask offset).offset = offset ∧ 0 < (ask offset).size.toNat)
    (addressable : total < UInt64.size)
    (run : Paging.Run ask start answers now) : Plays total now := by
  induction run with
  | refl => exact plays
  | note thread event _ ih => exact ⟨ih.total_eq, ih.offset_le, ih.interrupts, ih.answers⟩
  | begin _ ih => exact ih.begin (asks _)
  | answered _ finished ih => exact ih.answered addressable finished
  | refused _ finished ih =>
    obtain ⟨-, rfl⟩ := Prod.mk.inj finished
    exact ⟨ih.total_eq, ih.offset_le, ih.interrupts, fun answer started => nomatch started⟩

/-- A source whose script only interrupts is honest about its series. -/
theorem honest {statement offset : UInt64} {options : FetchOptions} {source : ScriptedSource}
    (interrupts : ∀ entry ∈ source.script, Interrupts entry)
    (inside : offset.toNat ≤ source.total) (addressable : source.total < UInt64.size) :
    Paging.Honest (Table.seriesRows 0 source.total) (options.ask statement) ⟨offset, none, source⟩ := by
  intro answers _ request _ run
  have first : Plays source.total ⟨offset, none, source⟩ :=
    ⟨rfl, inside, interrupts, fun answer started => nomatch started⟩
  have plays := first.run (fun _ => ⟨rfl, options.effectiveFetchSize_pos⟩) addressable run
  exact plays.answers request rfl

/-- A source of three rows whose second page first fails and then halts the thread that fetches it. -/
def interrupted : ScriptedSource where
  total := 3
  script := [some (Outcome.fail .connectionClosed), some (Outcome.halt (.raised "lost")), none]

/-- The first page of three rows. -/
def firstOfThree : Page := ⟨0, false, Table.seriesRows 0 1⟩

theorem firstOfThree_shows : firstOfThree.Shows (Table.seriesRows 0 3) 0 := by
  refine ⟨rfl, ?_, ?_, nofun⟩
  · rw [List.drop_zero, firstOfThree, ← Table.take_seriesRows 0 (by decide : 1 ≤ 3)]
    exact List.take_prefix _ _
  · exact fun _ => List.cons_ne_nil _ _

theorem interrupted_honest {statement : UInt64} {options : FetchOptions} :
    Paging.Honest (Table.seriesRows 0 3) (options.ask statement) ⟨1, none, interrupted⟩ := by
  have interrupts : ∀ entry ∈ interrupted.script, Interrupts entry := by
    simp [interrupted, Interrupts, Outcome.fail, Outcome.halt]
  exact honest interrupts (by decide) (by decide)

end ScriptedSource

end PagedResults
