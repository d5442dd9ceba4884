import PagedResults.Proofs.Cells.Boundless
import PagedResults.Proofs.Messages

/-! # The first defect of a page

A page is read row by row, and a row cell by cell, up to the first thing that stands in the way: a row
with a wrong number of cells, a cell without a value, a length that cannot be set aside, or a row whose
place in the result is no number of 64 bits. Rows and pages are read alike, one item after the other and
each with its number, so that one lemma about such a reading says of both where it stops and why.
-/

namespace PagedResults

/-! ## Reading with numbers -/

namespace Outcome

variable {ε α β : Type} {items : List α} {start : Nat}

private theorem take_zipIdx {count : Nat} : (items.zipIdx start).take count = (items.take count).zipIdx start := by
  induction items generalizing start count with
  | nil => simp
  | cons item items ih => cases count <;> simp [ih]

/-- Reading numbered items stops at the first one that cannot be read. -/
theorem mapM_zipIdx_eq_error {read : α × Nat → Outcome ε β} {failure : Failure ε} :
    (items.zipIdx start).mapM read = .error failure ↔
      ∃ index item, items[index]? = some item ∧
        (∀ earlier ∈ (items.take index).zipIdx start, ∃ value, read earlier = .ok value) ∧
        read (item, start + index) = .error failure := by
  rw [mapM_eq_error]
  constructor
  · rintro ⟨index, numbered, entry, earlier, failed⟩
    rw [List.getElem?_zipIdx, Option.map_eq_some_iff] at entry
    obtain ⟨item, entry, rfl⟩ := entry
    exact ⟨index, item, entry, take_zipIdx ▸ earlier, failed⟩
  · rintro ⟨index, item, entry, earlier, failed⟩
    refine ⟨index, (item, start + index), ?_, take_zipIdx ▸ earlier, failed⟩
    rw [List.getElem?_zipIdx, entry]
    rfl

/-- Where the numbers do not matter, reading numbered items is reading the items. -/
theorem forall_mem_zipIdx {holds : α → Prop} :
    (∀ numbered ∈ items.zipIdx start, holds numbered.1) ↔ ∀ item ∈ items, holds item := by
  have same : (items.zipIdx start).map Prod.fst = items := List.zipIdx_map_fst ..
  constructor
  · intro all
    rw [← same, List.forall_mem_map]
    exact all
  · intro all
    rw [← same, List.forall_mem_map] at all
    exact all

private theorem forall₂_zipIdx {related : α → β → Prop} {values : List β} :
    List.Forall₂ (fun numbered value => related numbered.1 value) (items.zipIdx start) values ↔
      List.Forall₂ related items values := by
  have same : (items.zipIdx start).map Prod.fst = items := List.zipIdx_map_fst ..
  rw [← List.forall₂_map_left_iff, same]

private theorem mapError_eq_ok {δ : Type} {change : ε → δ} {outcome : Outcome ε α} {value : α} :
    outcome.mapError change = .ok value ↔ outcome = .ok value := by
  rcases outcome with (cause | reason) | found <;> simp [mapError]

private theorem mapError_eq_error {δ : Type} {change : ε → δ} {outcome : Outcome ε α} {cause : δ} :
    outcome.mapError change = .error (.error cause) ↔
      ∃ original, outcome = .error (.error original) ∧ change original = cause := by
  rcases outcome with (cause | reason) | found <;> simp [mapError]

private theorem mapError_eq_halt {δ : Type} {change : ε → δ} {outcome : Outcome ε α} {reason : Halt} :
    outcome.mapError change = .error (.halt reason) ↔ outcome = .error (.halt reason) := by
  rcases outcome with (cause | reason) | found <;> simp [mapError]

end Outcome

/-! ## Rows -/

namespace Row

variable {number : UInt64} {arity : Nat} {cells : List Cell} {row : Row} {cause : Error} {reason : Halt}

/-- The row has a cell for every column, and every cell has a value. -/
def Sound (arity : Nat) (cells : List Cell) : Prop :=
  cells.length = arity ∧ ∀ cell ∈ cells, ∃ value, Value.ofCell cell = .ok value

/-- The values of the row are those of the cells, column by column. -/
def Carried (arity : Nat) (cells : List Cell) (row : Row) : Prop :=
  cells.length = arity ∧ List.Forall₂ (fun cell value => Value.ofCell cell = .ok value) cells row.values

/-- What is wrong with a row: the column that is to blame, and why. -/
inductive Defect (arity : Nat) (cells : List Cell) : Nat → String → Prop
  /-- A wrong number of cells comes before everything else. -/
  | count (wrong : cells.length ≠ arity) :
      Defect arity cells (min cells.length arity) s!"expected {arity} cells, found {cells.length}"
  /-- The first cell that has no value. -/
  | cell {column : Nat} {cell : Cell} {cause : CellError} (complete : cells.length = arity)
      (entry : cells[column]? = some cell)
      (earlier : ∀ other ∈ cells.take column, ∃ value, Value.ofCell other = .ok value)
      (malformed : Value.ofCell cell = .error (.error cause)) : Defect arity cells column cause.message

/-- The first cell without a value is one that halts its reader. -/
def Boundless (arity : Nat) (cells : List Cell) : Prop :=
  cells.length = arity ∧ ∃ (column : Nat) (cell : Cell), cells[column]? = some cell ∧
    (∀ other ∈ cells.take column, ∃ value, Value.ofCell other = .ok value) ∧ cell.Boundless

private theorem valuesOf_eq_mapM (number : UInt64) (column : Nat) (cells : List Cell) :
    valuesOf number column cells = (cells.zipIdx column).mapM fun numbered =>
      (Value.ofCell numbered.1).mapError fun cause => .malformed number numbered.2 cause.message := by
  induction cells generalizing column with
  | nil => rfl
  | cons cell cells ih => rw [valuesOf, ih, List.zipIdx_cons, List.mapM_cons]

private theorem valuesOf_eq_ok {column : Nat} {values : List Value} :
    valuesOf number column cells = .ok values ↔
      List.Forall₂ (fun cell value => Value.ofCell cell = .ok value) cells values := by
  rw [valuesOf_eq_mapM, Outcome.mapM_eq_ok]
  simp only [Outcome.mapError_eq_ok]
  exact @Outcome.forall₂_zipIdx _ _ cells column (fun cell value => Value.ofCell cell = .ok value) values

/-- The values of cells are read up to the first cell that has none. -/
theorem valuesOf_eq_error {column : Nat} {failure : Failure Error} :
    valuesOf number column cells = .error failure ↔
      ∃ index cell, cells[index]? = some cell ∧
        (∀ other ∈ cells.take index, ∃ value, Value.ofCell other = .ok value) ∧
        (Value.ofCell cell).mapError (fun cause => Error.malformed number (column + index) cause.message) =
          .error failure := by
  rw [valuesOf_eq_mapM, Outcome.mapM_zipIdx_eq_error]
  simp only [Outcome.mapError_eq_ok,
    @Outcome.forall_mem_zipIdx _ _ _ fun cell => ∃ value, Value.ofCell cell = .ok value]

theorem ofCells_eq_ok : ofCells number arity cells = .ok row ↔ Carried arity cells row := by
  obtain ⟨values⟩ := row
  rw [ofCells, Carried, ← @valuesOf_eq_ok number cells 0 values]
  split
  · next complete => cases valuesOf number 0 cells <;> simp [Except.map, complete]
  · next wrong => simp [Outcome.fail, wrong]

theorem exists_carried : (∃ row, Carried arity cells row) ↔ Sound arity cells := by
  simp only [Carried, Sound, ← Outcome.exists_mapM_eq_ok, Outcome.mapM_eq_ok]
  constructor
  · rintro ⟨row, complete, carried⟩
    exact ⟨complete, row.values, carried⟩
  · rintro ⟨complete, values, carried⟩
    exact ⟨⟨values⟩, complete, carried⟩

/-- A row is refused for its number of cells, or fails as the first of its cells that has no value. -/
theorem ofCells_eq_error {failure : Failure Error} :
    ofCells number arity cells = .error failure ↔
      (cells.length ≠ arity ∧ failure = .error (.malformed number (min cells.length arity)
        s!"expected {arity} cells, found {cells.length}")) ∨
      (cells.length = arity ∧ ∃ column cell, cells[column]? = some cell ∧
        (∀ other ∈ cells.take column, ∃ value, Value.ofCell other = .ok value) ∧
        (Value.ofCell cell).mapError (fun cause => Error.malformed number column cause.message) =
          .error failure) := by
  rw [ofCells]
  split
  · next complete =>
    have carried : (valuesOf number 0 cells).map Row.mk = .error failure ↔
        valuesOf number 0 cells = .error failure := by
      cases valuesOf number 0 cells <;> simp [Except.map]
    rw [carried, valuesOf_eq_error]
    simp only [complete, Nat.zero_add, ne_eq, not_true_eq_false, false_and, false_or, true_and]
  · next wrong => simp only [Outcome.fail, wrong, Except.error.injEq, ne_eq, not_false_eq_true, true_and,
      false_and, or_false, eq_comm]

/-- The error of a row names its number, and what is wrong with it. -/
theorem ofCells_eq_defect : ofCells number arity cells = .error (.error cause) ↔
    ∃ column reason, Defect arity cells column reason ∧ cause = .malformed number column reason := by
  rw [ofCells_eq_error]
  constructor
  · rintro (⟨wrong, same⟩ | ⟨complete, column, cell, entry, earlier, failed⟩)
    · exact ⟨_, _, .count wrong, Failure.error.inj same⟩
    · obtain ⟨original, malformed, rfl⟩ := Outcome.mapError_eq_error.mp failed
      exact ⟨_, _, .cell complete entry earlier malformed, rfl⟩
  · rintro ⟨column, reason, defect, rfl⟩
    cases defect with
    | count wrong => exact .inl ⟨wrong, rfl⟩
    | cell complete entry earlier malformed =>
      exact .inr ⟨complete, _, _, entry, earlier, Outcome.mapError_eq_error.mpr ⟨_, malformed, rfl⟩⟩

/-- A row makes reading halt by one of its cells only. -/
theorem Boundless.of_halt (halted : ofCells number arity cells = .error (.halt reason)) :
    reason = .capacityOverflow ∧ Boundless arity cells := by
  rcases ofCells_eq_error.mp halted with ⟨-, same⟩ | ⟨complete, column, cell, entry, earlier, stops⟩
  · nomatch same
  · obtain ⟨rfl, boundless⟩ := Cell.Boundless.of_halt cell (Outcome.mapError_eq_halt.mp stops)
    exact ⟨rfl, complete, column, cell, entry, earlier, boundless⟩

theorem Boundless.halts (boundless : Boundless arity cells)
    (bounded : ∀ cell ∈ cells, cell.payload.length ≤ Bytes.capacity) (number : UInt64) :
    ofCells number arity cells = .error (.halt .capacityOverflow) := by
  obtain ⟨complete, column, cell, entry, earlier, inner⟩ := boundless
  refine ofCells_eq_error.mpr (.inr ⟨complete, column, cell, entry, earlier, ?_⟩)
  exact Outcome.mapError_eq_halt.mpr (inner.halts (bounded cell (List.mem_of_getElem? entry)))

/-- A row whose cells have values of their own carries a row of these values. -/
theorem carried_toCells (row : Row) (storable : row.Storable) :
    Carried row.values.length row.toCells row := by
  obtain ⟨values⟩ := row
  refine ⟨Value.length_toCells values, ?_⟩
  rw [toCells]
  induction values with
  | nil => exact .nil
  | cons value values ih =>
    obtain ⟨here, others⟩ := List.forall_mem_cons.mp storable
    exact .cons (Value.ofCell_toCell value here) (ih others)

theorem carried_map_toCells {rows : List Row}
    (complete : ∀ row ∈ rows, row.values.length = arity ∧ row.Storable) : List.Forall₂ (Carried arity) (rows.map toCells) rows := by
  rw [List.forall₂_map_left_iff, List.forall₂_same]
  intro row member
  obtain ⟨size, storable⟩ := complete row member
  exact size ▸ carried_toCells row storable

end Row

/-! ## Pages -/

namespace Page

variable {offset : UInt64} {arity : Nat} {cells : List Cell} {row : Row} {reason : Halt}

/-- The row at an index of a page. -/
def rowAt (offset : UInt64) (arity : Nat) (numbered : List Cell × Nat) : Outcome Error Row := do
  let number ← match advance offset numbered.2 with
    | .ok number => .ok number
    | .error reason => Outcome.halt reason
  Row.ofCells number arity numbered.1

private theorem rowsOf_eq_mapM (offset : UInt64) (arity index : Nat) (rows : List (List Cell)) :
    rowsOf offset arity index rows = (rows.zipIdx index).mapM (rowAt offset arity) := by
  induction rows generalizing index with
  | nil => rfl
  | cons cells rows ih =>
    rw [rowsOf, ih, List.zipIdx_cons, List.mapM_cons, rowAt]
    cases advance offset index <;> rfl

/-- A row with a number is read as such. -/
theorem rowAt_of_addressable {index : Nat} (addressable : offset.toNat + index < UInt64.size) :
    rowAt offset arity (cells, index) = Row.ofCells (offset + UInt64.ofNat index) arity cells := by
  rw [rowAt, advance, if_pos addressable]
  rfl

theorem rowAt_of_overflow {index : Nat} (beyond : UInt64.size ≤ offset.toNat + index) :
    rowAt offset arity (cells, index) = .error (.halt .additionOverflow) := by
  rw [rowAt, advance, if_neg (Nat.not_lt.mpr beyond)]
  rfl

theorem toNat_offset_add {index : Nat} (addressable : offset.toNat + index < UInt64.size) :
    (offset + UInt64.ofNat index).toNat = offset.toNat + index := by
  rw [UInt64.toNat_add, UInt64.toNat_ofNat_of_lt' (by omega)]
  exact Nat.mod_eq_of_lt addressable

private theorem rowAt_eq_ok {numbered : List Cell × Nat} : rowAt offset arity numbered = .ok row ↔
    offset.toNat + numbered.2 < UInt64.size ∧ Row.Carried arity numbered.1 row := by
  obtain ⟨cells, index⟩ := numbered
  by_cases addressable : offset.toNat + index < UInt64.size
  · simp only [rowAt_of_addressable addressable, Row.ofCells_eq_ok, addressable, true_and]
  · simp [rowAt_of_overflow (Nat.not_lt.mp addressable), addressable]

private theorem addressable_zipIdx {rows : List (List Cell)} :
    (∀ numbered ∈ rows.zipIdx, offset.toNat + numbered.2 < UInt64.size) ↔
      offset.toNat + rows.length ≤ UInt64.size := by
  constructor
  · intro each
    rcases rows.eq_nil_or_concat with rfl | ⟨front, cells, rfl⟩
    · exact Nat.le_of_lt offset.toNat_lt
    · rw [List.length_concat]
      exact each (cells, front.length) (List.mk_mem_zipIdx_iff_getElem?.mpr (by simp))
  · intro addressable numbered member
    have := List.snd_lt_of_mem_zipIdx member
    omega

/-- All rows of a page can be read if they have numbers and nothing is wrong with them. -/
theorem readable_zipIdx {rows : List (List Cell)} :
    (∀ numbered ∈ rows.zipIdx, ∃ row, rowAt offset arity numbered = .ok row) ↔
      offset.toNat + rows.length ≤ UInt64.size ∧ ∀ cells ∈ rows, Row.Sound arity cells := by
  simp only [rowAt_eq_ok, exists_and_left, Row.exists_carried]
  rw [← addressable_zipIdx, ← @Outcome.forall_mem_zipIdx _ rows 0 (Row.Sound arity)]
  exact forall₂_and

private theorem ofWire_eq_ok_iff_rows {page : WirePage} {result : Page} : ofWire arity page = .ok result ↔
    rowsOf page.offset arity 0 page.rows = .ok result.rows ∧
      result.offset = page.offset ∧ result.isLast = page.isLast := by
  obtain ⟨offset, isLast, rows⟩ := result
  rw [ofWire]
  cases rowsOf page.offset arity 0 page.rows with
  | error failure => simp [Except.map]
  | ok found =>
    simp only [Except.map, Except.ok.injEq, Page.mk.injEq]
    tauto

/-- A page is read if its rows have numbers and every cell of them has a value. -/
theorem ofWire_eq_ok {page : WirePage} {result : Page} :
    ofWire arity page = .ok result ↔
      page.offset.toNat + page.rows.length ≤ UInt64.size ∧ result.offset = page.offset ∧
        result.isLast = page.isLast ∧ List.Forall₂ (Row.Carried arity) page.rows result.rows := by
  have read : rowsOf page.offset arity 0 page.rows = .ok result.rows ↔
      page.offset.toNat + page.rows.length ≤ UInt64.size ∧
        List.Forall₂ (Row.Carried arity) page.rows result.rows := by
    rw [rowsOf_eq_mapM, Outcome.mapM_eq_ok]
    simp only [rowAt_eq_ok]
    rw [List.forall₂_and_left, addressable_zipIdx, Outcome.forall₂_zipIdx]
  rw [ofWire_eq_ok_iff_rows, read]
  tauto

private theorem exists_ofWire_eq_ok {page : WirePage} : (∃ result, ofWire arity page = .ok result) ↔
    page.offset.toNat + page.rows.length ≤ UInt64.size ∧ ∀ cells ∈ page.rows, Row.Sound arity cells := by
  rw [← readable_zipIdx, ← Outcome.exists_mapM_eq_ok, ← rowsOf_eq_mapM]
  simp only [ofWire_eq_ok_iff_rows]
  constructor
  · rintro ⟨result, read, -⟩
    exact ⟨result.rows, read⟩
  · rintro ⟨rows, read⟩
    exact ⟨⟨page.offset, page.isLast, rows⟩, read, rfl, rfl⟩

/-- Reading a page stops at the first row that cannot be read. -/
theorem ofWire_eq_error {page : WirePage} {failure : Failure Error} :
    ofWire arity page = .error failure ↔
      ∃ index cells, page.rows[index]? = some cells ∧ page.offset.toNat + index ≤ UInt64.size ∧
        (∀ earlier ∈ page.rows.take index, Row.Sound arity earlier) ∧
        rowAt page.offset arity (cells, index) = .error failure := by
  have failed : ofWire arity page = .error failure ↔
      rowsOf page.offset arity 0 page.rows = .error failure := by
    rw [ofWire]
    cases rowsOf page.offset arity 0 page.rows <;> simp [Except.map]
  rw [failed, rowsOf_eq_mapM, Outcome.mapM_zipIdx_eq_error]
  refine exists_congr fun index => exists_congr fun cells => and_congr_right fun entry => ?_
  have inside : (page.rows.take index).length = index := by
    have := (List.getElem?_eq_some_iff.mp entry).1
    rw [List.length_take]
    omega
  rw [readable_zipIdx, inside, Nat.zero_add, and_assoc]

end Page

/-- Reading the page comes upon a boundless cell before anything else is wrong. -/
def WirePage.Boundless (arity : Nat) (page : WirePage) : Prop :=
  ∃ (index : Nat) (cells : List Cell), page.rows[index]? = some cells ∧
    (∀ earlier ∈ page.rows.take index, Row.Sound arity earlier) ∧ Row.Boundless arity cells

namespace Page

variable {arity : Nat} {page : WirePage} {cause : Error} {reason : Halt}

/-- The index of a row leads to its number. -/
theorem addressable_of_entry {index : Nat} {cells : List Cell}
    (addressable : page.offset.toNat + page.rows.length ≤ UInt64.size)
    (entry : page.rows[index]? = some cells) : page.offset.toNat + index < UInt64.size := by
  have := (List.getElem?_eq_some_iff.mp entry).1
  omega

/-- The error of a page is that of its first row that is not sound, at its place in the result. -/
theorem ofWire_eq_defect (addressable : page.offset.toNat + page.rows.length ≤ UInt64.size) :
    ofWire arity page = .error (.error cause) ↔
      ∃ index cells number column reason, page.rows[index]? = some cells ∧
        (∀ earlier ∈ page.rows.take index, Row.Sound arity earlier) ∧
        Row.Defect arity cells column reason ∧ number.toNat = page.offset.toNat + index ∧
        cause = .malformed number column reason := by
  rw [ofWire_eq_error]
  constructor
  · rintro ⟨index, cells, entry, -, earlier, failed⟩
    have inside := addressable_of_entry addressable entry
    rw [rowAt_of_addressable inside] at failed
    obtain ⟨column, reason, defect, rfl⟩ := Row.ofCells_eq_defect.mp failed
    exact ⟨index, cells, _, column, reason, entry, earlier, defect, toNat_offset_add inside, rfl⟩
  · rintro ⟨index, cells, number, column, reason, entry, earlier, defect, place, rfl⟩
    have inside := addressable_of_entry addressable entry
    refine ⟨index, cells, entry, Nat.le_of_lt inside, earlier, ?_⟩
    obtain rfl := UInt64.toNat_inj.mp ((toNat_offset_add inside).trans place.symm)
    rw [rowAt_of_addressable inside]
    exact Row.ofCells_eq_defect.mpr ⟨column, reason, defect, rfl⟩

private theorem boundless_of_halt (addressable : page.offset.toNat + page.rows.length ≤ UInt64.size)
    (halted : ofWire arity page = .error (.halt reason)) :
    reason = .capacityOverflow ∧ page.Boundless arity := by
  obtain ⟨index, cells, entry, -, earlier, stops⟩ := ofWire_eq_error.mp halted
  rw [rowAt_of_addressable (addressable_of_entry addressable entry)] at stops
  obtain ⟨rfl, boundless⟩ := Row.Boundless.of_halt stops
  exact ⟨rfl, index, cells, entry, earlier, boundless⟩

private theorem not_boundless (allocatable : ∀ cells ∈ page.rows, ∀ cell ∈ cells, ¬ cell.Boundless) :
    ¬ page.Boundless arity := by
  rintro ⟨index, cells, entry, -, -, column, cell, held, -, boundless⟩
  exact allocatable cells (List.mem_of_getElem? entry) cell (List.mem_of_getElem? held) boundless

/-- Reading a page with numbers for all its rows gives the page, or names its first defect, unless it
halts at a boundless cell. -/
theorem ofWire_cases (addressable : page.offset.toNat + page.rows.length ≤ UInt64.size) :
    (∃ result, ofWire arity page = .ok result) ∨
      (∃ number column reason, ofWire arity page = .error (.error (.malformed number column reason))) ∨
      ofWire arity page = .error (.halt .capacityOverflow) ∧ page.Boundless arity := by
  rcases outcome : ofWire arity page with (cause | reason) | result
  · obtain ⟨-, -, number, column, reason, -, -, -, -, rfl⟩ := (ofWire_eq_defect addressable).mp outcome
    exact .inr (.inl ⟨number, column, reason, rfl⟩)
  · obtain ⟨rfl, boundless⟩ := boundless_of_halt addressable outcome
    exact .inr (.inr ⟨rfl, boundless⟩)
  · exact .inl ⟨result, rfl⟩

/-- A page whose rows are numbered and whose cells are not boundless is read exactly if each of its rows
is sound, and then gives the values of the cells in order. Otherwise its first row that is not sound is
named, by its place in the result, with the column that is to blame and the reason. Rows that were
written with as many values as there are columns are read back. -/
theorem first_defect_named (arity : Nat) (page : WirePage)
    (addressable : page.offset.toNat + page.rows.length < UInt64.size) :
    ((∀ cells ∈ page.rows, ∀ cell ∈ cells, ¬ cell.Boundless) →
      ((∃ result, ofWire arity page = .ok result) ↔ ∀ cells ∈ page.rows, Row.Sound arity cells) ∧
      (∀ result, ofWire arity page = .ok result ↔ result.offset = page.offset ∧
        result.isLast = page.isLast ∧ List.Forall₂ (Row.Carried arity) page.rows result.rows) ∧
      (∀ failure, ofWire arity page = .error failure ↔
        ∃ index cells number column reason, page.rows[index]? = some cells ∧
          (∀ earlier ∈ page.rows.take index, Row.Sound arity earlier) ∧
          Row.Defect arity cells column reason ∧ number.toNat = page.offset.toNat + index ∧
          failure = .error (.malformed number column reason))) ∧
    (∀ rows : List Row, page.rows = rows.map Row.toCells →
      (∀ row ∈ rows, row.values.length = arity ∧ row.Storable) →
      ofWire arity page = .ok ⟨page.offset, page.isLast, rows⟩) := by
  have fits := Nat.le_of_lt addressable
  refine ⟨fun allocatable => ⟨?_, fun result => ?_, fun failure => ?_⟩, fun rows made complete => ?_⟩
  · rw [exists_ofWire_eq_ok]
    exact and_iff_right fits
  · rw [ofWire_eq_ok]
    exact and_iff_right fits
  · cases failure with
    | error cause => simp only [ofWire_eq_defect fits, Failure.error.injEq]
    | halt reason =>
      constructor
      · intro halted
        obtain ⟨-, boundless⟩ := boundless_of_halt fits halted
        exact absurd boundless (not_boundless allocatable)
      · rintro ⟨_, _, _, _, _, _, _, _, _, same⟩
        nomatch same
  · refine ofWire_eq_ok.mpr ⟨fits, rfl, rfl, made ▸ Row.carried_map_toCells complete⟩

/-- A page of two columns that begins at row 40: a row with an array, a row whose second cell is cut off,
and one with a cell too many. -/
def damaged : WirePage where
  offset := 40
  isLast := false
  rows := [Row.toCells ⟨[.array [.null, .bool true], .text "a"]⟩,
    [Value.toCell (.int64 8), ⟨.int32, [1, 2]⟩], Row.toCells ⟨[.int64 9, .text "c", .null]⟩]

/-- The second row is named; and the first row alone is read back. -/
theorem first_defect_named_damaged :
    ofWire 2 damaged = .error (.error (.malformed 41 1 "expected 4 bytes, found 2")) ∧
      ofWire 2 { damaged with rows := damaged.rows.take 1 } =
        .ok ⟨40, false, [⟨[.array [.null, .bool true], .text "a"]⟩]⟩ := by
  let values := [Value.array [.null, .bool true], .text "a", .int64 8, .int64 9, .text "c", .null]
  have small : ∀ value ∈ values, 3 * (Value.toCell value).payload.length ≤ Bytes.capacity := by
    decide +kernel
  have each : ∀ cells ∈ damaged.rows, ∀ cell ∈ cells,
      cell = ⟨.int32, [1, 2]⟩ ∨ ∃ value ∈ values, Value.toCell value = cell := by decide +kernel
  have allocatable : ∀ cells ∈ damaged.rows, ∀ cell ∈ cells, ¬ cell.Boundless := by
    intro cells member cell held
    rcases each cells member cell held with rfl | ⟨value, listed, rfl⟩
    · nofun
    · have bounded := small value listed
      exact Cell.not_boundless_toCell (Value.storable_of_small value bounded) (by omega)
  have first : Row.Storable ⟨[.array [.null, .bool true], .text "a"]⟩ :=
    Row.storable_of_small (by decide +kernel)
  obtain ⟨-, -, defects⟩ := (first_defect_named 2 damaged (by decide)).1 allocatable
  refine ⟨(defects _).mpr ⟨1, [Value.toCell (.int64 8), ⟨.int32, [1, 2]⟩], 41, 1,
    (CellError.wrongLength 4 2).message, rfl, ?_, .cell rfl rfl ?_ ?_, rfl, rfl⟩, ?_⟩
  · refine List.forall_mem_singleton.mpr (Row.exists_carried.mp ⟨_, Row.carried_toCells _ first⟩)
  · exact List.forall_mem_singleton.mpr ⟨_, Value.ofCell_toCell (.int64 8) trivial⟩
  · rw [Value.ofCell]
    rfl
  · refine (first_defect_named 2 { damaged with rows := damaged.rows.take 1 } (by decide)).2
      [⟨[.array [.null, .bool true], .text "a"]⟩] rfl ?_
    exact List.forall_mem_singleton.mpr ⟨rfl, first⟩

/-- Reading a cell of any kind with any bytes gives a value or an error, and reading a page whose rows
have numbers gives the page or names a malformed cell, whatever lengths the nested arrays announce; but
where reading comes upon a length that cannot be set aside, it halts. -/
theorem malformed_unless_boundless (cell : Cell) (arity : Nat) (page : WirePage) :
    (cell.payload.length ≤ maxFrameLength →
      (¬ cell.Boundless → (∃ value, Value.ofCell cell = .ok value) ∨
        ∃ cause, Value.ofCell cell = .error (.error cause)) ∧
      (cell.Boundless → Value.ofCell cell = .error (.halt .capacityOverflow))) ∧
    (page.offset.toNat + page.rows.length ≤ UInt64.size →
      (¬ page.Boundless arity → (∃ result, ofWire arity page = .ok result) ∨
        ∃ number column reason, ofWire arity page = .error (.error (.malformed number column reason))) ∧
      ((∀ cells ∈ page.rows, ∀ cell ∈ cells, cell.payload.length ≤ Bytes.capacity) →
        page.Boundless arity → ofWire arity page = .error (.halt .capacityOverflow))) := by
  constructor
  · intro bounded
    have capacity := maxFrameLength_le_capacity
    have room : cell.payload.length ≤ Bytes.capacity := by omega
    refine ⟨fun bound => ?_, fun boundless => boundless.halts room⟩
    rcases outcome : Value.ofCell cell with (cause | reason) | value
    · exact .inr ⟨cause, rfl⟩
    · exact absurd (Cell.Boundless.of_halt cell outcome).2 bound
    · exact .inl ⟨value, rfl⟩
  · intro addressable
    constructor
    · intro bound
      rcases ofWire_cases addressable with read | malformed | ⟨-, boundless⟩
      · exact .inl read
      · exact .inr malformed
      · exact absurd boundless bound
    · rintro bounded ⟨index, cells, entry, earlier, boundless⟩
      have inside := addressable_of_entry addressable entry
      refine ofWire_eq_error.mpr ⟨index, cells, entry, Nat.le_of_lt inside, earlier, ?_⟩
      rw [rowAt_of_addressable inside]
      exact boundless.halts (bounded cells (List.mem_of_getElem? entry)) _

/-- An array of a missing value and an array, which begins with a text of 2 ^ 63 bytes. -/
def hollow : Cell :=
  ⟨.array, (Codec.list Cell.codec).write [Value.toCell .null,
    ⟨.array, LittleEndian.write 8 1 ++ (Codec.tag Kind.text.number ++ LittleEndian.write 8 (2 ^ 63))⟩]⟩

/-- The array halts its reader, also as the only cell of a page. Behind a row without cells it is not
reached. -/
theorem malformed_unless_boundless_hollow :
    Value.ofCell hollow = .error (.halt .capacityOverflow) ∧
      ofWire 1 ⟨5, true, [[hollow]]⟩ = .error (.halt .capacityOverflow) ∧
      ((∃ result, ofWire 1 ⟨5, true, [[], [hollow]]⟩ = .ok result) ∨
        ∃ number column reason,
          ofWire 1 ⟨5, true, [[], [hollow]]⟩ = .error (.error (.malformed number column reason))) := by
  have announces : (LittleEndian.write 8 (2 ^ 63)).Announces (Layout.size UInt8) :=
    ⟨2 ^ 63, [], (List.append_nil _).symm, by decide, by decide⟩
  have boundless : hollow.Boundless := by
    have inner := @Cell.Boundless.payload 1 [] .text _ (by decide) (by decide) announces
    refine @Cell.Boundless.item _ 1 _ rfl ?_ inner
    exact List.forall_mem_singleton.mpr ⟨.null, Value.ofCell_toCell .null trivial⟩
  have bounded : hollow.payload.length ≤ maxFrameLength := by decide
  obtain ⟨read, alone⟩ := malformed_unless_boundless hollow 1 ⟨5, true, [[hollow]]⟩
  obtain ⟨-, behind⟩ := malformed_unless_boundless hollow 1 ⟨5, true, [[], [hollow]]⟩
  refine ⟨(read bounded).2 boundless, (alone (by decide)).2 ?_ ?_, (behind (by decide)).1 ?_⟩
  · have capacity := maxFrameLength_le_capacity
    simpa using (by omega : hollow.payload.length ≤ Bytes.capacity)
  · exact ⟨0, [hollow], rfl, nofun, rfl, 0, hollow, rfl, nofun, boundless⟩
  · rintro ⟨index, cells, entry, earlier, complete, -⟩
    cases index with
    | zero => cases entry; nomatch complete
    | succ index => nomatch (earlier [] (List.mem_cons_self ..)).1

/-- A list of 2 ^ 63 cells, announced in eight bytes, is no error but the end of the thread. -/
theorem announced_array_halts :
    let cell : Cell := ⟨.array, LittleEndian.write 8 (2 ^ 63)⟩
    cell.payload.length ≤ maxFrameLength ∧ Value.ofCell cell = .error (.halt .capacityOverflow) ∧
      ofWire 1 ⟨0, true, [[cell]]⟩ = .error (.halt .capacityOverflow) := by
  intro cell
  have boundless : cell.Boundless :=
    .count ⟨2 ^ 63, [], (List.append_nil _).symm, by decide, by decide⟩
  have halts := boundless.halts (by decide)
  refine ⟨by decide, halts, ofWire_eq_error.mpr ⟨0, [cell], rfl, by decide, nofun, ?_⟩⟩
  rw [rowAt_of_addressable (by decide)]
  have row : Row.Boundless 1 [cell] := ⟨rfl, 0, cell, rfl, nofun, boundless⟩
  exact row.halts (List.forall_mem_singleton.mpr (by decide)) _

end Page

end PagedResults
