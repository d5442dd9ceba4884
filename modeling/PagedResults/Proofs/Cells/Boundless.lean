import Mathlib.Data.List.Forall2
import PagedResults.Proofs.Cells.Exact

/-! # Cells that nobody can read

Every length inside the payload of an array is believed before the bytes behind it are looked at, and
one that cannot be set aside halts the reader instead of giving an error. Such a length may stand for
the number of cells of the array, or for the payload of one of its cells, or in the array within such a
cell, and so on. Nothing else stands in the way of a value or an error.
-/

namespace PagedResults

/-! ## Reading one after the other -/

namespace Outcome

variable {ε α β : Type} {read : α → Outcome ε β} {items : List α} {failure : Failure ε}

theorem mapM_eq_ok {values : List β} :
    items.mapM read = .ok values ↔ List.Forall₂ (fun item value => read item = .ok value) items values := by
  induction items generalizing values with
  | nil =>
    rw [List.mapM_nil, List.forall₂_nil_left_iff]
    constructor
    · exact fun done => (Except.ok.inj done).symm
    · rintro rfl
      rfl
  | cons item items ih =>
    rw [List.mapM_cons, List.forall₂_cons_left_iff]
    simp only [← ih]
    cases read item with
    | error cause => simp [bind, Except.bind]
    | ok value => cases items.mapM read <;> simp [bind, Except.bind, pure, Except.pure, eq_comm]

/-- Reading stops at the first item that cannot be read, and fails as this item does. -/
theorem mapM_eq_error :
    items.mapM read = .error failure ↔
      ∃ index item, items[index]? = some item ∧
        (∀ earlier ∈ items.take index, ∃ value, read earlier = .ok value) ∧
        read item = .error failure := by
  induction items with
  | nil =>
    constructor
    · exact nofun
    · rintro ⟨index, item, entry, -⟩
      nomatch entry
  | cons item items ih =>
    have head : (item :: items).mapM read = .error failure ↔ read item = .error failure ∨
        ((∃ value, read item = .ok value) ∧ items.mapM read = .error failure) := by
      rw [List.mapM_cons]
      cases read item with
      | error cause => simp [bind, Except.bind]
      | ok value => cases items.mapM read <;> simp [bind, Except.bind, pure, Except.pure]
    rw [head, ih]
    constructor
    · rintro (failed | ⟨succeeds, index, other, entry, earlier, failed⟩)
      · exact ⟨0, item, rfl, nofun, failed⟩
      · refine ⟨index + 1, other, entry, ?_, failed⟩
        rw [List.take_succ_cons, List.forall_mem_cons]
        exact ⟨succeeds, earlier⟩
    · rintro ⟨index, other, entry, earlier, failed⟩
      cases index with
      | zero =>
        obtain rfl := Option.some.inj entry
        exact .inl failed
      | succ index =>
        rw [List.take_succ_cons, List.forall_mem_cons] at earlier
        exact .inr ⟨earlier.1, index, other, entry, earlier.2, failed⟩

/-- All items are read, unless one of them cannot be. -/
theorem exists_mapM_eq_ok :
    (∃ values, items.mapM read = .ok values) ↔ ∀ item ∈ items, ∃ value, read item = .ok value := by
  constructor
  · rintro ⟨values, done⟩
    have related := mapM_eq_ok.mp done
    clear done
    induction related with
    | nil => exact nofun
    | cons succeeds _ ih => exact List.forall_mem_cons.mpr ⟨⟨_, succeeds⟩, ih⟩
  · intro each
    cases outcome : items.mapM read with
    | ok values => exact ⟨values, rfl⟩
    | error failure =>
      obtain ⟨index, item, entry, -, failed⟩ := mapM_eq_error.mp outcome
      obtain ⟨value, succeeds⟩ := each item (List.mem_of_getElem? entry)
      nomatch failed.symm.trans succeeds

end Outcome

/-! ## Where a reader halts -/

namespace Reader

variable {α β : Type} {input : Bytes} {reason : Halt}

private theorem bind_eq_halt {first : Reader α} {next : α → Reader β} :
    (first >>= next) input = .error (.halt reason) ↔
      first input = .error (.halt reason) ∨
        ∃ value rest, first input = .ok (value, rest) ∧ next value rest = .error (.halt reason) := by
  rw [bind_apply]
  cases first input with
  | error failure => simp
  | ok result =>
    obtain ⟨value, rest⟩ := result
    constructor
    · intro halted
      exact .inr ⟨value, rest, rfl, halted⟩
    · rintro (halted | ⟨_, _, same, halted⟩)
      · nomatch halted
      · cases same
        exact halted

private theorem map_eq_halt {reader : Reader α} {change : α → β} :
    (change <$> reader) input = .error (.halt reason) ↔ reader input = .error (.halt reason) := by
  rw [map_eq_pure_bind, bind_eq_halt]
  constructor
  · rintro (halted | ⟨_, _, -, done⟩)
    · exact halted
    · nomatch done
  · exact .inl

private theorem bytes_eq_halt :
    Codec.bytes.read input = .error (.halt reason) ↔
      reason = .capacityOverflow ∧ input.Announces (Layout.size UInt8) := by
  refine bind_eq_halt.trans ⟨?_, fun halts => .inl (length_eq_halt.mpr halts)⟩
  rintro (halted | ⟨_, _, -, halted⟩)
  · exact length_eq_halt.mp halted
  · exact absurd halted take_ne_halt

/-- Reading several items halts at the first one that halts. -/
theorem many_eq_halt {item : Reader α} {count : Nat} :
    many item count input = .error (.halt reason) ↔
      ∃ number < count, ∃ values rest, many item number input = .ok (values, rest) ∧
        item rest = .error (.halt reason) := by
  induction count generalizing input with
  | zero =>
    constructor
    · exact nofun
    · rintro ⟨_, less, -⟩
      nomatch less
  | succ count ih =>
    refine bind_eq_halt.trans ⟨?_, ?_⟩
    · rintro (halted | ⟨first, left, read, others⟩)
      · exact ⟨0, Nat.succ_pos count, [], input, rfl, halted⟩
      · rcases bind_eq_halt.mp others with halted | ⟨_, _, -, done⟩
        · obtain ⟨number, less, values, rest, all, stops⟩ := ih.mp halted
          refine ⟨number + 1, Nat.succ_lt_succ less, first :: values, rest, ?_, stops⟩
          exact bind_eq_ok.mpr ⟨first, left, read, bind_eq_ok.mpr ⟨values, rest, all, rfl⟩⟩
        · nomatch done
    · rintro ⟨number, less, values, rest, all, stops⟩
      cases number with
      | zero =>
        obtain ⟨rfl, rfl⟩ := pure_eq_ok.mp all
        exact .inl stops
      | succ number =>
        obtain ⟨first, left, read, others⟩ := bind_eq_ok.mp all
        obtain ⟨values, last, more, done⟩ := bind_eq_ok.mp others
        obtain ⟨rfl, rfl⟩ := pure_eq_ok.mp done
        refine .inr ⟨first, left, read, bind_eq_halt.mpr (.inl (ih.mpr ?_))⟩
        exact ⟨number, Nat.lt_of_succ_lt_succ less, values, last, more, stops⟩

end Reader

private theorem Kind.read_ne_halt {input : Bytes} {reason : Halt} : codec.read input ≠ .error (.halt reason) := by
  intro halted
  rcases Reader.bind_eq_halt.mp halted with halted | ⟨found, rest, -, chosen⟩
  · exact Reader.word_ne_halt halted
  · cases entry : all[found]? with
    | none =>
      rw [List.getElem?_map, entry] at chosen
      nomatch chosen
    | some kind =>
      rw [List.getElem?_map, entry] at chosen
      nomatch chosen

namespace Cell

variable {input : Bytes} {reason : Halt}

/-- Reading a cell halts at the length of its payload only. -/
theorem read_eq_halt :
    codec.read input = .error (.halt reason) ↔
      reason = .capacityOverflow ∧
        ∃ (kind : Kind) (rest : Bytes), input = Codec.tag kind.number ++ rest ∧
          rest.Announces (Layout.size UInt8) := by
  refine Reader.map_eq_halt.trans (Reader.bind_eq_halt.trans ⟨?_, ?_⟩)
  · rintro (halted | ⟨kind, rest, read, others⟩)
    · exact absurd halted Kind.read_ne_halt
    · rcases Reader.bind_eq_halt.mp others with halted | ⟨_, _, -, done⟩
      · obtain ⟨rfl, announces⟩ := Reader.bytes_eq_halt.mp halted
        exact ⟨rfl, kind, rest, (Kind.codec_exact.canonical.write_read read).symm, announces⟩
      · nomatch done
  · rintro ⟨rfl, kind, rest, rfl, announces⟩
    refine .inr ⟨kind, rest, Kind.codec_roundTrips.read_write kind rest trivial, ?_⟩
    exact Reader.bind_eq_halt.mpr (.inl (Reader.bytes_eq_halt.mpr ⟨rfl, announces⟩))

/-- A cell is an array in which reading comes upon a length that cannot be set aside. -/
inductive Boundless : Cell → Prop
  /-- It stands where the array says how many cells it has. -/
  | count {payload : Bytes} (announces : payload.Announces (Layout.size Cell)) : Boundless ⟨.array, payload⟩
  /-- It stands before the payload of one of the cells. -/
  | payload {count : Nat} {cells : List Cell} {kind : Kind} {rest : Bytes} (missing : cells.length < count)
      (possible : count * Layout.size Cell ≤ Bytes.capacity)
      (announces : rest.Announces (Layout.size UInt8)) :
      Boundless ⟨.array, LittleEndian.write 8 count ++ (cells.flatMap codec.write ++
        (Codec.tag kind.number ++ rest))⟩
  /-- It stands in a cell of the array, behind cells which have values. -/
  | item {cells : List Cell} {index : Nat} {cell : Cell} (entry : cells[index]? = some cell)
      (earlier : ∀ other ∈ cells.take index, ∃ value, Value.ofCell other = .ok value)
      (inner : cell.Boundless) : Boundless ⟨.array, (Codec.list codec).write cells⟩

/-- The list of cells of an array makes reading halt at one of these places only. -/
theorem Boundless.of_cells_halt (halted : (Codec.list codec).read input = .error (.halt reason)) :
    reason = .capacityOverflow ∧ Boundless ⟨.array, input⟩ := by
  rcases Reader.bind_eq_halt.mp halted with halted | ⟨count, left, counted, halted⟩
  · obtain ⟨rfl, announces⟩ := Reader.length_eq_halt.mp halted
    exact ⟨rfl, .count announces⟩
  · obtain ⟨number, missing, cells, behind, all, stops⟩ := Reader.many_eq_halt.mp halted
    obtain ⟨rfl, kind, rest, rfl, announces⟩ := read_eq_halt.mp stops
    obtain ⟨rfl, rfl, -⟩ := Codec.many_canonical codec_exact.canonical all
    obtain rfl := Codec.length_canonical counted
    exact ⟨rfl, .payload missing (Reader.length_eq_ok.mp counted).2 announces⟩

end Cell

namespace Value

variable {payload : Bytes} {cell : Cell} {reason : Halt}

private theorem nestedCells_eq_halt : nestedCells payload = .error (.halt reason) ↔
    (Codec.list Cell.codec).read payload = .error (.halt reason) := by
  rw [nestedCells]
  split <;> simp_all [Outcome.fail, Outcome.halt]

private theorem fixedWord_map_ne_halt {width : Nat} {build : Nat → Value} :
    (fixedWord width payload).map build ≠ .error (.halt reason) := by
  rw [fixedWord]
  split <;> simp [Except.map, Outcome.fail]

private theorem fixedWords_map_ne_halt {first second : Nat} {build : Nat × Nat → Value} :
    (fixedWords first second payload).map build ≠ .error (.halt reason) := by
  rw [fixedWords]
  split <;> simp [Except.map, Outcome.fail]

/-- Of all cells only arrays make reading halt, at the list of their cells or at one of these. -/
theorem ofCell_eq_halt : ofCell cell = .error (.halt reason) ↔
    cell.kind = .array ∧ (nestedCells cell.payload = .error (.halt reason) ∨
      ∃ cells, nestedCells cell.payload = .ok cells ∧ cells.mapM ofCell = .error (.halt reason)) := by
  obtain ⟨kind, payload⟩ := cell
  constructor
  · intro halted
    cases kind <;> rw [ofCell] at halted <;> dsimp only at halted
    case null => split at halted <;> cases halted
    case bool =>
      split at halted
      · cases halted
      · split at halted <;> cases halted
    case text => split at halted <;> cases halted
    case bytes => cases halted
    case decimal => exact absurd halted fixedWords_map_ne_halt
    case lob => exact absurd halted fixedWords_map_ne_halt
    case array =>
      refine ⟨rfl, ?_⟩
      split at halted
      · next cells nested =>
        rw [List.mapM_subtype (fun _ _ => rfl), List.unattach_attach] at halted
        refine .inr ⟨cells, nested, ?_⟩
        cases all : cells.mapM ofCell with
        | ok values =>
          rw [all] at halted
          cases halted
        | error failure =>
          rw [all] at halted
          cases halted
          rfl
      · next failure nested =>
        cases halted
        exact .inl nested
    all_goals exact absurd halted fixedWord_map_ne_halt
  · rintro ⟨rfl, halted | ⟨cells, nested, halted⟩⟩
    · rw [ofCell]
      dsimp only
      split
      · next cells nested => cases nested.symm.trans halted
      · next failure nested =>
        cases nested.symm.trans halted
        rfl
    · rw [ofCell_array nested, halted]
      rfl

end Value

namespace Cell

/-- Reading a cell halts for no other reason. -/
theorem Boundless.of_halt : (cell : Cell) → {reason : Halt} →
    Value.ofCell cell = .error (.halt reason) → reason = .capacityOverflow ∧ cell.Boundless := by
  rintro ⟨kind, payload⟩ reason halted
  obtain ⟨rfl, halted | ⟨cells, nested, halted⟩⟩ := Value.ofCell_eq_halt.mp halted
  · exact of_cells_halt (Value.nestedCells_eq_halt.mp halted)
  · obtain ⟨index, inner, entry, earlier, stops⟩ := Outcome.mapM_eq_error.mp halted
    have read := Value.nestedCells_eq_ok.mp nested
    have _shorter : inner.payload.length + 20 ≤ payload.length :=
      Reader.cell_shorter read (List.mem_of_getElem? entry)
    obtain ⟨rfl, boundless⟩ := of_halt inner stops
    have written : (Codec.list codec).write cells ++ [] = payload := cells_exact.canonical.write_read read
    rw [List.append_nil] at written
    exact ⟨rfl, written ▸ .item entry earlier boundless⟩
termination_by cell => cell.payload.length

/-- Cells whose bytes are there can be in memory one by one. -/
theorem storable_of_length {cells : List Cell} (bounded : (cells.flatMap codec.write).length ≤ Bytes.capacity) :
    ∀ cell ∈ cells, codec.Storable cell := by
  intro cell member
  have part := Codec.length_write_le codec member
  rw [length_write] at part
  refine ⟨trivial, ?_⟩
  change cell.payload.length * 1 ≤ _
  omega

/-- Reading a boundless cell halts, as far as its bytes can be there at all. -/
theorem Boundless.halts {cell : Cell} (boundless : cell.Boundless)
    (bounded : cell.payload.length ≤ Bytes.capacity) :
    Value.ofCell cell = .error (.halt .capacityOverflow) := by
  have counted {payload : Bytes} (announces : payload.Announces (Layout.size Cell)) :
      Value.ofCell ⟨.array, payload⟩ = .error (.halt .capacityOverflow) := by
    refine Value.ofCell_eq_halt.mpr ⟨rfl, .inl (Value.nestedCells_eq_halt.mpr ?_)⟩
    exact Reader.bind_eq_halt.mpr (.inl (Reader.length_eq_halt.mpr ⟨rfl, announces⟩))
  induction boundless with
  | count announces => exact counted announces
  | @payload count cells kind rest missing possible announces =>
    refine Value.ofCell_eq_halt.mpr ⟨rfl, .inl (Value.nestedCells_eq_halt.mpr ?_)⟩
    have size : (cells.flatMap codec.write).length ≤ Bytes.capacity := by
      rw [List.length_append, List.length_append] at bounded
      omega
    refine Reader.bind_eq_halt.mpr (.inr ⟨count, _, Reader.length_write possible codec_takes.size_pos _, ?_⟩)
    refine Reader.many_eq_halt.mpr ⟨cells.length, missing, cells, _,
      Codec.many_write codec_roundTrips (storable_of_length size) _, ?_⟩
    exact read_eq_halt.mpr ⟨rfl, kind, rest, rfl, announces⟩
  | @item cells index inner entry earlier _ ih =>
    have size := Codec.length_list codec cells
    dsimp only at bounded
    by_cases possible : cells.length * Layout.size Cell ≤ Bytes.capacity
    · have nested := Value.nestedCells_write ⟨possible, storable_of_length (by omega)⟩
      have shorter := Reader.cell_shorter (Value.nestedCells_eq_ok.mp nested) (List.mem_of_getElem? entry)
      refine Value.ofCell_eq_halt.mpr ⟨rfl, .inr ⟨cells, nested, Outcome.mapM_eq_error.mpr ?_⟩⟩
      exact ⟨index, inner, entry, earlier, ih (by omega)⟩
    -- then reading does not even get to the cells
    · refine counted ⟨cells.length, cells.flatMap codec.write, rfl, by omega, ?_⟩
      have fewer := codec_takes.size_list_le cells
      have capacity : Bytes.capacity = 2 ^ 63 - 1 := rfl
      have wordSize : UInt64.size = 2 ^ 64 := rfl
      have wide : Layout.size Cell = 32 := rfl
      rw [wide] at fewer
      omega

/-- The cell of a value is not boundless. -/
theorem not_boundless_toCell {value : Value} (storable : value.Storable)
    (bounded : (Value.toCell value).payload.length ≤ Bytes.capacity) : ¬ (Value.toCell value).Boundless := by
  intro boundless
  nomatch (Value.ofCell_toCell value storable).symm.trans (boundless.halts bounded)

end Cell

end PagedResults
