import PagedResults.Value

/-! # How much a reader takes

A reader takes a fixed number of bytes for each value that it returns: `Takes reader size` says that
the input is longer than the rest by the size of the value. For cells this bounds nesting, since the
cells of a list lie inside the byte string that the list was read from.
-/

namespace PagedResults.Reader

variable {α β : Type}

/-- Every successful reading shortens the input by the size of its value. -/
def Takes (reader : Reader α) (size : α → Nat) : Prop :=
  ∀ ⦃input value rest⦄, reader input = .ok (value, rest) → input.length = size value + rest.length

/-- The sizes of several values together. -/
def total (size : α → Nat) : List α → Nat
  | [] => 0
  | value :: rest => size value + total size rest

theorem bind_eq_ok {first : Reader α} {next : α → Reader β} {input rest : Bytes} {value : β} :
    (first >>= next) input = .ok (value, rest) ↔
      ∃ middle left, first input = .ok (middle, left) ∧ next middle left = .ok (value, rest) := by
  simp only [bind, StateT.bind, Except.bind]
  cases first input with
  | error failure => simp
  | ok result =>
    obtain ⟨middle, left⟩ := result
    constructor
    · intro read; exact ⟨middle, left, rfl, read⟩
    · rintro ⟨_, _, ⟨rfl, rfl⟩, read⟩; exact read

theorem map_eq_ok {reader : Reader α} {change : α → β} {input rest : Bytes} {value : β} :
    (change <$> reader) input = .ok (value, rest) ↔
      ∃ middle, reader input = .ok (middle, rest) ∧ change middle = value := by
  simp only [Functor.map, StateT.map, bind, Except.bind]
  cases reader input with
  | error failure => simp
  | ok result =>
    obtain ⟨middle, left⟩ := result
    simp only [pure, Except.pure, Except.ok.injEq, Prod.mk.injEq]
    constructor
    · rintro ⟨rfl, rfl⟩; exact ⟨middle, ⟨rfl, rfl⟩, rfl⟩
    · rintro ⟨_, ⟨rfl, rfl⟩, rfl⟩; exact ⟨rfl, rfl⟩

theorem pure_eq_ok {input rest : Bytes} {value result : α} :
    (pure value : Reader α) input = .ok (result, rest) ↔ value = result ∧ input = rest := by
  have applied : (pure value : Reader α) input = .ok (value, input) := rfl
  simp [applied]

theorem take_eq_ok {count : Nat} {input front rest : Bytes} :
    take count input = .ok (front, rest) ↔ input = front ++ rest ∧ front.length = count := by
  simp only [take, List.splitAt_eq]
  constructor
  · intro read
    split at read
    · next full =>
      simp only [Except.ok.injEq, Prod.mk.injEq] at read
      obtain ⟨rfl, rfl⟩ := read
      exact ⟨(List.take_append_drop count input).symm, full⟩
    · simp at read
  · rintro ⟨rfl, rfl⟩
    simp

private theorem word_takes (width : Nat) : (word width).Takes fun _ => width := by
  intro input value rest read
  obtain ⟨front, taken, _⟩ := map_eq_ok.mp read
  obtain ⟨rfl, rfl⟩ := take_eq_ok.mp taken
  simp

theorem length_eq_ok {input rest : Bytes} {size value : Nat} : length size input = .ok (value, rest) ↔
    word 8 input = .ok (value, rest) ∧ value * size ≤ Bytes.capacity := by
  rw [length, bind_eq_ok]
  constructor
  · rintro ⟨middle, left, read, checked⟩
    split at checked
    · simp [halt] at checked
    · obtain ⟨rfl, rfl⟩ := pure_eq_ok.mp checked
      exact ⟨read, by omega⟩
  · rintro ⟨read, bound⟩
    exact ⟨value, rest, read, by rw [if_neg (by omega)]; exact pure_eq_ok.mpr ⟨rfl, rfl⟩⟩

private theorem length_takes (size : Nat) : (length size).Takes fun _ => 8 := by
  intro input value rest read
  exact word_takes 8 (length_eq_ok.mp read).1

private theorem many_takes {item : Reader α} {size : α → Nat} (takes : item.Takes size) (count : Nat) :
    (many item count).Takes (total size) := by
  induction count with
  | zero =>
    intro input value rest read
    obtain ⟨rfl, rfl⟩ := pure_eq_ok.mp read
    simp [total]
  | succ count ih =>
    intro input value rest read
    obtain ⟨first, left, one, others⟩ := bind_eq_ok.mp read
    obtain ⟨values, right, all, done⟩ := bind_eq_ok.mp others
    obtain ⟨rfl, rfl⟩ := pure_eq_ok.mp done
    have head := takes one
    have tail := ih all
    simp only [total]
    omega

theorem list_takes [Layout α] {item : Codec α} {size : α → Nat} (takes : item.read.Takes size) :
    (Codec.list item).read.Takes fun values => 8 + total size values := by
  intro input values rest read
  obtain ⟨length, left, counted, all⟩ := bind_eq_ok.mp read
  have head := length_takes _ counted
  have tail := many_takes takes length all
  dsimp only at head tail ⊢
  omega

private theorem bytes_takes : Codec.bytes.read.Takes fun value => 8 + value.length := by
  intro input value rest read
  obtain ⟨length, left, counted, taken⟩ := bind_eq_ok.mp read
  have head := length_takes _ counted
  obtain ⟨rfl, rfl⟩ := take_eq_ok.mp taken
  simp only [List.length_append] at head ⊢
  omega

private theorem choice_takes {typeName : String} {values : List α} :
    (choice typeName (values.map pure)).Takes fun _ => 4 := by
  intro input value rest read
  obtain ⟨found, left, tagged, chosen⟩ := bind_eq_ok.mp read
  have head := word_takes 4 tagged
  cases entry : values[found]? with
  | none => simp [entry, fail] at chosen
  | some known =>
    simp only [List.getElem?_map, entry, Option.map_some] at chosen
    obtain ⟨_, rfl⟩ := pure_eq_ok.mp chosen
    exact head

/-- A cell takes twelve bytes beyond its payload. -/
theorem cell_takes : Cell.codec.read.Takes fun cell => 12 + cell.payload.length := by
  intro input cell rest read
  obtain ⟨⟨kind, payload⟩, parts, rfl⟩ := map_eq_ok.mp read
  obtain ⟨first, left, tagged, others⟩ := bind_eq_ok.mp parts
  obtain ⟨second, right, content, done⟩ := bind_eq_ok.mp others
  obtain ⟨same, rfl⟩ := pure_eq_ok.mp done
  obtain ⟨rfl, rfl⟩ := Prod.mk.inj same
  have head := choice_takes tagged
  have tail := bytes_takes content
  dsimp only at head tail ⊢
  omega

/-- The cells of a list with nothing behind it fill its byte string. -/
theorem cells_length {input : Bytes} {cells : List Cell}
    (read : (Codec.list Cell.codec).read input = .ok (cells, [])) :
    input.length = 8 + total (fun cell => 12 + cell.payload.length) cells := by
  simpa using list_takes cell_takes read

private theorem le_total_of_mem (size : α → Nat) {values : List α} {value : α} (member : value ∈ values) :
    size value ≤ total size values := by
  induction values with
  | nil => simp at member
  | cons first rest ih =>
    simp only [total]
    rcases List.mem_cons.mp member with rfl | later
    · omega
    · have := ih later
      omega

/-- Each cell of a list is at least twenty bytes shorter than the list. -/
theorem cell_shorter {input : Bytes} {cells : List Cell} {cell : Cell}
    (read : (Codec.list Cell.codec).read input = .ok (cells, [])) (member : cell ∈ cells) :
    cell.payload.length + 20 ≤ input.length := by
  have part := le_total_of_mem (fun cell : Cell => 12 + cell.payload.length) member
  have whole := cells_length read
  omega

end PagedResults.Reader
