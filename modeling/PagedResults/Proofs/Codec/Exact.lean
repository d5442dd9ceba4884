import PagedResults.Proofs.Codec

/-! # Every value has one encoding

A codec is exact if it reads back what it writes, reads nothing else as a value, and goes through its
input in order: it sees no more in the beginning of an encoding than that bytes are missing, and halts at
nothing but a length that cannot be set aside. The ways to build a codec from others keep all this, so that
it holds of a message once it holds of the fields.
-/

namespace PagedResults

variable {α β : Type}

namespace Codec

/-! ## What else is read -/

/-- A value is read from nothing but its own bytes, and can be in memory. -/
structure Canonical (codec : Codec α) : Prop where
  write_read : ∀ ⦃input value rest⦄, codec.read input = .ok (value, rest) → codec.write value ++ rest = input
  storable : ∀ ⦃input value rest⦄, codec.read input = .ok (value, rest) → codec.Storable value

private theorem word_canonical (width : Nat) : (word width).Canonical where
  write_read input number rest read := by
    obtain ⟨front, taken, rfl⟩ := Reader.map_eq_ok.mp read
    obtain ⟨rfl, rfl⟩ := Reader.take_eq_ok.mp taken
    exact congrArg (· ++ rest) (LittleEndian.write_read front)
  storable _ _ _ _ := trivial

private theorem word_lt {width number : Nat} {input rest : Bytes} (read : Reader.word width input = .ok (number, rest)) :
    number < LittleEndian.wordCount width := by
  obtain ⟨front, taken, rfl⟩ := Reader.map_eq_ok.mp read
  obtain ⟨-, rfl⟩ := Reader.take_eq_ok.mp taken
  exact LittleEndian.read_lt front

/-- A number leads back to the bytes if nothing of it is lost. -/
theorem Canonical.through {codec : Codec α} (canonical : codec.Canonical) {pack : β → α} {unpack : α → β}
    (inverse : ∀ ⦃input value rest⦄, codec.read input = .ok (value, rest) → pack (unpack value) = value) :
    (codec.through pack unpack).Canonical where
  write_read input value rest read := by
    obtain ⟨packed, original, rfl⟩ := Reader.map_eq_ok.mp read
    change codec.write (pack (unpack packed)) ++ rest = input
    rw [inverse original]
    exact canonical.write_read original
  storable input value rest read := by
    obtain ⟨packed, original, rfl⟩ := Reader.map_eq_ok.mp read
    change codec.Storable (pack (unpack packed))
    rw [inverse original]
    exact canonical.storable original

private theorem pair_eq_ok {first : Codec α} {second : Codec β} {input rest : Bytes} {value : α × β} :
    (first.pair second).read input = .ok (value, rest) ↔
      ∃ middle, first.read input = .ok (value.1, middle) ∧ second.read middle = .ok (value.2, rest) := by
  constructor
  · intro read
    obtain ⟨one, middle, readFirst, others⟩ := Reader.bind_eq_ok.mp read
    obtain ⟨other, last, readSecond, done⟩ := Reader.bind_eq_ok.mp others
    obtain ⟨rfl, rfl⟩ := Reader.pure_eq_ok.mp done
    exact ⟨middle, readFirst, readSecond⟩
  · rintro ⟨middle, readFirst, readSecond⟩
    exact Reader.bind_eq_ok.mpr ⟨value.1, middle, readFirst,
      Reader.bind_eq_ok.mpr ⟨value.2, rest, readSecond, rfl⟩⟩

theorem Canonical.pair {first : Codec α} {second : Codec β} (left : first.Canonical)
    (right : second.Canonical) : (first.pair second).Canonical where
  write_read input value rest read := by
    obtain ⟨middle, readFirst, readSecond⟩ := pair_eq_ok.mp read
    change (first.write value.1 ++ second.write value.2) ++ rest = input
    rw [List.append_assoc, right.write_read readSecond, left.write_read readFirst]
  storable input value rest read := by
    obtain ⟨middle, readFirst, readSecond⟩ := pair_eq_ok.mp read
    exact ⟨left.storable readFirst, right.storable readSecond⟩

private theorem uint32_canonical : uint32.Canonical :=
  (word_canonical 4).through fun _ _ _ read => UInt32.toNat_ofNat_of_lt' (word_lt read)

private theorem uint64_canonical : uint64.Canonical :=
  (word_canonical 8).through fun _ _ _ read => UInt64.toNat_ofNat_of_lt' (word_lt read)

private theorem bool_canonical : bool.Canonical where
  write_read input value rest read := by
    obtain ⟨byte, left, read, checked⟩ := Reader.bind_eq_ok.mp read
    have same := (word_canonical 1).write_read read
    split_ifs at checked with isFalse isTrue
    · obtain ⟨rfl, rfl⟩ := Reader.pure_eq_ok.mp checked
      subst isFalse
      exact same
    · obtain ⟨rfl, rfl⟩ := Reader.pure_eq_ok.mp checked
      subst isTrue
      exact same
    · contradiction
  storable _ _ _ _ := trivial

theorem length_canonical {input rest : Bytes} {size length : Nat}
    (read : Reader.length size input = .ok (length, rest)) : LittleEndian.write 8 length ++ rest = input :=
  (word_canonical 8).write_read (Reader.length_eq_ok.mp read).1

private theorem bytes_canonical : bytes.Canonical where
  write_read input value rest read := by
    obtain ⟨length, left, counted, taken⟩ := Reader.bind_eq_ok.mp read
    obtain ⟨rfl, rfl⟩ := Reader.take_eq_ok.mp taken
    change (LittleEndian.write 8 value.length ++ value) ++ rest = input
    rw [List.append_assoc]
    exact length_canonical counted
  storable input value rest read := by
    obtain ⟨length, left, counted, taken⟩ := Reader.bind_eq_ok.mp read
    obtain ⟨rfl, rfl⟩ := Reader.take_eq_ok.mp taken
    exact (Reader.length_eq_ok.mp counted).2

/-- A text is read from its bytes. -/
theorem text_eq_ok {input rest : Bytes} {value : String} (read : text.read input = .ok (value, rest)) :
    bytes.read input = .ok (Utf8.encode value, rest) := by
  obtain ⟨content, left, carried, decoded⟩ := Reader.bind_eq_ok.mp read
  cases text : Utf8.decode content with
  | error cause =>
    rw [text] at decoded
    contradiction
  | ok characters =>
    rw [text] at decoded
    obtain ⟨rfl, rfl⟩ := Reader.pure_eq_ok.mp decoded
    rw [Utf8.encode_of_decode text]
    exact carried

private theorem text_canonical : text.Canonical where
  write_read _ _ _ read := bytes_canonical.write_read (text_eq_ok read)
  storable _ _ _ read := bytes_canonical.storable (text_eq_ok read)

theorem many_canonical {item : Codec α} (canonical : item.Canonical) {count : Nat} {input rest : Bytes}
    {values : List α} (read : Reader.many item.read count input = .ok (values, rest)) :
    values.length = count ∧ values.flatMap item.write ++ rest = input ∧
      ∀ value ∈ values, item.Storable value := by
  induction count generalizing input values with
  | zero =>
    obtain ⟨rfl, rfl⟩ := Reader.pure_eq_ok.mp read
    exact ⟨rfl, rfl, List.forall_mem_nil _⟩
  | succ count ih =>
    obtain ⟨value, left, one, others⟩ := Reader.bind_eq_ok.mp read
    obtain ⟨values, last, all, done⟩ := Reader.bind_eq_ok.mp others
    obtain ⟨rfl, rfl⟩ := Reader.pure_eq_ok.mp done
    obtain ⟨size, same, storable⟩ := ih all
    refine ⟨congrArg (· + 1) size, ?_, List.forall_mem_cons.mpr ⟨canonical.storable one, storable⟩⟩
    rw [List.flatMap_cons, List.append_assoc, same]
    exact canonical.write_read one

theorem Canonical.list [Layout α] {item : Codec α} (canonical : item.Canonical) :
    (list item).Canonical where
  write_read input values rest read := by
    obtain ⟨length, left, counted, all⟩ := Reader.bind_eq_ok.mp read
    obtain ⟨rfl, same, -⟩ := many_canonical canonical all
    change (LittleEndian.write 8 values.length ++ values.flatMap item.write) ++ rest = input
    rw [List.append_assoc, same]
    exact length_canonical counted
  storable input values rest read := by
    obtain ⟨length, left, counted, all⟩ := Reader.bind_eq_ok.mp read
    obtain ⟨rfl, -, storable⟩ := many_canonical canonical all
    exact ⟨(Reader.length_eq_ok.mp counted).2, storable⟩

/-- What is read behind the tag of an optional value. -/
theorem option_eq_ok {item : Codec α} {typeName : String} {input rest : Bytes} {value : Option α}
    (read : (option typeName item).read input = .ok (value, rest)) :
    match value with
    | none => input = 0 :: rest
    | some value => ∃ left, input = 1 :: left ∧ item.read left = .ok (value, rest) := by
  obtain ⟨tag, left, read, checked⟩ := Reader.bind_eq_ok.mp read
  have same := (word_canonical 1).write_read read
  split_ifs at checked with isNone isSome
  · obtain ⟨rfl, rfl⟩ := Reader.pure_eq_ok.mp checked
    subst isNone
    exact same.symm
  · obtain ⟨value, original, rfl⟩ := Reader.map_eq_ok.mp checked
    subst isSome
    exact ⟨left, same.symm, original⟩
  · contradiction

theorem Canonical.option {item : Codec α} (canonical : item.Canonical) (typeName : String) :
    (option typeName item).Canonical where
  write_read input value rest read := by
    have behind := option_eq_ok read
    cases value with
    | none => exact behind.symm
    | some value =>
      obtain ⟨left, rfl, original⟩ := behind
      exact congrArg (1 :: ·) (canonical.write_read original)
  storable input value rest read := by
    have behind := option_eq_ok read
    cases value with
    | none => trivial
    | some value =>
      obtain ⟨left, -, original⟩ := behind
      exact canonical.storable original

end Codec

/-! ## What a reader looks at -/

/-- A byte string begins with the length of a list whose elements, of `size` bytes each, cannot be set
aside. -/
def Bytes.Announces (size : Nat) (input : Bytes) : Prop :=
  ∃ length rest, input = LittleEndian.write 8 length ++ rest ∧ capacity < length * size ∧
    length < UInt64.size

/-- Eight bytes in a row announce more elements than can be set aside, if these are of the widest kind. -/
def Bytes.Oversized (input : Bytes) : Prop := ∃ rest : Bytes, rest <:+ input ∧ rest.Announces Layout.widest

private theorem Bytes.Oversized.of_suffix {input rest : Bytes} (oversized : rest.Oversized) (suffix : rest <:+ input) :
    input.Oversized := by
  obtain ⟨back, inside, announces⟩ := oversized
  exact ⟨back, inside.trans suffix, announces⟩

theorem Bytes.Announces.oversized {size : Nat} {input : Bytes} (announces : input.Announces size)
    (narrow : size ≤ Layout.widest) : input.Oversized := by
  obtain ⟨length, rest, rfl, above, word⟩ := announces
  refine ⟨_, List.suffix_rfl, length, rest, rfl, ?_, word⟩
  exact Nat.lt_of_lt_of_le above (Nat.mul_le_mul_left length narrow)

namespace Reader

theorem bind_apply (first : Reader α) (next : α → Reader β) (input : Bytes) :
    (first >>= next) input =
      match first input with
      | .ok (value, rest) => next value rest
      | .error failure => .error failure := by
  simp only [bind, StateT.bind, Except.bind]
  cases first input <;> rfl

/-- A reader goes through its input from the front and looks at no more than it needs. -/
structure Orderly (reader : Reader α) : Prop where
  /-- What it finds stands whatever follows, unless it finds that bytes are missing. -/
  stands : ∀ input more, (∃ additional, reader input = .error (.error (.unexpectedEnd additional))) ∨
    reader (input ++ more) = (reader input).map fun (value, rest) => (value, rest ++ more)
  suffix : ∀ ⦃input value rest⦄, reader input = .ok (value, rest) → rest <:+ input
  /-- It halts at nothing but a length that cannot be set aside. -/
  oversized : ∀ ⦃input reason⦄, reader input = .error (.halt reason) → input.Oversized

theorem Orderly.pure (value : α) : (pure value : Reader α).Orderly where
  stands _ _ := .inr rfl
  suffix input other rest read := by
    obtain ⟨-, rfl⟩ := pure_eq_ok.mp read
    exact List.suffix_rfl
  oversized _ _ halted := nomatch halted

theorem Orderly.fail (error : DecodeError) : (fail error : Reader α).Orderly where
  stands _ _ := .inr rfl
  suffix _ _ _ read := nomatch read
  oversized _ _ halted := nomatch halted

theorem Orderly.bind {first : Reader α} {next : α → Reader β} (left : first.Orderly)
    (right : ∀ value, (next value).Orderly) : (first >>= next).Orderly where
  stands input more := by
    rw [bind_apply, bind_apply]
    rcases left.stands input more with ⟨additional, missing⟩ | stands
    · exact .inl ⟨additional, by rw [missing]⟩
    · rw [stands]
      cases first input with
      | error failure => exact .inr rfl
      | ok result => exact (right result.1).stands result.2 more
  suffix input value rest read := by
    obtain ⟨one, middle, begun, ended⟩ := bind_eq_ok.mp read
    exact ((right one).suffix ended).trans (left.suffix begun)
  oversized input reason halted := by
    rw [bind_apply] at halted
    split at halted
    · next one middle begun => exact ((right one).oversized halted).of_suffix (left.suffix begun)
    · next failure begun =>
      obtain rfl := Except.error.inj halted
      exact left.oversized begun

theorem Orderly.map {reader : Reader α} (orderly : reader.Orderly) (change : α → β) :
    (change <$> reader).Orderly := by
  rw [map_eq_pure_bind]
  exact orderly.bind fun value => .pure _

private theorem Orderly.ite {condition : Prop} [Decidable condition] {yes no : Reader α} (left : yes.Orderly)
    (right : no.Orderly) : (if condition then yes else no).Orderly := by
  split
  · exact left
  · exact right

theorem take_ne_halt {count : Nat} {input : Bytes} {reason : Halt} :
    take count input ≠ .error (.halt reason) := by
  intro halted
  simp only [take, List.splitAt_eq] at halted
  split at halted <;> cases halted

private theorem take_orderly (count : Nat) : (take count).Orderly where
  stands input more := by
    simp only [take, List.splitAt_eq, List.length_take]
    by_cases enough : count ≤ input.length
    · right
      have longer : count ≤ (input ++ more).length := by rw [List.length_append]; omega
      rw [if_pos (Nat.min_eq_left longer), if_pos (Nat.min_eq_left enough),
        List.take_append_of_le_length enough, List.drop_append_of_le_length enough]
      rfl
    · left
      exact ⟨_, if_neg (by omega)⟩
  suffix input front rest read := by
    obtain ⟨rfl, -⟩ := take_eq_ok.mp read
    exact List.suffix_append front rest
  oversized input reason halted := absurd halted take_ne_halt

private theorem word_orderly (width : Nat) : (word width).Orderly := (take_orderly width).map _

theorem word_ne_halt {width : Nat} {input : Bytes} {reason : Halt} :
    word width input ≠ .error (.halt reason) := by
  intro halted
  rw [word, map_eq_pure_bind, bind_apply] at halted
  split at halted
  · nomatch halted
  · next failure begun =>
    obtain rfl := Except.error.inj halted
    exact take_ne_halt begun

/-- A length beyond the capacity is where a reader halts. -/
theorem length_eq_halt {size : Nat} {input : Bytes} {reason : Halt} :
    length size input = .error (.halt reason) ↔ reason = .capacityOverflow ∧ input.Announces size := by
  rw [length, bind_apply]
  constructor
  · intro halted
    split at halted
    · next number rest read =>
      split at halted
      · next above =>
        cases halted
        exact ⟨rfl, number, rest, ((Codec.word_canonical 8).write_read read).symm, above, Codec.word_lt read⟩
      · cases halted
    · next failure begun =>
      obtain rfl := Except.error.inj halted
      exact absurd begun word_ne_halt
  · rintro ⟨rfl, number, rest, rfl, above, small⟩
    rw [word_write small rest]
    dsimp only
    rw [if_pos above]
    rfl

private theorem length_orderly {size : Nat} (narrow : size ≤ Layout.widest) : (length size).Orderly where
  stands input more := by
    unfold length
    rw [bind_apply, bind_apply]
    rcases (word_orderly 8).stands input more with ⟨additional, missing⟩ | stands
    · exact .inl ⟨additional, by rw [missing]⟩
    · rw [stands]
      right
      cases word 8 input with
      | error failure => rfl
      | ok result =>
        dsimp only [Except.map]
        split <;> rfl
  suffix input value rest read := (word_orderly 8).suffix (length_eq_ok.mp read).1
  oversized input reason halted := (length_eq_halt.mp halted).2.oversized narrow

/-- All alternatives have to be orderly, since any of them may be read. -/
theorem choice_orderly {typeName : String} {alternatives : List (Reader α)}
    (each : ∀ alternative ∈ alternatives, alternative.Orderly) : (choice typeName alternatives).Orderly := by
  refine (word_orderly 4).bind fun found => ?_
  cases entry : alternatives[found]? with
  | none => exact .fail _
  | some alternative => exact each alternative (List.mem_of_getElem? entry)

private theorem many_orderly {item : Reader α} (orderly : item.Orderly) (count : Nat) : (many item count).Orderly := by
  induction count with
  | zero => exact .pure []
  | succ count ih => exact orderly.bind fun _ => ih.bind fun _ => .pure _

end Reader

/-! ## Exact codecs -/

namespace Codec

/-- What is written is read back and nothing else is read, by an orderly reader. -/
structure Exact (codec : Codec α) : Prop where
  roundTrips : codec.RoundTrips
  canonical : codec.Canonical
  orderly : codec.read.Orderly

namespace Exact

theorem through {codec : Codec α} (exact : codec.Exact) {pack : β → α} {unpack : α → β}
    (unpack_pack : ∀ value, unpack (pack value) = value) (pack_unpack : ∀ value, pack (unpack value) = value) :
    (codec.through pack unpack).Exact where
  roundTrips := exact.roundTrips.through unpack_pack
  canonical := exact.canonical.through fun _ value _ _ => pack_unpack value
  orderly := exact.orderly.map _

theorem pair {first : Codec α} {second : Codec β} (left : first.Exact) (right : second.Exact) :
    (first.pair second).Exact where
  roundTrips := left.roundTrips.pair right.roundTrips
  canonical := left.canonical.pair right.canonical
  orderly := left.orderly.bind fun _ => right.orderly.bind fun _ => .pure _

theorem list [Layout α] {item : Codec α} (exact : item.Exact) (takes : item.Takes)
    (narrow : Layout.size α ≤ Layout.widest) : (list item).Exact where
  roundTrips := exact.roundTrips.list takes
  canonical := exact.canonical.list
  orderly := (Reader.length_orderly narrow).bind fun length => Reader.many_orderly exact.orderly length

theorem option {item : Codec α} (exact : item.Exact) (typeName : String) :
    (option typeName item).Exact where
  roundTrips := exact.roundTrips.option typeName
  canonical := exact.canonical.option typeName
  orderly := (Reader.word_orderly 1).bind fun _ => .ite (.pure _) (.ite (exact.orderly.map _) (.fail _))

end Exact

theorem uint32_exact : uint32.Exact :=
  ⟨uint32_roundTrips, uint32_canonical, (Reader.word_orderly 4).map _⟩

theorem uint64_exact : uint64.Exact :=
  ⟨uint64_roundTrips, uint64_canonical, (Reader.word_orderly 8).map _⟩

theorem int32_exact : int32.Exact := uint32_exact.through (fun _ => rfl) (fun _ => rfl)

theorem bool_exact : bool.Exact where
  roundTrips := bool_roundTrips
  canonical := bool_canonical
  orderly := (Reader.word_orderly 1).bind fun _ => .ite (.pure _) (.ite (.pure _) (.fail _))

theorem bytes_exact : bytes.Exact where
  roundTrips := bytes_roundTrips
  canonical := bytes_canonical
  orderly := (Reader.length_orderly (by decide)).bind fun length => Reader.take_orderly length

theorem text_exact : text.Exact where
  roundTrips := text_roundTrips
  canonical := text_canonical
  orderly := by
    refine bytes_exact.orderly.bind fun content => ?_
    cases Utf8.decode content with
    | error cause => exact .fail _
    | ok value => exact .pure _

end Codec

/-! ## Alternatives -/

namespace Reader

variable {message : Codec α} {typeName : String} {alternatives : List (Reader α)}

/-- An alternative reads behind its number what is written of its values, and nothing else. -/
structure Variant (message : Codec α) (number : Nat) (alternative : Reader α) : Prop where
  write_read : ∀ ⦃input value rest⦄, alternative input = .ok (value, rest) →
    message.write value ++ rest = Codec.tag number ++ input
  storable : ∀ ⦃input value rest⦄, alternative input = .ok (value, rest) → message.Storable value
  orderly : alternative.Orderly

/-- The alternatives of a type in order, from `number` on. -/
inductive Variants (message : Codec α) : Nat → List (Reader α) → Prop
  | nil {number : Nat} : Variants message number []
  | cons {number : Nat} {alternative : Reader α} {others : List (Reader α)}
      (first : Variant message number alternative) (rest : Variants message (number + 1) others) :
      Variants message number (alternative :: others)

theorem Variant.alone {number : Nat} {value : α} (written : message.write value = Codec.tag number)
    (storable : message.Storable value) : Variant message number (pure value) where
  write_read input other rest read := by
    obtain ⟨rfl, rfl⟩ := pure_eq_ok.mp read
    rw [written]
  storable input other rest read := by
    obtain ⟨rfl, -⟩ := pure_eq_ok.mp read
    exact storable
  orderly := .pure value

theorem Variant.fields {number : Nat} {fields : Codec β} {change : β → α} (exact : fields.Exact)
    (written : ∀ value, message.write (change value) = Codec.tag number ++ fields.write value)
    (storable : ∀ value, fields.Storable value → message.Storable (change value)) :
    Variant message number (change <$> fields.read) where
  write_read input value rest read := by
    obtain ⟨original, behind, rfl⟩ := map_eq_ok.mp read
    rw [written, List.append_assoc, exact.canonical.write_read behind]
  storable input value rest read := by
    obtain ⟨original, behind, rfl⟩ := map_eq_ok.mp read
    exact storable original (exact.canonical.storable behind)
  orderly := exact.orderly.map change

/-- Alternatives without fields. -/
theorem Variants.of_pure {number : Nat} {values : List α}
    (numbered : ∀ index value, values[index]? = some value → message.write value = Codec.tag (number + index))
    (storable : ∀ value, message.Storable value) : Variants message number (values.map pure) := by
  induction values generalizing number with
  | nil => exact .nil
  | cons value values ih =>
    refine .cons (.alone (numbered 0 value rfl) (storable value)) (ih fun index later entry => ?_)
    rw [numbered (index + 1) later entry, Nat.add_assoc, Nat.add_comm 1]

private theorem Variants.getElem? {number index : Nat} {alternative : Reader α}
    (variants : Variants message number alternatives) (entry : alternatives[index]? = some alternative) :
    Variant message (number + index) alternative := by
  induction variants generalizing index with
  | nil => contradiction
  | @cons number first others variant _ ih =>
    cases index with
    | zero =>
      obtain rfl := Option.some.inj entry
      exact variant
    | succ index =>
      have later := ih (List.getElem?_cons_succ ▸ entry)
      rw [Nat.add_assoc, Nat.add_comm 1] at later
      exact later

/-- What is read is read by one of the alternatives, behind its number. -/
theorem Variants.read (variants : Variants message 0 alternatives) {input rest : Bytes} {value : α}
    (read : choice typeName alternatives input = .ok (value, rest)) :
    ∃ number alternative left, Variant message number alternative ∧
      Codec.tag number ++ left = input ∧ alternative left = .ok (value, rest) := by
  obtain ⟨found, left, tagged, chosen⟩ := bind_eq_ok.mp read
  cases entry : alternatives[found]? with
  | none =>
    rw [entry] at chosen
    contradiction
  | some alternative =>
    have variant := variants.getElem? entry
    rw [Nat.zero_add] at variant
    rw [entry] at chosen
    exact ⟨found, alternative, left, variant, (Codec.word_canonical 4).write_read tagged, chosen⟩

theorem Variants.exact (variants : Variants message 0 alternatives)
    (read_eq : message.read = choice typeName alternatives) (roundTrips : message.RoundTrips) :
    message.Exact where
  roundTrips := roundTrips
  canonical := by
    constructor <;> intro input value rest read <;> rw [read_eq] at read <;>
      obtain ⟨number, alternative, left, variant, rfl, chosen⟩ := variants.read read
    · exact variant.write_read chosen
    · exact variant.storable chosen
  orderly := by
    rw [read_eq]
    refine choice_orderly fun alternative member => ?_
    obtain ⟨index, entry⟩ := List.getElem?_of_mem member
    exact (variants.getElem? entry).orderly

end Reader

end PagedResults
