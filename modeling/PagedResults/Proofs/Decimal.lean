import Mathlib.Data.Nat.Digits.Lemmas
import PagedResults.Value.Text

/-! # The text of a scaled number

`Spelling` is the grammar of such a text: a sign below zero, a whole part without superfluous zeros, and behind
a point as many places as the scale says. The number and its scale can be read off any text of that form, so
that no two scaled numbers have the same text. The text of a value has that form, however few digits the
number has.
-/

namespace PagedResults

namespace Decimal

/-- The digit that a character stands for. -/
def digitValue (character : Char) : Nat := character.toNat - '0'.toNat

/-- A run of digits, read as one number. -/
def numberOf (characters : List Char) : Nat := ofDigits (characters.map digitValue)

/-- How the number `unscaled / 10 ^ scale` is written, `whole` before the point and `places` behind it. -/
structure Spelling (unscaled : Int) (scale : Nat) (text whole places : List Char) : Prop where
  text_eq : text = (if unscaled < 0 then ['-'] else []) ++ whole ++ if scale = 0 then [] else '.' :: places
  digits : ∀ character ∈ whole ++ places, character.isDigit = true
  whole_ne_nil : whole ≠ []
  /-- A zero in front is the only digit there. -/
  no_zero : whole.head? = some '0' → whole = ['0']
  places_length : places.length = scale
  /-- The digits on both sides of the point, read together. -/
  number_eq : numberOf (whole ++ places) = unscaled.natAbs

/-! ## What a text says -/

/-- Whether a text begins with a sign. -/
def isNegative (text : List Char) : Bool := text.head? == some '-'

/-- The number that a text gives when its point is left out. -/
def unscaledOf (text : List Char) : Int :=
  if isNegative text then -(numberOf (text.filter Char.isDigit) : Int)
  else numberOf (text.filter Char.isDigit)

/-- How many places a text has behind its point. -/
def scaleOf (text : List Char) : Nat := (text.dropWhile (· ≠ '.')).tail.length

namespace Spelling

variable {unscaled : Int} {scale : Nat} {text whole places : List Char}

private theorem isNegative_iff (spelling : Spelling unscaled scale text whole places) :
    isNegative text = true ↔ unscaled < 0 := by
  obtain ⟨first, rest, rfl⟩ := List.exists_cons_of_ne_nil spelling.whole_ne_nil
  rw [spelling.text_eq, isNegative, beq_iff_eq]
  split
  · next below => exact iff_of_true rfl below
  · next above =>
    refine iff_of_false (fun signed => ?_) above
    have digit := spelling.digits first (List.mem_append_left _ List.mem_cons_self)
    rw [Option.some.inj signed] at digit
    contradiction

/-- The digits of the text are those on both sides of the point. -/
theorem filter_isDigit (spelling : Spelling unscaled scale text whole places) :
    text.filter Char.isDigit = whole ++ places := by
  have sign : (if unscaled < 0 then ['-'] else []).filter Char.isDigit = [] := by split <;> rfl
  have fraction : (if scale = 0 then [] else '.' :: places).filter Char.isDigit = places.filter Char.isDigit := by
    split
    · next none_behind => rw [List.eq_nil_of_length_eq_zero (spelling.places_length.trans none_behind)]
    · rfl
  rw [spelling.text_eq, List.filter_append, List.filter_append, sign, List.nil_append, fraction,
    ← List.filter_append]
  exact List.filter_eq_self.mpr spelling.digits

private theorem scaleOf_eq (spelling : Spelling unscaled scale text whole places) : scaleOf text = scale := by
  have no_point : ∀ character ∈ (if unscaled < 0 then ['-'] else []) ++ whole,
      decide (character ≠ '.') = true := by
    intro character member
    rw [decide_eq_true_eq]
    rintro rfl
    rcases List.mem_append.mp member with sign | digit
    · split at sign
      · exact absurd (List.mem_singleton.mp sign) (by decide)
      · contradiction
    · exact absurd (spelling.digits '.' (List.mem_append_left _ digit)) (by decide)
  rw [scaleOf, spelling.text_eq, List.dropWhile_append_of_pos no_point]
  split
  · next none_behind => exact none_behind.symm
  · rw [List.dropWhile_cons_of_neg (by decide), List.tail_cons, spelling.places_length]

private theorem unscaledOf_eq (spelling : Spelling unscaled scale text whole places) :
    unscaledOf text = unscaled := by
  rw [unscaledOf, spelling.filter_isDigit, spelling.number_eq]
  split
  · next signed =>
    have below := spelling.isNegative_iff.mp signed
    omega
  · next unsigned =>
    have above := mt spelling.isNegative_iff.mpr unsigned
    omega

end Spelling

/-! ## The digits of a number -/

private theorem digits_eq (number : Nat) :
    digits number = if number = 0 then [0] else (Nat.digits 10 number).reverse := by
  fun_induction digits number with
  | case1 number small =>
    split
    · next zero => rw [zero]
    · next positive => rw [Nat.digits_of_lt 10 number positive small]; rfl
  | case2 number large ih =>
    rw [ih, if_neg (by omega), if_neg (by omega),
      Nat.digits_eq_cons_digits_div (n := number) (by decide) (by omega), List.reverse_cons]

private theorem ofDigits_eq (list : List Nat) : ofDigits list = Nat.ofDigits 10 list.reverse := by
  rw [Nat.ofDigits_eq_foldr, List.foldr_reverse, ofDigits]
  congr 1
  funext number digit
  exact Nat.add_comm _ _

private theorem ofDigits_digits (number : Nat) : ofDigits (digits number) = number := by
  rw [ofDigits_eq, digits_eq]
  split
  · next zero => rw [zero]; rfl
  · rw [List.reverse_reverse, Nat.ofDigits_digits]

private theorem digits_lt {number digit : Nat} (member : digit ∈ digits number) : digit < 10 := by
  rw [digits_eq] at member
  split at member
  · rw [List.mem_singleton.mp member]; decide
  · exact Nat.digits_lt_base (by decide) (List.mem_reverse.mp member)

private theorem digits_ne_nil (number : Nat) : digits number ≠ [] := by
  rw [digits_eq]
  split
  · exact List.cons_ne_nil _ _
  · next positive => exact mt List.reverse_eq_nil_iff.mp (Nat.digits_ne_nil_iff_ne_zero.mpr positive)

/-- A number whose first digit is zero is zero. -/
theorem eq_zero_of_head? {number : Nat} (zero : (digits number).head? = some 0) : number = 0 := by
  by_contra positive
  rw [digits_eq, if_neg positive, List.head?_reverse,
    List.getLast?_eq_some_getLast (Nat.digits_ne_nil_iff_ne_zero.mpr positive)] at zero
  exact Nat.getLast_digit_ne_zero 10 positive (Option.some.inj zero)

private theorem isDigit_digitChar {digit : Nat} (small : digit < 10) : (digitChar digit).isDigit = true := by
  decide +revert

private theorem digitValue_digitChar {digit : Nat} (small : digit < 10) : digitValue (digitChar digit) = digit := by
  decide +revert

/-! ## The characters of a number -/

private theorem map_digitValue (number : Nat) : (digitChars number).map digitValue = digits number := by
  rw [digitChars, List.map_map]
  exact (List.map_congr_left fun _ member => digitValue_digitChar (digits_lt member)).trans (List.map_id _)

private theorem isDigit_of_mem_padded {width number : Nat} {character : Char}
    (member : character ∈ padded width number) : character.isDigit = true := by
  rcases List.mem_append.mp member with zero | digit
  · rw [List.eq_of_mem_replicate zero]
    decide
  · obtain ⟨digit, inside, rfl⟩ := List.mem_map.mp digit
    exact isDigit_digitChar (digits_lt inside)

/-- Zeros in front do not change a number. -/
theorem numberOf_padded (width number : Nat) : numberOf (padded width number) = number := by
  rw [numberOf, padded, List.map_append, List.map_replicate, map_digitValue, ofDigits_eq, List.reverse_append,
    List.reverse_replicate]
  exact (Nat.ofDigits_append_replicate_zero _).trans ((ofDigits_eq _).symm.trans (ofDigits_digits number))

private theorem length_padded (width number : Nat) :
    (padded width number).length = max width (digitChars number).length := by
  rw [padded, List.length_append, List.length_replicate]
  omega

private theorem padded_of_le {width number : Nat} (wide : width ≤ (digitChars number).length) :
    padded width number = digitChars number := by
  rw [padded, Nat.sub_eq_zero_of_le wide, List.replicate_zero, List.nil_append]

/-- A number of more than one digit does not begin with a zero. -/
theorem head?_digitChars {number : Nat} (long : 1 < (digitChars number).length) :
    (digitChars number).head? ≠ some '0' := by
  intro zero
  have first : ((digitChars number).map digitValue).head? = some 0 := by rw [List.head?_map, zero]; rfl
  rw [map_digitValue] at first
  rw [eq_zero_of_head? first, digitChars, List.length_map, digits_eq, if_pos rfl] at long
  exact Nat.lt_irrefl 1 long

/-! ## The text of a number and its scale -/

/-- What stands before the point. -/
def wholeChars (scale number : Nat) : List Char :=
  (padded (scale + 1) number).take ((padded (scale + 1) number).length - scale)

/-- What stands behind the point. -/
def placeChars (scale number : Nat) : List Char :=
  (padded (scale + 1) number).drop ((padded (scale + 1) number).length - scale)

private theorem fixedPoint_eq (scale number : Nat) :
    fixedPoint scale number =
      wholeChars scale number ++ if scale = 0 then [] else '.' :: placeChars scale number := by
  unfold fixedPoint
  split
  · next none_behind =>
    have one : 1 ≤ (digitChars number).length := by
      rw [digitChars, List.length_map]
      exact List.length_pos_of_ne_nil (digits_ne_nil number)
    rw [List.append_nil, none_behind, wholeChars, Nat.sub_zero, List.take_length, padded_of_le one]
  · rfl

/-- Before the point stands one digit or a number that needs no zeros in front. -/
theorem wholeChars_no_zero {scale number : Nat} (zero : (wholeChars scale number).head? = some '0') :
    wholeChars scale number = ['0'] := by
  have length_eq := length_padded (scale + 1) number
  rcases Nat.lt_or_ge (scale + 1) (digitChars number).length with long | short
  · unfold wholeChars at zero
    rw [padded_of_le (Nat.le_of_lt long), List.head?_take, if_neg (by omega)] at zero
    exact absurd zero (head?_digitChars (by omega))
  · have one : (wholeChars scale number).length = 1 := by
      rw [wholeChars, List.length_take]
      omega
    obtain ⟨digit, only⟩ := List.length_eq_one_iff.mp one
    rw [only] at zero ⊢
    rw [Option.some.inj zero]

/-- A number and its scale are spelled as the grammar says. -/
theorem scaled_spelling (unscaled : Int) {scale : Nat} (small : scale ≤ 65534) :
    ∃ text, scaled unscaled scale = .ok text ∧
      Spelling unscaled scale text (wholeChars scale unscaled.natAbs) (placeChars scale unscaled.natAbs) := by
  have length_eq := length_padded (scale + 1) unscaled.natAbs
  have all : wholeChars scale unscaled.natAbs ++ placeChars scale unscaled.natAbs =
      padded (scale + 1) unscaled.natAbs := List.take_append_drop _ _
  refine ⟨_, by rw [scaled, if_neg (by omega)], ?_, ?_, ?_, wholeChars_no_zero, ?_, ?_⟩
  · rw [fixedPoint_eq]
    split <;> rfl
  · rw [all]
    exact fun _ => isDigit_of_mem_padded
  · refine List.ne_nil_of_length_pos ?_
    rw [wholeChars, List.length_take]
    omega
  · rw [placeChars, List.length_drop]
    omega
  · rw [all, numberOf_padded]

end Decimal

/-- The text of a scaled number is spelled as the grammar says, and no other scaled number has this text. -/
theorem Value.toText_decimal (unscaled : BitVec 128) (scale : UInt32) (small : scale.toNat ≤ 65534) :
    ∃ text whole places, (Value.decimal unscaled scale).toText = .ok text ∧
      Decimal.Spelling unscaled.toInt scale.toNat text.toList whole places ∧
      ∀ (other : BitVec 128) (otherScale : UInt32),
        (Value.decimal other otherScale).toText = .ok text → other = unscaled ∧ otherScale = scale := by
  have text_eq (unscaled : BitVec 128) (scale : UInt32) : (Value.decimal unscaled scale).toText =
      (Decimal.scaled unscaled.toInt scale.toNat).map String.ofList := by
    rw [toText, write, Written.result_piece]
  obtain ⟨text, written, spelling⟩ := Decimal.scaled_spelling unscaled.toInt small
  refine ⟨String.ofList text, _, _, by rw [text_eq, written]; rfl,
    by rw [String.toList_ofList]; exact spelling, fun other otherScale same => ?_⟩
  rw [text_eq] at same
  have otherSmall : otherScale.toNat ≤ 65534 := by
    by_contra large
    rw [Decimal.scaled, if_pos (by omega), Except.map] at same
    cases same
  obtain ⟨otherText, otherWritten, otherSpelling⟩ := Decimal.scaled_spelling other.toInt otherSmall
  rw [otherWritten] at same
  obtain rfl : otherText = text := String.ofList_injective (Except.ok.inj same)
  exact ⟨BitVec.eq_of_toInt_eq (otherSpelling.unscaledOf_eq.symm.trans spelling.unscaledOf_eq),
    UInt32.toNat_inj.mp (otherSpelling.scaleOf_eq.symm.trans spelling.scaleOf_eq)⟩

/-- The smallest number there is, with as many places as it has digits. -/
theorem Value.toText_decimal_min :
    (39 : UInt32).toNat ≤ 65534 ∧
      (Value.decimal (BitVec.intMin 128) 39).toText = .ok "-0.170141183460469231731687303715884105728" ∧
      ∀ (other : BitVec 128) (otherScale : UInt32),
        (Value.decimal other otherScale).toText = .ok "-0.170141183460469231731687303715884105728" →
        other = BitVec.intMin 128 ∧ otherScale = 39 := by
  have small : (39 : UInt32).toNat ≤ 65534 := by decide
  have written : (Value.decimal (BitVec.intMin 128) 39).toText =
      .ok "-0.170141183460469231731687303715884105728" := by decide +kernel
  obtain ⟨text, whole, places, text_eq, -, only⟩ := Value.toText_decimal (BitVec.intMin 128) 39 small
  obtain rfl := Except.ok.inj (text_eq.symm.trans written)
  exact ⟨small, written, only⟩

end PagedResults
