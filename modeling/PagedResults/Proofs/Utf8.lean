import Mathlib.Tactic.SplitIfs
import PagedResults.Text.Utf8

/-! # Reading text back

Every text is read back from its bytes, and from no others. The argument goes character by character:
the lead byte of a character announces as many continuation bytes as were written, and the range that
it sets for the first of them excludes nothing that a character can need, and every byte string that
is longer than its character needs or stands for none.
-/

namespace PagedResults.Utf8

variable {code : Nat} {following taken bits digit : Nat} {low high : UInt8} {rest : Bytes}

private theorem toNat_ofNat_of_lt {number : Nat} (small : number < 256) : (UInt8.ofNat number).toNat = number := by
  rw [UInt8.toNat_ofNat']
  omega

/-! ## Lead bytes -/

private theorem lead?_one (small : code < 0x80) : lead? (UInt8.ofNat code) = some ⟨0, code, 0x80, 0xbf⟩ := by
  have value := toNat_ofNat_of_lt (by omega : code < 256)
  have below : UInt8.ofNat code < 0x80 := UInt8.lt_iff_toNat_lt.mpr (by rw [value]; exact small)
  rw [lead?, if_pos below, value]

/-- A lead byte above the plain ones, as a number. -/
theorem lead?_ofNat {number : Nat} (above : 0x80 ≤ number) (small : number < 256) :
    lead? (UInt8.ofNat number) =
      if number < 0xc2 then none
      else if number < 0xe0 then some ⟨1, number - 0xc0, 0x80, 0xbf⟩
      else if number = 0xe0 then some ⟨2, 0, 0xa0, 0xbf⟩
      else if number = 0xed then some ⟨2, 0xd, 0x80, 0x9f⟩
      else if number < 0xf0 then some ⟨2, number - 0xe0, 0x80, 0xbf⟩
      else if number = 0xf0 then some ⟨3, 0, 0x90, 0xbf⟩
      else if number < 0xf4 then some ⟨3, number - 0xf0, 0x80, 0xbf⟩
      else if number = 0xf4 then some ⟨3, 4, 0x80, 0x8f⟩
      else none := by
  have value := toNat_ofNat_of_lt small
  have plain : ¬ number < 128 := by omega
  simp only [lead?, UInt8.lt_iff_toNat_lt, ← UInt8.toNat_inj, value, UInt8.reduceToNat, if_neg plain]

/-! ## Continuation bytes -/

private theorem continued_cons (small : digit < 64) (above : low.toNat ≤ 0x80 + digit)
    (below : 0x80 + digit ≤ high.toNat) :
    continued low high (following + 1) taken bits (UInt8.ofNat (0x80 + digit) :: rest) =
      continued 0x80 0xbf following (taken + 1) (64 * bits + digit) rest := by
  have value := toNat_ofNat_of_lt (by omega : 0x80 + digit < 256)
  have inside : low ≤ UInt8.ofNat (0x80 + digit) ∧ UInt8.ofNat (0x80 + digit) ≤ high := by
    rw [UInt8.le_iff_toNat_le, UInt8.le_iff_toNat_le, value]
    exact ⟨above, below⟩
  have carried : (0x80 + digit) % 64 = digit := by omega
  rw [continued, if_pos inside, value, carried]

/-- Behind the first continuation byte any digit will do. -/
theorem continued_digit (small : digit < 64) :
    continued 0x80 0xbf (following + 1) taken bits (UInt8.ofNat (0x80 + digit) :: rest) =
      continued 0x80 0xbf following (taken + 1) (64 * bits + digit) rest :=
  continued_cons small (Nat.le_add_right _ _) (by change 128 + digit ≤ 191; omega)

private theorem scan_of_lead {first : UInt8} {lead : Lead} (leads : lead? first = some lead)
    (continues : continued lead.low lead.high lead.following 1 lead.bits rest = .ok code) :
    scan first rest = .ok (Char.ofNat code, lead.following) := by
  rw [scan, leads]
  simp only [continues]
  rfl

/-! ## Characters -/

private theorem scan_two (above : 0x80 ≤ code) (below : code < 0x800) :
    scan (UInt8.ofNat (0xc0 + code / 64)) (UInt8.ofNat (0x80 + code % 64) :: rest) =
      .ok (Char.ofNat code, 1) := by
  have digit : code % 64 < 64 := Nat.mod_lt _ (by decide)
  have whole : 64 * (0xc0 + code / 64 - 0xc0) + code % 64 = code := by omega
  have leads := lead?_ofNat (by omega : 0x80 ≤ 0xc0 + code / 64) (by omega)
  rw [if_neg (by omega), if_pos (by omega)] at leads
  apply scan_of_lead leads
  dsimp only
  rw [continued_digit digit, whole, continued]

/-- Three bytes: overlong forms and surrogates are excluded by the second one. -/
theorem scan_three (above : 0x800 ≤ code) (below : code < 0x10000)
    (scalar : code < 0xd800 ∨ 0xdfff < code) :
    scan (UInt8.ofNat (0xe0 + code / 4096))
        (UInt8.ofNat (0x80 + code / 64 % 64) :: UInt8.ofNat (0x80 + code % 64) :: rest) =
      .ok (Char.ofNat code, 2) := by
  have second : code / 64 % 64 < 64 := Nat.mod_lt _ (by decide)
  have third : code % 64 < 64 := Nat.mod_lt _ (by decide)
  have whole : 64 * (64 * (code / 4096) + code / 64 % 64) + code % 64 = code := by omega
  have leads := lead?_ofNat (by omega : 0x80 ≤ 0xe0 + code / 4096) (by omega)
  rw [if_neg (by omega), if_neg (by omega)] at leads
  have read {low high : UInt8} {bits : Nat} (bits_eq : bits = code / 4096)
      (lower : low.toNat ≤ 0x80 + code / 64 % 64) (upper : 0x80 + code / 64 % 64 ≤ high.toNat) :
      continued low high 2 1 bits
        (UInt8.ofNat (0x80 + code / 64 % 64) :: UInt8.ofNat (0x80 + code % 64) :: rest) = .ok code := by
    rw [continued_cons second lower upper, continued_digit third, bits_eq, whole, continued]
  split_ifs at leads
  · exact scan_of_lead leads (read (by dsimp only; omega) (by change 160 ≤ _; omega) (by change _ ≤ 191; omega))
  · exact scan_of_lead leads (read (by dsimp only; omega) (by change 128 ≤ _; omega) (by change _ ≤ 159; omega))
  · exact scan_of_lead leads (read (by dsimp only; omega) (by change 128 ≤ _; omega) (by change _ ≤ 191; omega))
  all_goals omega

/-- Four bytes: overlong forms and numbers above the last character are excluded by the second one. -/
theorem scan_four (above : 0x10000 ≤ code) (below : code < 0x110000) :
    scan (UInt8.ofNat (0xf0 + code / 262144))
        (UInt8.ofNat (0x80 + code / 4096 % 64) :: UInt8.ofNat (0x80 + code / 64 % 64) ::
          UInt8.ofNat (0x80 + code % 64) :: rest) =
      .ok (Char.ofNat code, 3) := by
  have second : code / 4096 % 64 < 64 := Nat.mod_lt _ (by decide)
  have third : code / 64 % 64 < 64 := Nat.mod_lt _ (by decide)
  have fourth : code % 64 < 64 := Nat.mod_lt _ (by decide)
  have whole : 64 * (64 * (64 * (code / 262144) + code / 4096 % 64) + code / 64 % 64) + code % 64 =
      code := by omega
  have leads := lead?_ofNat (by omega : 0x80 ≤ 0xf0 + code / 262144) (by omega)
  rw [if_neg (by omega), if_neg (by omega), if_neg (by omega), if_neg (by omega), if_neg (by omega)] at leads
  have read {low high : UInt8} {bits : Nat} (bits_eq : bits = code / 262144)
      (lower : low.toNat ≤ 0x80 + code / 4096 % 64) (upper : 0x80 + code / 4096 % 64 ≤ high.toNat) :
      continued low high 3 1 bits
        (UInt8.ofNat (0x80 + code / 4096 % 64) :: UInt8.ofNat (0x80 + code / 64 % 64) ::
          UInt8.ofNat (0x80 + code % 64) :: rest) = .ok code := by
    rw [continued_cons second lower upper, continued_digit third, continued_digit fourth, bits_eq, whole,
      continued]
  split_ifs at leads
  · exact scan_of_lead leads (read (by dsimp only; omega) (by change 144 ≤ _; omega) (by change _ ≤ 191; omega))
  · exact scan_of_lead leads (read (by dsimp only; omega) (by change 128 ≤ _; omega) (by change _ ≤ 191; omega))
  · exact scan_of_lead leads (read (by dsimp only; omega) (by change 128 ≤ _; omega) (by change _ ≤ 143; omega))
  all_goals omega

/-- Reading takes exactly the bytes of a character and gives the character back. -/
theorem scan_encodeChar (char : Char) (rest : Bytes) :
    ∃ first following, encodeChar char = first :: following ∧
      scan first (following ++ rest) = .ok (char, following.length) := by
  have scalar : char.toNat < 0xd800 ∨ 0xdfff < char.toNat ∧ char.toNat < 0x110000 := char.valid
  have same : Char.ofNat char.toNat = char := Char.ofNat_toNat char
  unfold encodeChar
  dsimp only
  split_ifs with one two three
  · refine ⟨_, _, rfl, ?_⟩
    rw [scan_of_lead (lead?_one one) rfl, same]
    rfl
  · refine ⟨_, _, rfl, ?_⟩
    rw [List.cons_append, scan_two (by omega) two, same]
    rfl
  · refine ⟨_, _, rfl, ?_⟩
    rw [List.cons_append, List.cons_append, scan_three (by omega) three (by omega), same]
    rfl
  · refine ⟨_, _, rfl, ?_⟩
    rw [List.cons_append, List.cons_append, List.cons_append, scan_four (by omega) (by omega), same]
    rfl

private theorem decodeFrom_encodeChar (position : Nat) (char : Char) (rest : Bytes) :
    decodeFrom position (encodeChar char ++ rest) =
      (decodeFrom (position + (encodeChar char).length) rest).map (char :: ·) := by
  obtain ⟨first, following, written, scanned⟩ := scan_encodeChar char rest
  rw [written, List.cons_append, decodeFrom, scanned]
  dsimp only
  rw [List.drop_left, List.length_cons, Nat.add_assoc]

private theorem decodeFrom_flatMap (position : Nat) (chars : List Char) :
    decodeFrom position (chars.flatMap encodeChar) = .ok chars := by
  induction chars generalizing position with
  | nil => rw [List.flatMap_nil, decodeFrom]
  | cons char chars ih =>
    rw [List.flatMap_cons, decodeFrom_encodeChar, ih]
    rfl

/-- A text is read back from its bytes. -/
theorem decode_encode (text : String) : decode (encode text) = .ok text := by
  rw [decode, encode, decodeFrom_flatMap, Except.map, String.ofList_toList]

/-! ## Only the bytes of a text are read -/

/-- What a lead byte announces, by the length of the character. -/
theorem lead?_cases {first : UInt8} {lead : Lead} (leads : lead? first = some lead) :
    (lead.following = 0 ∧ first.toNat < 0x80 ∧ lead.bits = first.toNat) ∨
    (lead.following = 1 ∧ first.toNat = 0xc0 + lead.bits ∧ 2 ≤ lead.bits ∧ lead.bits < 32 ∧
      0x80 ≤ lead.low.toNat ∧ lead.high.toNat ≤ 0xbf) ∨
    (lead.following = 2 ∧ first.toNat = 0xe0 + lead.bits ∧ lead.bits < 16 ∧
      0x80 ≤ lead.low.toNat ∧ lead.high.toNat ≤ 0xbf ∧ (lead.bits = 0 → 0xa0 ≤ lead.low.toNat) ∧
      (lead.bits = 0xd → lead.high.toNat ≤ 0x9f)) ∨
    (lead.following = 3 ∧ first.toNat = 0xf0 + lead.bits ∧ lead.bits ≤ 4 ∧
      0x80 ≤ lead.low.toNat ∧ lead.high.toNat ≤ 0xbf ∧ (lead.bits = 0 → 0x90 ≤ lead.low.toNat) ∧
      (lead.bits = 4 → lead.high.toNat ≤ 0x8f)) := by
  simp only [lead?, UInt8.lt_iff_toNat_lt, ← UInt8.toNat_inj, UInt8.reduceToNat] at leads
  split_ifs at leads <;> obtain rfl := Option.some.inj leads <;>
    simp only [UInt8.reduceToNat, true_and] <;> grind

/-- Where a continuation byte is wanted, the first of the rest is one, and its six bits are added. -/
theorem continued_succ (above : 0x80 ≤ low.toNat) (below : high.toNat ≤ 0xbf)
    (continues : continued low high (following + 1) taken bits rest = .ok code) :
    ∃ digit left, rest = UInt8.ofNat (0x80 + digit) :: left ∧ digit < 64 ∧
      low.toNat ≤ 0x80 + digit ∧ 0x80 + digit ≤ high.toNat ∧
      continued 0x80 0xbf following (taken + 1) (64 * bits + digit) left = .ok code := by
  cases rest with
  | nil => simp [continued] at continues
  | cons byte left =>
    rw [continued] at continues
    split_ifs at continues with inside
    rw [UInt8.le_iff_toNat_le, UInt8.le_iff_toNat_le] at inside
    have digit : byte.toNat % 64 = byte.toNat - 0x80 := by omega
    have whole : 0x80 + (byte.toNat - 0x80) = byte.toNat := by omega
    rw [digit] at continues
    exact ⟨byte.toNat - 0x80, left, by rw [whole, UInt8.ofNat_toNat], by omega, by omega, by omega,
      continues⟩

private theorem continued_zero (continues : continued low high 0 taken bits rest = .ok code) : bits = code := by
  rw [continued] at continues
  exact Except.ok.inj continues

private theorem encodeChar_ofNat (scalar : code < 0xd800 ∨ 0xdfff < code ∧ code < 0x110000) :
    encodeChar (Char.ofNat code) =
      if code < 0x80 then [UInt8.ofNat code]
      else if code < 0x800 then [UInt8.ofNat (0xc0 + code / 64), UInt8.ofNat (0x80 + code % 64)]
      else if code < 0x10000 then
        [UInt8.ofNat (0xe0 + code / 4096), UInt8.ofNat (0x80 + code / 64 % 64), UInt8.ofNat (0x80 + code % 64)]
      else
        [UInt8.ofNat (0xf0 + code / 262144), UInt8.ofNat (0x80 + code / 4096 % 64),
          UInt8.ofNat (0x80 + code / 64 % 64), UInt8.ofNat (0x80 + code % 64)] := by
  have valid : code.isValidChar := scalar
  have value : (Char.ofNat code).toNat = code := by rw [Char.ofNat, dif_pos valid]; rfl
  rw [encodeChar, value]

/-- Two bytes: a plain character would not need the second. -/
theorem encodeChar_two {lead second : Nat} (least : 2 ≤ lead) (most : lead < 32) (digit : second < 64) :
    encodeChar (Char.ofNat (64 * lead + second)) =
      [UInt8.ofNat (0xc0 + lead), UInt8.ofNat (0x80 + second)] := by
  have head : (64 * lead + second) / 64 = lead := by omega
  have tail : (64 * lead + second) % 64 = second := by omega
  rw [encodeChar_ofNat (by omega), if_neg (by omega), if_pos (by omega), head, tail]

private theorem encodeChar_three {lead second third : Nat} (most : lead < 16) (digit : second < 64)
    (last : third < 64) (least : lead = 0 → 0x20 ≤ second) (surrogates : lead = 0xd → second < 0x20) :
    encodeChar (Char.ofNat (64 * (64 * lead + second) + third)) =
      [UInt8.ofNat (0xe0 + lead), UInt8.ofNat (0x80 + second), UInt8.ofNat (0x80 + third)] := by
  have head : (64 * (64 * lead + second) + third) / 4096 = lead := by omega
  have middle : (64 * (64 * lead + second) + third) / 64 % 64 = second := by omega
  have tail : (64 * (64 * lead + second) + third) % 64 = third := by omega
  rw [encodeChar_ofNat (by omega), if_neg (by omega), if_neg (by omega), if_pos (by omega), head, middle, tail]

private theorem encodeChar_four {lead second third fourth : Nat} (most : lead ≤ 4) (digit : second < 64)
    (next : third < 64) (last : fourth < 64) (least : lead = 0 → 0x10 ≤ second)
    (greatest : lead = 4 → second < 0x10) :
    encodeChar (Char.ofNat (64 * (64 * (64 * lead + second) + third) + fourth)) =
      [UInt8.ofNat (0xf0 + lead), UInt8.ofNat (0x80 + second), UInt8.ofNat (0x80 + third),
        UInt8.ofNat (0x80 + fourth)] := by
  have head : (64 * (64 * (64 * lead + second) + third) + fourth) / 262144 = lead := by omega
  have middle : (64 * (64 * (64 * lead + second) + third) + fourth) / 4096 % 64 = second := by omega
  have inner : (64 * (64 * (64 * lead + second) + third) + fourth) / 64 % 64 = third := by omega
  have tail : (64 * (64 * (64 * lead + second) + third) + fourth) % 64 = fourth := by omega
  rw [encodeChar_ofNat (by omega), if_neg (by omega), if_neg (by omega), if_neg (by omega), head, middle,
    inner, tail]

private theorem scan_cases {first : UInt8} {char : Char} (scanned : scan first rest = .ok (char, following)) :
    ∃ lead code, lead? first = some lead ∧
      continued lead.low lead.high lead.following 1 lead.bits rest = .ok code ∧
      char = Char.ofNat code ∧ following = lead.following := by
  unfold scan at scanned
  split at scanned
  · next lead leads =>
    cases continues : continued lead.low lead.high lead.following 1 lead.bits rest with
    | error length => simp [continues, bind, Except.bind] at scanned
    | ok code =>
      simp only [continues, bind, Except.bind, pure, Except.pure, Except.ok.injEq, Prod.mk.injEq] at scanned
      exact ⟨lead, code, leads, continues, scanned.1.symm, scanned.2.symm⟩
  · simp at scanned

/-- What is read as a character is how the character is written. -/
theorem encodeChar_of_scan {first : UInt8} {char : Char}
    (scanned : scan first rest = .ok (char, following)) :
    encodeChar char ++ rest.drop following = first :: rest := by
  obtain ⟨lead, code, leads, continues, rfl, rfl⟩ := scan_cases scanned
  have same : UInt8.ofNat first.toNat = first := UInt8.ofNat_toNat
  rcases lead?_cases leads with ⟨one, small, bits⟩ | ⟨two, whole, least, most, low, high⟩ |
    ⟨three, whole, most, low, high, least, surrogates⟩ | ⟨four, whole, most, low, high, least, greatest⟩
  · rw [one] at continues ⊢
    obtain rfl := continued_zero continues
    rw [bits, encodeChar_ofNat (by omega), if_pos small, same]
    rfl
  · rw [two] at continues ⊢
    obtain ⟨second, left, rfl, digit, -, -, continues⟩ := continued_succ low high continues
    obtain rfl := continued_zero continues
    rw [encodeChar_two least most digit, ← whole, same]
    rfl
  · rw [three] at continues ⊢
    obtain ⟨second, left, rfl, digit, lower, upper, continues⟩ := continued_succ low high continues
    obtain ⟨third, left, rfl, last, -, -, continues⟩ := continued_succ (by decide) (by decide) continues
    obtain rfl := continued_zero continues
    rw [encodeChar_three most digit last (by omega) (by omega), ← whole, same]
    rfl
  · rw [four] at continues ⊢
    obtain ⟨second, left, rfl, digit, lower, upper, continues⟩ := continued_succ low high continues
    obtain ⟨third, left, rfl, next, -, -, continues⟩ := continued_succ (by decide) (by decide) continues
    obtain ⟨fourth, left, rfl, last, -, -, continues⟩ := continued_succ (by decide) (by decide) continues
    obtain rfl := continued_zero continues
    rw [encodeChar_four most digit next last (by omega) (by omega), ← whole, same]
    rfl

/-- Characters that are read are written with the bytes that they were read from. -/
theorem flatMap_of_decodeFrom {position : Nat} {bytes : Bytes} {chars : List Char}
    (decoded : decodeFrom position bytes = .ok chars) : chars.flatMap encodeChar = bytes := by
  fun_induction decodeFrom position bytes generalizing chars with
  | case1 =>
    obtain rfl := Except.ok.inj decoded
    rfl
  | case2 => contradiction
  | case3 position first rest char following scanned ih =>
    rcases others : decodeFrom (position + following + 1) (rest.drop following) with cause | left
    · simp [others, Except.map] at decoded
    · rw [others] at decoded
      obtain rfl := Except.ok.inj decoded
      rw [List.flatMap_cons, ih others]
      exact encodeChar_of_scan scanned

/-- Only the bytes of a text are read as this text. -/
theorem encode_of_decode {bytes : Bytes} {text : String} (decoded : decode bytes = .ok text) :
    encode text = bytes := by
  rw [decode] at decoded
  rcases read : decodeFrom 0 bytes with cause | chars
  · simp [read, Except.map] at decoded
  · rw [read] at decoded
    obtain rfl := Except.ok.inj decoded
    rw [encode, String.toList_ofList, flatMap_of_decodeFrom read]

end PagedResults.Utf8
