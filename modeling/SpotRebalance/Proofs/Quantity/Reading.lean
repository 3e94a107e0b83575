import Mathlib.Tactic.FieldSimp
import SpotRebalance.Proofs.Quantity.Denotation

/-! # How a quantity is read

What is read from a text is its **spelling** (`Spelling`): the digits without their point, how many
of them follow the point, and the suffix. A grammar says which texts spell what (`Spells`), stage by
stage as the text is read:

* the number (`Numeral`, `number?_eq_some_iff`);
* the suffix (`Suffix`, `ofChars?_eq_some_iff`);
* both together (`Spells`, `ofText?_eq_some_iff`).

A text is read exactly if it is spelled so and the numbers in its spelling fit their words
(`Spelling.Fits`), and the quantity that is read is the number that the text denotes
(`Spells.denotes_iff`). -/

namespace SpotRebalance

/-! ## Values -/

/-- The factor that a suffix stands for. -/
def QuantitySuffix.factor : QuantitySuffix → ℚ
  | .decimal tens => 10 ^ tens
  | .binary twos => 2 ^ twos
  | .exponent tens => 10 ^ tens

/-- The power of ten in a suffix. -/
def QuantitySuffix.tens : QuantitySuffix → ℤ
  | .decimal tens => tens
  | .binary _ => 0
  | .exponent tens => tens

/-- The power of two in a suffix. -/
def QuantitySuffix.twos : QuantitySuffix → ℕ
  | .decimal _ => 0
  | .binary twos => twos
  | .exponent _ => 0

theorem QuantitySuffix.factor_eq (suffix : QuantitySuffix) :
    suffix.factor = 10 ^ suffix.tens * 2 ^ suffix.twos := by
  cases suffix <;> simp [factor, tens, twos]

/-- The number that a quantity is. -/
def Quantity.value (q : Quantity) : ℚ := q.mantissa * 10 ^ q.tens * 2 ^ q.twos

namespace QuantityText

/-- **The spelling of a quantity.** -/
structure Spelling where
  /-- The digits without their point, as one number. -/
  mantissa : ℕ
  /-- How many digits follow the point. -/
  places : ℕ
  /-- What follows the digits. -/
  suffix : QuantitySuffix

namespace Spelling

/-- The quantity that is spelled. -/
def quantity (r : Spelling) : Quantity := ⟨r.mantissa, -r.places + r.suffix.tens, r.suffix.twos⟩

/-- **A spelling fits** the words that its numbers are held in, where that is checked. The power of
ten is checked twice, behind the digits and behind an exponent. It is not checked behind a
letter. -/
structure Fits (r : Spelling) : Prop where
  /-- The digits. -/
  mantissa : r.mantissa < Quantity.wordBound
  /-- The power of ten that the places behind the point make. -/
  places : Quantity.fitsExponent r.places
  /-- The power of ten that an exponent makes of it. -/
  exponent : ∀ k, r.suffix = .exponent k → Quantity.fitsExponent (-r.places + k)

/-- The value of a spelling is that of its digits times the factor that its suffix stands for. -/
theorem value_quantity (r : Spelling) :
    r.quantity.value = r.mantissa / 10 ^ r.places * r.suffix.factor := by
  rw [quantity, Quantity.value, QuantitySuffix.factor_eq, zpow_add₀ (by norm_num), zpow_neg,
    zpow_natCast]
  ring

end Spelling

/-! ## Numbers -/

/-- **A number in front of a suffix**, with its digits as one number and how many of them follow the
point. -/
inductive Numeral : List Char → ℕ → ℕ → Prop
  /-- A whole number. -/
  | whole {cs : List Char} (digits : Digits cs) (written : cs ≠ []) : Numeral cs (number cs) 0
  /-- A number with a point, and a digit on one side of it at least. -/
  | pointed {whole places : List Char} (digits : Digits (whole ++ places))
      (written : whole ++ places ≠ []) :
    Numeral (whole ++ '.' :: places) (number (whole ++ places)) places.length

/-- The decimal number that such digits are. -/
theorem Numeral.decimal {cs : List Char} {m places : ℕ} (h : Numeral cs m places) :
    Decimal cs (m / 10 ^ places) := by
  cases h with
  | whole digits written =>
    rw [pow_zero, div_one]
    exact .whole digits written
  | @pointed whole places digits written =>
    have hvalue : ((number (whole ++ places) : ℕ) : ℚ) / 10 ^ places.length =
        number whole + number places / 10 ^ places.length := by
      rw [number_append]
      push_cast
      field_simp
    rw [hvalue]
    exact .pointed digits written

/-- What is passed over up to the first point. -/
theorem bne_point {cs : List Char} (h : '.' ∉ cs) : ∀ c ∈ cs, (c != '.') = true := by
  intro c hc
  rw [bne_iff_ne]
  rintro rfl
  exact h hc

/-- Characters without a point are all in front of it. -/
theorem splitPoint_of_notMem {cs : List Char} (h : '.' ∉ cs) :
    Quantity.splitPoint cs = (cs, []) := by
  rw [Quantity.splitPoint, List.takeWhile_eq_self_iff.2 (bne_point h),
    List.dropWhile_eq_nil_iff.2 (bne_point h), List.drop_nil]

/-- Characters are cut at the first point. -/
theorem splitPoint_of_append {whole places : List Char} (h : '.' ∉ whole) :
    Quantity.splitPoint (whole ++ '.' :: places) = (whole, places) := by
  rw [Quantity.splitPoint, List.takeWhile_append_of_pos (bne_point h),
    List.dropWhile_append_of_pos (bne_point h)]
  simp

/-- There is no point among digits. -/
theorem Digits.point_notMem {cs : List Char} (h : Digits cs) : '.' ∉ cs := by
  intro hmem
  exact absurd (h '.' hmem) (by decide)

/-- **A number is read** exactly if it is written so and fits. -/
theorem number?_eq_some_iff {cs : List Char} {m places : ℕ} :
    Quantity.number? cs = some (m, places) ↔
      Numeral cs m places ∧ m < Quantity.wordBound ∧ Quantity.fitsExponent places := by
  simp only [Quantity.number?, Option.bind_eq_bind, Option.bind_eq_some_iff,
    Option.ite_none_right_eq_some, Option.some.injEq, Prod.mk.injEq, digitsValue?_eq_some_iff]
  constructor
  · rintro ⟨_, ⟨hwritten, hdigits, rfl⟩, hfits, rfl, rfl⟩
    refine ⟨?_, hfits⟩
    by_cases hmem : '.' ∈ cs
    · obtain ⟨whole, places, rfl, hwhole⟩ := List.eq_append_cons_of_mem hmem
      rw [splitPoint_of_append hwhole] at hwritten hdigits ⊢
      exact .pointed hdigits hwritten
    · rw [splitPoint_of_notMem hmem, List.append_nil] at hwritten hdigits
      rw [splitPoint_of_notMem hmem, List.append_nil]
      exact .whole hdigits hwritten
  · rintro ⟨hnumeral, hfits⟩
    cases hnumeral with
    | whole digits written =>
      rw [splitPoint_of_notMem digits.point_notMem, List.append_nil]
      exact ⟨_, ⟨written, digits, rfl⟩, hfits, rfl, rfl⟩
    | @pointed whole places digits written =>
      have hwhole : '.' ∉ whole := fun hmem => digits.point_notMem (List.mem_append_left _ hmem)
      rw [splitPoint_of_append hwhole]
      exact ⟨_, ⟨written, digits, rfl⟩, hfits, rfl, rfl⟩

/-! ## Suffixes -/

/-- **A suffix**, with what it spells. -/
inductive Suffix : List Char → QuantitySuffix → Prop
  /-- No suffix. -/
  | nothing : Suffix [] (.decimal 0)
  /-- A power of 1000. -/
  | decimal {c : Char} {k : ℤ} (letter : (c, k) ∈ thousands) : Suffix [c] (.decimal (3 * k))
  /-- A power of 1024. -/
  | binary {c : Char} {k : ℕ} (letter : (c, k) ∈ kibis) : Suffix [c, 'i'] (.binary (10 * k))
  /-- A power of ten, which fits its word. -/
  | exponent {e : Char} {cs : List Char} {k : ℤ} (letter : e = 'e' ∨ e = 'E') (digits : Signed cs k)
    (fits : Quantity.fitsExponent k) : Suffix (e :: cs) (.exponent k)

/-- What a suffix spells stands for the factor that it denotes. -/
theorem Suffix.factor {cs : List Char} {suffix : QuantitySuffix} (h : Suffix cs suffix) :
    Factor cs suffix.factor := by
  cases h with
  | nothing => simpa [QuantitySuffix.factor] using Factor.nothing
  | @decimal c k letter =>
    have hfactor : (10 : ℚ) ^ (3 * k) = 1000 ^ k := by
      rw [zpow_mul]
      norm_num
    rw [QuantitySuffix.factor, hfactor]
    exact .decimal letter
  | @binary c k letter =>
    have hfactor : (2 : ℚ) ^ (10 * k) = 1024 ^ k := by
      rw [pow_mul]
      norm_num
    rw [QuantitySuffix.factor, hfactor]
    exact .binary letter
  | exponent letter digits => exact .exponent letter digits

/-- An exponent is none of the other suffixes: `i` is no digit. -/
theorem lookup_exponent {e : Char} {cs : List Char} {k : ℤ} (h : Signed cs k) :
    QuantitySuffix.decimalLetters.lookup (e :: cs) = none ∧
      QuantitySuffix.binaryLetters.lookup (e :: cs) = none := by
  have hdecimal : ∀ p ∈ QuantitySuffix.decimalLetters, p.1.tail = [] := by decide
  have hbinary : ∀ p ∈ QuantitySuffix.binaryLetters, p.1.tail = ['i'] := by decide
  simp only [List.lookup_eq_none_iff, bne_iff_ne]
  constructor
  · intro p hp heq
    have htail := hdecimal p hp
    rw [← heq, List.tail_cons] at htail
    exact h.ne_nil htail
  · intro p hp heq
    have htail := hbinary p hp
    rw [← heq, List.tail_cons] at htail
    subst htail
    cases h with
    | plain digits => exact absurd digits (not_digits_cons (by decide))

/-- **A suffix is read** exactly if it is one. -/
theorem ofChars?_eq_some_iff {cs : List Char} {suffix : QuantitySuffix} :
    QuantitySuffix.ofChars? cs = some suffix ↔ Suffix cs suffix := by
  constructor
  · intro h
    have hdecimal : ∀ e ∈ QuantitySuffix.decimalLetters,
        e = ([], 0) ∨ ∃ p ∈ thousands, e = ([p.1], 3 * p.2) := by decide
    have hbinary : ∀ e ∈ QuantitySuffix.binaryLetters, ∃ p ∈ kibis, e = ([p.1, 'i'], 10 * p.2) := by
      decide
    rw [QuantitySuffix.ofChars?] at h
    split at h
    · rename_i tens hlookup
      cases h
      obtain ⟨before, after, hletters, -⟩ := List.lookup_eq_some_iff.1 hlookup
      rcases hdecimal (cs, tens) (by simp [hletters]) with heq | ⟨p, hp, heq⟩
      · cases heq
        exact .nothing
      · cases heq
        exact .decimal hp
    · rename_i twos _ hlookup
      cases h
      obtain ⟨before, after, hletters, -⟩ := List.lookup_eq_some_iff.1 hlookup
      obtain ⟨p, hp, heq⟩ := hbinary (cs, twos) (by simp [hletters])
      cases heq
      exact .binary hp
    · obtain ⟨k, hk, rfl⟩ := Option.map_eq_some_iff.1 h
      cases cs with
      | nil => cases hk
      | cons e cs =>
        rw [QuantitySuffix.exponent?, Option.ite_none_right_eq_some, signedWithin?_eq_some_iff]
          at hk
        obtain ⟨hletter, hdigits, hfits⟩ := hk
        exact .exponent hletter hdigits hfits
  · intro h
    have hdecimal : ∀ p ∈ thousands, QuantitySuffix.ofChars? [p.1] = some (.decimal (3 * p.2)) := by
      decide
    have hbinary : ∀ p ∈ kibis, QuantitySuffix.ofChars? [p.1, 'i'] = some (.binary (10 * p.2)) := by
      decide
    cases h with
    | nothing => rfl
    | decimal letter => exact hdecimal _ letter
    | binary letter => exact hbinary _ letter
    | @exponent e cs k letter digits fits =>
      obtain ⟨hnoDecimal, hnoBinary⟩ := lookup_exponent (e := e) digits
      have hexponent : QuantitySuffix.exponent? (e :: cs) = some k := by
        rw [QuantitySuffix.exponent?, if_pos letter, signedWithin?_eq_some_iff]
        exact ⟨digits, fits⟩
      rw [QuantitySuffix.ofChars?, hnoDecimal, hnoBinary, hexponent, Option.map_some]

/-- A number is put together with its suffix, unless an exponent takes the power of ten out of its
word. -/
theorem withSuffix?_eq_some_iff {r : Spelling} {q : Quantity} :
    Quantity.withSuffix? r.mantissa r.places r.suffix = some q ↔
      (∀ k, r.suffix = .exponent k → Quantity.fitsExponent (-r.places + k)) ∧ r.quantity = q := by
  obtain ⟨m, places, suffix⟩ := r
  cases suffix <;> simp [Quantity.withSuffix?, Spelling.quantity, QuantitySuffix.tens,
    QuantitySuffix.twos]

/-! ## Texts -/

/-- **A text spells a quantity**: it is a number with a suffix, perhaps with a plus sign in front
and blanks around. -/
def Spells (s : String) (r : Spelling) : Prop :=
  ∃ decimal suffix, Parts s decimal suffix ∧ Numeral decimal r.mantissa r.places ∧
    Suffix suffix r.suffix

/-- The number of such a text ends where the digits and points of its body do. -/
theorem spells_iff {s : String} {r : Spelling} :
    Spells s r ↔ Numeral ((Quantity.body s).takeWhile Quantity.isNumberChar) r.mantissa r.places ∧
      Suffix ((Quantity.body s).dropWhile Quantity.isNumberChar) r.suffix := by
  constructor
  · rintro ⟨decimal, suffix, hparts, hnumeral, hsuffix⟩
    have hchars := hnumeral.decimal.isNumberChar
    obtain ⟨rfl, rfl⟩ := hparts.eq_body hchars.1 hchars.2 hsuffix.factor.chars
    exact ⟨hnumeral, hsuffix⟩
  · rintro ⟨hnumeral, hsuffix⟩
    exact ⟨_, _, parts_body s, hnumeral, hsuffix⟩

/-- **A text is read** exactly if it spells a quantity that fits. -/
theorem ofText?_eq_some_iff {s : String} {q : Quantity} :
    Quantity.ofText? s = some q ↔ ∃ r, Spells s r ∧ r.Fits ∧ r.quantity = q := by
  simp only [Quantity.ofText?, Option.bind_eq_bind, Option.bind_eq_some_iff, Prod.exists,
    number?_eq_some_iff, ofChars?_eq_some_iff, spells_iff]
  constructor
  · rintro ⟨m, places, ⟨hnumeral, hm, hplaces⟩, suffix, hsuffix, hq⟩
    obtain ⟨hexponent, hquantity⟩ := withSuffix?_eq_some_iff (r := ⟨m, places, suffix⟩).1 hq
    exact ⟨⟨m, places, suffix⟩, ⟨hnumeral, hsuffix⟩, ⟨hm, hplaces, hexponent⟩, hquantity⟩
  · rintro ⟨r, ⟨hnumeral, hsuffix⟩, hfits, hquantity⟩
    exact ⟨_, _, ⟨hnumeral, hfits.mantissa, hfits.places⟩, _, hsuffix,
      withSuffix?_eq_some_iff.2 ⟨hfits.exponent, hquantity⟩⟩

/-- A text denotes the value of the quantity that it spells, and no other number. -/
theorem Spells.denotes_iff {s : String} {r : Spelling} (h : Spells s r) {v : ℚ} :
    Denotes s v ↔ v = r.quantity.value := by
  obtain ⟨hnumeral, hsuffix⟩ := spells_iff.1 h
  rw [QuantityText.denotes_iff, r.value_quantity]
  constructor
  · rintro ⟨x, f, hx, hf, rfl⟩
    rw [hx.unique hnumeral.decimal, hf.unique hsuffix.factor]
  · rintro rfl
    exact ⟨_, _, hnumeral.decimal, hsuffix.factor, rfl⟩

/-- **A text that can be read denotes one number**, the value of the quantity that was read. -/
theorem denotes_iff_of_ofText? {s : String} {q : Quantity}
    (h : Quantity.ofText? s = some q) {v : ℚ} :
    Denotes s v ↔ v = q.value := by
  obtain ⟨r, hspells, -, rfl⟩ := ofText?_eq_some_iff.1 h
  exact hspells.denotes_iff

/-! ## Which texts are read -/

theorem Numeral.places_le {cs : List Char} {m places : ℕ} (h : Numeral cs m places) :
    places ≤ cs.length := by
  cases h with
  | whole => exact Nat.zero_le _
  | pointed =>
    rw [List.length_append, List.length_cons]
    omega

/-- A letter moves the power of ten by a few places only. -/
theorem Suffix.tens_bounds {cs : List Char} {suffix : QuantitySuffix} (h : Suffix cs suffix) :
    (∃ k, suffix = .exponent k) ∨
      ((∀ k, suffix ≠ .exponent k) ∧ -9 ≤ suffix.tens ∧ suffix.tens ≤ 18) := by
  have hthousands : ∀ p ∈ thousands, -3 ≤ p.2 ∧ p.2 ≤ 6 := by decide
  cases h with
  | nothing => exact Or.inr ⟨by simp, by decide⟩
  | @decimal c k letter =>
    have hk := hthousands _ letter
    refine Or.inr ⟨by simp, ?_⟩
    simp only [QuantitySuffix.tens] at hk ⊢
    omega
  | binary => exact Or.inr ⟨by simp, by simp [QuantitySuffix.tens]⟩
  | exponent => exact Or.inl ⟨_, rfl⟩

/-- There are no more places behind the point than the text has characters. -/
theorem Spells.places_le {s : String} {r : Spelling} (h : Spells s r) : r.places ≤ s.length := by
  obtain ⟨decimal, suffix, ⟨left, plus, right, hs, -⟩, hnumeral, -⟩ := h
  have hplaces := hnumeral.places_le
  rw [← String.length_toList, hs]
  simp only [List.length_append]
  omega

/-- **What must fit in a text of less than 2³¹ - 8 characters** is the digits, and the power of ten
that results. In a longer one there can be too many places behind the point, whatever the exponent
makes of them. -/
theorem Spells.fits_iff {s : String} {r : Spelling} (h : Spells s r)
    (hshort : s.length + 9 ≤ 2 ^ 31) :
    r.Fits ↔ r.mantissa < 2 ^ 128 ∧ Quantity.fitsExponent r.quantity.tens := by
  have hplaces := h.places_le
  obtain ⟨-, suffix, -, -, hsuffix⟩ := h
  have hword : Quantity.wordBound = 2 ^ 128 := by decide
  have htens : r.quantity.tens = -r.places + r.suffix.tens := rfl
  have hfits : Quantity.fitsExponent r.places := by
    simp only [Quantity.fitsExponent, Text.int32Min, Text.int32Max]
    omega
  rw [← hword]
  rcases hsuffix.tens_bounds with ⟨k, hk⟩ | ⟨hletter, hbounds⟩
  · rw [htens, hk, QuantitySuffix.tens]
    constructor
    · exact fun h => ⟨h.mantissa, h.exponent k hk⟩
    · rintro ⟨hm, hexponent⟩
      refine ⟨hm, hfits, fun j hj => ?_⟩
      rw [hk] at hj
      cases hj
      exact hexponent
  · have hpower : Quantity.fitsExponent r.quantity.tens := by
      rw [htens]
      simp only [Quantity.fitsExponent, Text.int32Min, Text.int32Max]
      omega
    exact ⟨fun h => ⟨h.mantissa, hpower⟩, fun h => ⟨h.1, hfits, fun k hk => absurd hk (hletter k)⟩⟩

/-- A text is refused exactly if it spells no quantity that fits. -/
theorem ofText?_eq_none_iff {s : String} :
    Quantity.ofText? s = none ↔ ¬ ∃ r, Spells s r ∧ r.Fits := by
  rw [Option.eq_none_iff_forall_ne_some]
  constructor
  · rintro hno ⟨r, hspells, hfits⟩
    exact hno _ (ofText?_eq_some_iff.2 ⟨r, hspells, hfits, rfl⟩)
  · intro hno q hq
    obtain ⟨r, hspells, hfits, -⟩ := ofText?_eq_some_iff.1 hq
    exact hno ⟨r, hspells, hfits⟩

theorem ofText_eq_ok_iff {s : String} {q : Quantity} :
    Quantity.ofText s = .ok q ↔ Quantity.ofText? s = some q := by
  rw [Quantity.ofText]
  cases Quantity.ofText? s <;> simp

/-- The complaint about a text names it as it was given. -/
theorem ofText_eq_error_iff {s : String} {e : InvalidQuantity} :
    Quantity.ofText s = .error e ↔ Quantity.ofText? s = none ∧ e = ⟨s⟩ := by
  rw [Quantity.ofText]
  cases Quantity.ofText? s <;> simp [eq_comm]

end QuantityText

end SpotRebalance
