import Mathlib.Algebra.Order.Floor.Div
import Mathlib.Data.Rat.Floor
import Mathlib.Tactic.NormNum.Pow
import Mathlib.Tactic.Positivity
import SpotRebalance.Proofs.Quantity.Reading

/-! # When a count is exact

A quantity is counted in units of `10 ^ -digits`. The exact count is the number that the text
denotes, times `10 ^ digits` and rounded up, or the greatest amount if that is more. On the way the
count passes through a 128-bit word, which it leaves in three places, and then answers the greatest
amount:

* the digits without their point, times the power of two of the suffix, are too much
  (`count?_of_word_le`);
* the power of ten is too much (`count?_of_thirtyNine_le`);
* their product is too much (`count?_of_nonneg`).

The third place is harmless (`val_scaled_of_nonneg`). In the second the count is right unless the
quantity is zero. In the first it is right unless there are so many places behind the point that the
number itself is small. These are all the quantities that are miscounted (`Slips`,
`scaled_exact_iff`). -/

namespace SpotRebalance.Quantity

variable {q : Quantity} {digits : ℤ}

/-! ## The number in front of the power of ten -/

/-- The digits without their point, times the power of two. -/
def whole (q : Quantity) : ℕ := q.mantissa * 2 ^ q.twos

/-- A quantity in units of `10 ^ -digits` is a whole number times a power of ten. -/
theorem value_mul_eq (q : Quantity) (digits : ℤ) :
    q.value * 10 ^ digits = (q.whole : ℚ) * 10 ^ (q.tens + digits) := by
  rw [zpow_add₀ (by norm_num), value, whole]
  push_cast
  ring

/-- A power of ten below 39 is in the word. -/
theorem powerOfTen?_of_lt {e : ℕ} (he : e < 39) : powerOfTen? e = some (10 ^ e) := if_pos he

/-- A power of ten from 39 on is not. -/
theorem powerOfTen?_of_le {e : ℕ} (he : 39 ≤ e) : powerOfTen? e = none := if_neg (Nat.not_lt.2 he)

/-- The least power of ten beyond the word is beyond what the word holds. -/
theorem wordBound_lt_pow {e : ℕ} (he : 39 ≤ e) : wordBound < 10 ^ e :=
  calc wordBound < 10 ^ 39 := by norm_num [wordBound]
    _ ≤ 10 ^ e := Nat.pow_le_pow_right (by norm_num) he

/-- The power of ten keeps its size when it is held in its word: what is below 39 either way stays
as it is. -/
theorem exponentFor_cases (q : Quantity) (digits : ℤ) :
    (39 ≤ q.tens + digits ∧ 39 ≤ q.exponentFor digits) ∨
      (q.tens + digits ≤ -39 ∧ q.exponentFor digits ≤ -39) ∨
      (-39 < q.tens + digits ∧ q.tens + digits < 39 ∧ q.exponentFor digits = q.tens + digits) := by
  simp only [exponentFor, Text.int32Min, Text.int32Max]
  omega

/-- Division that rounds up gives the least whole number that is not below the quotient. -/
theorem ceil_div_eq (n : ℕ) {d : ℕ} (hd : 0 < d) : ⌈(n : ℚ) / d⌉₊ = (n + d - 1) / d := by
  rw [← Nat.ceilDiv_eq_add_pred_div]
  refine eq_of_forall_ge_iff fun c => ?_
  rw [Nat.ceil_le, ceilDiv_le_iff_le_mul hd, div_le_iff₀ (by exact_mod_cast hd)]
  constructor
  · intro h
    rw [mul_comm]
    exact_mod_cast h
  · intro h
    rw [mul_comm] at h
    exact_mod_cast h

/-- A quotient that is at most one is rounded up to one, unless nothing is divided. -/
theorem ceil_div_of_le {n d : ℕ} (hle : n ≤ d) (hd : 0 < d) :
    ⌈(n : ℚ) / d⌉₊ = if n = 0 then 0 else 1 := by
  by_cases hzero : n = 0
  · simp [hzero]
  · have hpos : (0 : ℚ) < n := by exact_mod_cast Nat.pos_of_ne_zero hzero
    have hd' : (0 : ℚ) < d := by exact_mod_cast hd
    rw [if_neg hzero, Nat.ceil_eq_iff (by norm_num)]
    constructor
    · simpa using div_pos hpos hd'
    · rw [div_le_iff₀ hd', Nat.cast_one, one_mul]
      exact_mod_cast hle

/-- A power of ten that is multiplied by leaves nothing to round. -/
theorem ceil_of_nonneg (hten : 0 ≤ q.tens + digits) :
    ⌈q.value * 10 ^ digits⌉₊ = q.whole * 10 ^ (q.tens + digits).toNat := by
  rw [value_mul_eq, ← Int.toNat_of_nonneg hten, zpow_natCast, Int.toNat_natCast]
  exact_mod_cast Nat.ceil_natCast (R := ℚ) (q.whole * 10 ^ (q.tens + digits).toNat)

/-! ## Where the word is left -/

/-- The word is left if the whole number does not fit. -/
theorem count?_of_word_le (h : wordBound ≤ q.whole) : q.count? digits = none := by
  have hnot : ¬ q.mantissa * Nat.pow 2 q.twos < wordBound := Nat.not_lt.2 h
  rw [count?, inWord?, if_neg hnot]
  rfl

/-- Otherwise the count goes on with the power of ten. -/
theorem count?_of_lt_word (h : q.whole < wordBound) :
    q.count? digits =
      if 0 ≤ q.exponentFor digits then (powerOfTen? (q.exponentFor digits).toNat).bind fun p =>
        inWord? (q.whole * p)
      else match powerOfTen? (-q.exponentFor digits).toNat with
        | some divisor => some ((q.whole + divisor - 1) / divisor)
        | none => some (if q.whole = 0 then 0 else 1) := by
  have hin : q.mantissa * Nat.pow 2 q.twos < wordBound := h
  rw [count?, inWord?, if_pos hin]
  rfl

/-- The word is left if the power of ten does not fit. -/
theorem count?_of_thirtyNine_le (h : q.whole < wordBound) (hten : 39 ≤ q.tens + digits) :
    q.count? digits = none := by
  have he : 39 ≤ q.exponentFor digits := by
    have hcases := q.exponentFor_cases digits
    omega
  rw [count?_of_lt_word h, if_pos (by omega), powerOfTen?_of_le (by omega)]
  rfl

/-- A whole power of ten that fits is multiplied, and the word is left if the product does not
fit. -/
theorem count?_of_nonneg (h : q.whole < wordBound) (hten : 0 ≤ q.tens + digits)
    (hlt : q.tens + digits < 39) :
    q.count? digits = inWord? (q.whole * 10 ^ (q.tens + digits).toNat) := by
  have he : q.exponentFor digits = q.tens + digits := by
    have hcases := q.exponentFor_cases digits
    omega
  rw [count?_of_lt_word h, he, if_pos hten, powerOfTen?_of_lt (by omega)]
  rfl

/-- **A power of ten that is divided by is divided by exactly**, rounding up, whether it fits the
word or not. -/
theorem count?_of_neg (h : q.whole < wordBound) (hten : q.tens + digits < 0) :
    q.count? digits = some ⌈q.value * 10 ^ digits⌉₊ := by
  have hcases := q.exponentFor_cases digits
  have hneg : ¬ 0 ≤ q.exponentFor digits := by omega
  obtain ⟨k, hk⟩ : ∃ k : ℕ, q.tens + digits = -k := ⟨(-(q.tens + digits)).toNat, by omega⟩
  have hvalue : q.value * 10 ^ digits = (q.whole : ℚ) / (10 ^ k : ℕ) := by
    rw [value_mul_eq, hk, zpow_neg, zpow_natCast]
    push_cast
    rfl
  rw [count?_of_lt_word h, if_neg hneg, hvalue]
  by_cases hsmall : k < 39
  · have he : (-q.exponentFor digits).toNat = k := by omega
    rw [he, powerOfTen?_of_lt hsmall, ceil_div_eq _ (by positivity)]
  · -- one unit, unless there is nothing: the quotient is less than one
    have he : 39 ≤ (-q.exponentFor digits).toNat := by omega
    have hlt : q.whole < 10 ^ k := h.trans (wordBound_lt_pow (by omega))
    rw [powerOfTen?_of_le he, ceil_div_of_le hlt.le (by positivity)]

/-! ## The quantities that are miscounted -/

/-- What is counted when the word is left. -/
theorem val_scaled_of_none (h : q.count? digits = none) :
    (q.scaled digits).val = Amount.greatest := by
  rw [scaled, h]
  rfl

/-- What is counted otherwise. -/
theorem val_scaled_of_some {n : ℕ} (h : q.count? digits = some n) :
    (q.scaled digits).val = min Amount.greatest n := by
  rw [scaled, h, Amount.val_ofNat, min_comm]

/-- **A count slips**: the word is left on the way, though the number is not too much for an amount.
Either there is nothing to count and the power of ten does not fit, or the digits without their
point, times the power of two, do not fit. -/
def Slips (q : Quantity) (digits : ℤ) : Prop :=
  (q.value = 0 ∧ 39 ≤ q.tens + digits) ∨
    (wordBound ≤ q.whole ∧ ⌈q.value * 10 ^ digits⌉₊ < Amount.greatest)

theorem value_eq_zero_iff : q.value = 0 ↔ q.whole = 0 := by
  have hten : (10 : ℚ) ^ q.tens ≠ 0 := zpow_ne_zero _ (by norm_num)
  simp [value, whole, hten]

/-- A count that slips is the greatest amount. -/
theorem val_scaled_of_slips (h : q.Slips digits) : (q.scaled digits).val = Amount.greatest := by
  rcases h with ⟨hzero, hten⟩ | ⟨hword, -⟩
  · have hlt : q.whole < wordBound := by
      rw [value_eq_zero_iff.1 hzero]
      decide
    exact val_scaled_of_none (count?_of_thirtyNine_le hlt hten)
  · exact val_scaled_of_none (count?_of_word_le hword)

/-- **Multiplying is exact**, if there is something to be multiplied or the power of ten fits: a
product that does not fit the word is more than the greatest amount. -/
theorem val_scaled_of_nonneg (h : q.whole < wordBound) (hten : 0 ≤ q.tens + digits)
    (hfits : q.value = 0 → q.tens + digits < 39) :
    (q.scaled digits).val = min Amount.greatest ⌈q.value * 10 ^ digits⌉₊ := by
  have hgreatest : Amount.greatest ≤ wordBound := by decide
  rw [ceil_of_nonneg hten]
  rcases lt_or_ge (q.tens + digits) 39 with hsmall | hlarge
  · have hcount := count?_of_nonneg h hten hsmall
    by_cases hproduct : q.whole * 10 ^ (q.tens + digits).toNat < wordBound
    · rw [inWord?, if_pos hproduct] at hcount
      exact val_scaled_of_some hcount
    · rw [inWord?, if_neg hproduct] at hcount
      rw [val_scaled_of_none hcount, min_eq_left (by omega)]
  · have hpos : 0 < q.whole := by
      refine Nat.pos_of_ne_zero fun hzero => ?_
      exact absurd (hfits (value_eq_zero_iff.2 hzero)) (not_lt.2 hlarge)
    have hpow : wordBound < 10 ^ (q.tens + digits).toNat := wordBound_lt_pow (by omega)
    have hproduct : 10 ^ (q.tens + digits).toNat ≤ q.whole * 10 ^ (q.tens + digits).toNat :=
      Nat.le_mul_of_pos_left _ hpos
    rw [val_scaled_of_none (count?_of_thirtyNine_le h hlarge), min_eq_left (by omega)]

/-- **A count that does not slip is exact.** -/
theorem val_scaled_of_not_slips (h : ¬ q.Slips digits) :
    (q.scaled digits).val = min Amount.greatest ⌈q.value * 10 ^ digits⌉₊ := by
  rw [Slips, not_or, not_and, not_and, not_lt] at h
  obtain ⟨hzero, hword⟩ := h
  by_cases hlt : q.whole < wordBound
  · rcases lt_or_ge (q.tens + digits) 0 with hneg | hnonneg
    · rw [val_scaled_of_some (count?_of_neg hlt hneg)]
    · exact val_scaled_of_nonneg hlt hnonneg fun hvalue => not_le.1 (hzero hvalue)
  · have hle := hword (not_lt.1 hlt)
    rw [val_scaled_of_none (count?_of_word_le (not_lt.1 hlt)), min_eq_left hle]

/-- **When a count is exact.** A text that can be read denotes one number, and the quantity is
counted exactly in units of `10 ^ -digits` if and only if its count does not slip. If it slips, the
greatest amount is counted. Thousandths are three digits, and whole units none. -/
theorem scaled_exact_iff {s : String} {q : Quantity} (h : ofText? s = some q) :
    (∀ v, QuantityText.Denotes s v ↔ v = q.value) ∧ q.millis = q.scaled 3 ∧ q.units = q.scaled 0 ∧
      ∀ digits : ℤ,
        ((q.scaled digits).val = min Amount.greatest ⌈q.value * 10 ^ digits⌉₊ ↔ ¬ q.Slips digits) ∧
          (q.Slips digits → (q.scaled digits).val = Amount.greatest) := by
  refine ⟨fun v => QuantityText.denotes_iff_of_ofText? h, rfl, rfl, fun digits => ?_⟩
  refine ⟨⟨fun hexact hslips => ?_, val_scaled_of_not_slips⟩, val_scaled_of_slips⟩
  rw [val_scaled_of_slips hslips] at hexact
  -- the exact count is less than the greatest amount
  rcases hslips with ⟨hzero, -⟩ | ⟨-, hlt⟩
  · rw [hzero, zero_mul, Nat.ceil_zero] at hexact
    exact absurd hexact (by decide)
  · rw [min_eq_right hlt.le] at hexact
    omega

/-- A signed number with places behind the point and a binary suffix is counted exactly. -/
theorem scaled_exact_kibi :
    ofText? " +1.50Ki" = some ⟨150, -2, 10⟩ ∧ QuantityText.Denotes " +1.50Ki" 1536 ∧
      (scaled ⟨150, -2, 10⟩ (-3)).val = min Amount.greatest ⌈(1536 : ℚ) * 10 ^ (-3 : ℤ)⌉₊ := by
  have htext : ofText? " +1.50Ki" = some ⟨150, -2, 10⟩ := by decide
  have hvalue : value ⟨150, -2, 10⟩ = 1536 := by norm_num [value]
  obtain ⟨hdenotes, -, -, hexact⟩ := scaled_exact_iff htext
  refine ⟨htext, (hdenotes 1536).2 hvalue.symm, hvalue ▸ (hexact (-3)).1.2 ?_⟩
  rintro (⟨hzero, -⟩ | ⟨hword, -⟩)
  · rw [hvalue] at hzero
    norm_num at hzero
  · exact absurd hword (by decide)

/-- **Two quantities that are miscounted**: zero times `10 ^ 39`, and one Ki with 37 places behind
the point. Both are counted as the greatest amount. -/
theorem not_scaled_exact :
    (∃ q, ofText? "0e39" = some q ∧ QuantityText.Denotes "0e39" 0 ∧
      (q.scaled 0).val = Amount.greatest ∧
      min Amount.greatest ⌈(0 : ℚ) * 10 ^ (0 : ℤ)⌉₊ = 0) ∧
    (∃ q, ofText? "1.0000000000000000000000000000000000000Ki" = some q ∧
      QuantityText.Denotes "1.0000000000000000000000000000000000000Ki" 1024 ∧
      (q.scaled 0).val = Amount.greatest ∧
      min Amount.greatest ⌈(1024 : ℚ) * 10 ^ (0 : ℤ)⌉₊ = 1024) := by
  constructor
  · have htext : ofText? "0e39" = some ⟨0, 39, 0⟩ := by decide
    refine ⟨_, htext, (QuantityText.denotes_iff_of_ofText? htext).2
      (by norm_num [value]), by decide, ?_⟩
    norm_num
  · have htext : ofText? "1.0000000000000000000000000000000000000Ki" =
        some ⟨10000000000000000000000000000000000000, -37, 10⟩ := by decide
    have hceil : ⌈(1024 : ℚ) * 10 ^ (0 : ℤ)⌉₊ = 1024 := by
      rw [zpow_zero, mul_one]
      exact Nat.ceil_natCast 1024
    refine ⟨_, htext, (QuantityText.denotes_iff_of_ofText? htext).2 ?_, by decide, ?_⟩
    · norm_num [value]
    · rw [hceil]
      decide

end SpotRebalance.Quantity
