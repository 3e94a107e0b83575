import SpotRebalance.Proofs.Quantity.Exactness
import SpotRebalance.Proofs.Quantity.Words

/-! # Which quantities leave their words

Reading and counting break off where a result that nobody checks leaves its word. In reading this
could only be the power of ten behind a letter, and a text that is not too long keeps it in its word
(`readInWords_of_short`).

In counting the shift is by sixty at most (`Suffix.twos_le`), and a quotient of the word by ten or
more has room for one (`quotientInWords_eq`). What is left is the power of ten that is divided by.
The combined power of ten is held at the ends of its word, and the least number there has no
counterpart on the other side. So counting breaks off exactly if it gets to a combined power of ten
of `-2³¹` or less (`LeavesWord`, `breaksOff_iff`). Thousandths never get there, and whole units only
with that very exponent (`scaledInWords_millis`, `scaledInWords_units`). -/

namespace SpotRebalance

open QuantityText

/-- A suffix is a power of two below the width of the word. -/
theorem QuantityText.Suffix.twos_le {cs : List Char} {suffix : QuantitySuffix}
    (h : Suffix cs suffix) : suffix.twos ≤ 60 := by
  have hkibis : ∀ p ∈ kibis, p.2 ≤ 6 := by decide
  cases h with
  | nothing => exact Nat.zero_le _
  | decimal letter => exact Nat.zero_le _
  | @binary c k letter =>
    have hk : k ≤ 6 := hkibis _ letter
    simp only [QuantitySuffix.twos]
    omega
  | exponent => exact Nat.zero_le _

namespace Quantity

variable {s : String} {q : Quantity} {digits : ℤ} {operation : WordOperation}

/-! ## Reading -/

/-- A text has no more characters than bytes. -/
theorem length_le_utf8ByteSize (s : String) : s.length ≤ s.utf8ByteSize := by
  have hlist (cs : List Char) : cs.length ≤ cs.utf8Encode.size := by
    induction cs with
    | nil => exact Nat.zero_le _
    | cons c cs ih =>
      have hc : 0 < [c].utf8Encode.size := by
        rw [List.utf8Encode_singleton]
        simpa using c.utf8Size_pos
      rw [List.utf8Encode_cons, ByteArray.size_append, List.length_cons]
      omega
  rw [← s.length_toList, String.utf8ByteSize, ← String.utf8Encode_toList]
  exact hlist s.toList

/-- The power of ten that is read from a text that is not too long is in its word. -/
theorem fitsExponent_of_ofText (hshort : s.utf8ByteSize < 2 ^ 31 - 32) (h : ofText s = .ok q) :
    fitsExponent q.tens := by
  obtain ⟨r, hspells, hfits, rfl⟩ := ofText?_eq_some_iff.1 (ofText_eq_ok_iff.1 h)
  have hlength := length_le_utf8ByteSize s
  exact ((hspells.fits_iff (by omega)).1 hfits).2

/-- **Reading a text that is not too long never breaks off.** -/
theorem readInWords_of_short (hshort : s.utf8ByteSize < 2 ^ 31 - 32) :
    readInWords s = .ok (ofText s) := by
  rw [readInWords_eq]
  cases hread : ofText s with
  | error e => rfl
  | ok q => exact if_pos (fitsExponent_of_ofText hshort hread)

/-- What is read is shifted within the word. -/
theorem twos_le_of_ofText (h : ofText s = .ok q) : q.twos ≤ 60 := by
  obtain ⟨r, ⟨-, suffix, -, -, hsuffix⟩, -, rfl⟩ := ofText?_eq_some_iff.1 (ofText_eq_ok_iff.1 h)
  exact hsuffix.twos_le

/-! ## Counting -/

/-- Rounding up adds one to the quotient if something is left over. -/
theorem ceil_quotient {n d : ℕ} (hd : 0 < d) :
    (n + d - 1) / d = if 0 < n % d then n / d + 1 else n / d := by
  have hparts := Nat.div_add_mod n d
  have hlt := Nat.mod_lt n hd
  split
  · rename_i hleft
    refine Nat.div_eq_of_lt_le ?_ ?_
    · rw [Nat.add_mul, Nat.mul_comm (n / d)]
      omega
    · rw [Nat.add_mul, Nat.add_mul, Nat.mul_comm (n / d)]
      omega
  · rename_i hnone
    refine Nat.div_eq_of_lt_le ?_ ?_
    · rw [Nat.mul_comm]
      omega
    · rw [Nat.add_mul, Nat.mul_comm (n / d)]
      omega

/-- A quotient of the word by two or more has room for one. -/
theorem quotientInWords_eq {n d : ℕ} (hn : n < wordBound) (hd : 1 < d) :
    quotientInWords n d = .ok ((n + d - 1) / d) := by
  rw [quotientInWords, ceil_quotient (by omega)]
  split
  · rename_i hleft
    have hpos : 0 < n := Nat.pos_of_ne_zero fun hzero => by simp [hzero] at hleft
    have hroom : n / d + 1 < wordBound := lt_of_le_of_lt (Nat.div_lt_self hpos hd) hn
    exact if_pos hroom
  · rfl

/-- **A count leaves its word**: the digits and their power of two fit, so the power of ten is
looked at, and it is too small for its sign to be turned. -/
def LeavesWord (q : Quantity) (digits : ℤ) : Prop :=
  q.whole < wordBound ∧ q.tens + digits ≤ Text.int32Min

instance (q : Quantity) (digits : ℤ) : Decidable (q.LeavesWord digits) :=
  inferInstanceAs (Decidable (_ ∧ _))

/-- The sign of the combined power of ten can be turned unless that is the least number in its
word. -/
theorem inExponentWord_neg (hneg : ¬ 0 ≤ q.exponentFor digits) :
    inExponentWord operation (-q.exponentFor digits) =
      if q.tens + digits ≤ Text.int32Min then .error operation
      else .ok (-q.exponentFor digits) := by
  have hfits : fitsExponent (-q.exponentFor digits) ↔ ¬ q.tens + digits ≤ Text.int32Min := by
    simp only [fitsExponent, exponentFor, Text.int32Min, Text.int32Max] at hneg ⊢
    omega
  rw [inExponentWord, if_congr hfits rfl rfl, ite_not]

/-- A power of ten that is divided by is ten at least. -/
theorem one_lt_of_powerOfTen? {e d : ℕ} (he : 0 < e) (h : powerOfTen? e = some d) : 1 < d := by
  rw [powerOfTen?, Option.ite_none_right_eq_some] at h
  obtain ⟨-, h⟩ := h
  obtain rfl := Option.some.inj h
  exact Nat.one_lt_pow he.ne' (by decide)

/-- **Counting in words** breaks off if the count leaves its word, and otherwise it is the count. -/
theorem countInWords_eq (htwos : q.twos ≤ 60) :
    q.countInWords digits = if q.LeavesWord digits then .error .divisor
      else .ok (q.count? digits) := by
  have hshift : shiftedOne q.twos = .ok (2 ^ q.twos) := if_pos (by omega)
  have hwhole : q.mantissa * 2 ^ q.twos = q.whole := rfl
  rw [countInWords, hshift]
  simp only [bind, Except.bind, hwhole]
  by_cases hlt : q.whole < wordBound
  · rw [count?_of_lt_word hlt, inWord?, if_pos hlt]
    by_cases hten : 0 ≤ q.exponentFor digits
    · -- nothing is divided, so no sign is turned
      have hstays : ¬ q.LeavesWord digits := by
        rintro ⟨-, hle⟩
        simp only [exponentFor, Text.int32Min, Text.int32Max] at hten hle
        omega
      simp only [if_pos hten, if_neg hstays]
      rfl
    · simp only [if_neg hten, inExponentWord_neg hten, LeavesWord, hlt, true_and]
      by_cases hle : q.tens + digits ≤ Text.int32Min
      · simp only [if_pos hle]
      · simp only [if_neg hle]
        cases hpower : powerOfTen? (-q.exponentFor digits).toNat with
        | none => rfl
        | some d =>
          simp only [quotientInWords_eq hlt (one_lt_of_powerOfTen? (by omega) hpower)]; rfl
  · have hstays : ¬ q.LeavesWord digits := fun h => hlt h.1
    rw [count?_of_word_le (Nat.not_lt.1 hlt), inWord?, if_neg hlt, if_neg hstays]
    rfl

/-- **The amount counted in words**, unless the count leaves its word. -/
theorem scaledInWords_eq (htwos : q.twos ≤ 60) :
    q.scaledInWords digits = if q.LeavesWord digits then .error .divisor
      else .ok (q.scaled digits) := by
  rw [scaledInWords, countInWords_eq htwos]
  split
  · rfl
  · simp only [bind, Except.bind, scaled]
    cases q.count? digits <;> rfl

/-! ## Texts -/

/-- Thousandths are always counted: three digits more keep the power of ten above the least
number. -/
theorem scaledInWords_millis (hshort : s.utf8ByteSize < 2 ^ 31 - 32) (h : ofText s = .ok q) :
    q.scaledInWords 3 = .ok q.millis := by
  have hstays : ¬ q.LeavesWord 3 := by
    rintro ⟨-, hle⟩
    have hfits := (fitsExponent_of_ofText hshort h).1
    omega
  rw [scaledInWords_eq (twos_le_of_ofText h), if_neg hstays, millis]

/-- Whole units are counted unless the power of ten of the text is the least number itself. -/
theorem scaledInWords_units (hshort : s.utf8ByteSize < 2 ^ 31 - 32) (h : ofText s = .ok q) :
    q.scaledInWords 0 =
      if q.whole < wordBound ∧ q.tens = Text.int32Min then .error .divisor else .ok q.units := by
  have hleaves : q.LeavesWord 0 ↔ q.whole < wordBound ∧ q.tens = Text.int32Min := by
    have hfits := (fitsExponent_of_ofText hshort h).1
    refine and_congr_right fun _ => ?_
    omega
  rw [scaledInWords_eq (twos_le_of_ofText h), units, if_congr hleaves rfl rfl]

/-- **The work on a text stays in its words**: it is read, and it is counted with all digits that a
signed word holds. -/
def StaysInWords (s : String) : Prop :=
  (∃ r, readInWords s = .ok r) ∧
    ∀ q, readInWords s = .ok (.ok q) → ∀ digits, fitsExponent digits →
      ∃ n, q.scaledInWords digits = .ok n

/-- **When the work on a text breaks off.** A text of less than 2³¹ - 32 bytes is always read. The
quantity is counted in units of `10 ^ -digits` as it should be, unless the count leaves its word:
then, and only then, the work breaks off, at the power of ten that is divided by. -/
theorem breaksOff_iff (hshort : s.utf8ByteSize < 2 ^ 31 - 32) :
    readInWords s = .ok (ofText s) ∧ ∀ q, ofText s = .ok q → ∀ digits,
      (∀ operation, q.scaledInWords digits = .error operation ↔
        operation = .divisor ∧ q.LeavesWord digits) ∧
        ∀ n, q.scaledInWords digits = .ok n ↔ n = q.scaled digits ∧ ¬ q.LeavesWord digits := by
  refine ⟨readInWords_of_short hshort, fun q hq digits => ?_⟩
  rw [scaledInWords_eq (twos_le_of_ofText hq)]
  by_cases hleaves : q.LeavesWord digits <;> simp [hleaves, eq_comm]

/-- Next to the end of the word: with two digits less the work goes through, with three it breaks
off. -/
theorem breaksOff_iff_tiny :
    readInWords "1e-2147483645" = .ok (.ok ⟨1, -2147483645, 0⟩) ∧
      scaledInWords ⟨1, -2147483645, 0⟩ (-2) = .ok (scaled ⟨1, -2147483645, 0⟩ (-2)) ∧
      scaledInWords ⟨1, -2147483645, 0⟩ (-3) = .error .divisor := by
  have hread : ofText "1e-2147483645" = .ok ⟨1, -2147483645, 0⟩ := by rfl
  obtain ⟨hwords, hcounts⟩ := breaksOff_iff (s := "1e-2147483645") (by decide)
  refine ⟨hwords.trans (congrArg _ hread), ((hcounts _ hread (-2)).2 _).2 ⟨rfl, by decide⟩, ?_⟩
  exact ((hcounts _ hread (-3)).1 _).2 ⟨rfl, by decide⟩

/-- **The least power of ten does not stay in its word.** The text is short and is read, and then
the work on its whole units breaks off, though there is one of them. -/
theorem not_staysInWords_least :
    "1e-2147483648".utf8ByteSize < 2 ^ 31 - 32 ∧ ¬ StaysInWords "1e-2147483648" ∧
      readInWords "1e-2147483648" = .ok (.ok ⟨1, -2147483648, 0⟩) ∧
      scaledInWords ⟨1, -2147483648, 0⟩ 0 = .error .divisor ∧
      (scaled ⟨1, -2147483648, 0⟩ 0).val = 1 := by
  have hread : readInWords "1e-2147483648" = .ok (.ok ⟨1, -2147483648, 0⟩) := by rfl
  have hbreaks : scaledInWords ⟨1, -2147483648, 0⟩ 0 = .error .divisor := by rfl
  refine ⟨by decide, fun hstays => ?_, hread, hbreaks, by decide⟩
  obtain ⟨n, hn⟩ := hstays.2 _ hread 0 (by decide)
  rw [hbreaks] at hn
  cases hn

end Quantity

end SpotRebalance
