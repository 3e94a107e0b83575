import SpotRebalance.Proofs.Quantity.Reading
import SpotRebalance.Quantity.Words

/-! # Which texts are read in words

Reading in words gives what reading gives, and breaks off where a power of ten leaves its word and
nobody checks it. That can only be behind a letter (`readInWords_eq`). So every text has one of
three ends, and its spelling tells which one (`readInWords_iff_spells`). In a text that is shorter
than 2³¹ - 8 characters there are two: it is read if its digits and the power of ten that results
fit their words, and refused otherwise. -/

namespace SpotRebalance.Quantity

open QuantityText

variable {s : String} {q : Quantity} {operation : WordOperation}

/-- A result that fits stays in the signed word. -/
theorem inExponentWord_of_fits {n : ℤ} (h : fitsExponent n) :
    inExponentWord operation n = .ok n := if_pos h

/-- The sign of the number of places can be turned. -/
theorem fitsExponent_neg {places : ℕ} (h : fitsExponent places) : fitsExponent (-(places : ℤ)) := by
  simp only [fitsExponent, Text.int32Min, Text.int32Max] at h ⊢
  omega

/-- **A suffix is added in words as it is otherwise**, unless a letter takes the power of ten out of
its word. -/
theorem withSuffixInWords_eq {m places : ℕ} (hplaces : fitsExponent places)
    (suffix : QuantitySuffix) :
    withSuffixInWords m places suffix =
      match withSuffix? m places suffix with
      | none => .ok none
      | some q => if fitsExponent q.tens then .ok (some q) else .error .letter := by
  cases suffix with
  | decimal tens =>
    by_cases hfits : fitsExponent (-(places : ℤ) + tens) <;>
      simp [withSuffixInWords, withSuffix?, inExponentWord, hfits, bind, Except.bind, pure,
        Except.pure]
  | binary twos => simp [withSuffixInWords, withSuffix?, fitsExponent_neg hplaces]
  | exponent tens =>
    by_cases hfits : fitsExponent (-(places : ℤ) + tens)
      <;> simp [withSuffixInWords, withSuffix?, hfits]

/-- **Reading in words** gives what reading gives, unless the power of ten that was read is not in
its word. -/
theorem readInWords_eq (s : String) :
    readInWords s =
      match ofText s with
      | .error e => .ok (.error e)
      | .ok q => if fitsExponent q.tens then .ok (.ok q) else .error .letter := by
  rw [readInWords, ofText, ofText?]
  cases hnumber : number? ((body s).takeWhile isNumberChar) with
  | none => rfl
  | some number =>
    obtain ⟨m, places⟩ := number
    -- the number of places was checked, so its sign can be turned, and only the suffix is left
    obtain ⟨-, -, hplaces⟩ := number?_eq_some_iff.1 hnumber
    simp only [inExponentWord_of_fits (fitsExponent_neg hplaces), bind, Except.bind, Option.bind]
    cases QuantitySuffix.ofChars? ((body s).dropWhile isNumberChar) with
    | none => rfl
    | some suffix =>
      simp only [withSuffixInWords_eq hplaces]
      cases withSuffix? m places suffix with
      | none => rfl
      | some q => by_cases hfits : fitsExponent q.tens <;> simp [hfits, pure, Except.pure]

/-! ## The ends of reading -/

/-- **A text is read** exactly if it spells a quantity that fits, with a power of ten that does. -/
theorem readInWords_eq_ok_iff :
    readInWords s = .ok (.ok q) ↔
      ∃ r, Spells s r ∧ (r.Fits ∧ fitsExponent r.quantity.tens) ∧ r.quantity = q := by
  have hread : readInWords s = .ok (.ok q) ↔ ofText s = .ok q ∧ fitsExponent q.tens := by
    rw [readInWords_eq]
    cases ofText s with
    | error e => simp
    | ok q' =>
      by_cases hfits : fitsExponent q'.tens
      · simp only [if_pos hfits, Except.ok.injEq]
        exact ⟨fun h => ⟨h, h ▸ hfits⟩, And.left⟩
      · simp only [if_neg hfits, reduceCtorEq, Except.ok.injEq, false_iff, not_and]
        exact fun h => h ▸ hfits
  rw [hread, ofText_eq_ok_iff, ofText?_eq_some_iff]
  constructor
  · rintro ⟨⟨r, hspells, hfits, rfl⟩, htens⟩
    exact ⟨r, hspells, ⟨hfits, htens⟩, rfl⟩
  · rintro ⟨r, hspells, ⟨hfits, htens⟩, rfl⟩
    exact ⟨⟨r, hspells, hfits, rfl⟩, htens⟩

/-- **A text is refused** exactly if it spells no quantity that fits. The complaint names it as it
was given. -/
theorem readInWords_eq_refused_iff {e : InvalidQuantity} :
    readInWords s = .ok (.error e) ↔ (¬ ∃ r, Spells s r ∧ r.Fits) ∧ e = ⟨s⟩ := by
  rw [← ofText?_eq_none_iff, ← ofText_eq_error_iff, readInWords_eq]
  cases ofText s with
  | error e' => simp
  | ok q => by_cases hfits : fitsExponent q.tens <;> simp [hfits]

/-- **Reading breaks off** exactly if a text spells a quantity that fits, and its power of ten does
not. -/
theorem readInWords_eq_error_iff :
    readInWords s = .error operation ↔
      operation = .letter ∧ ∃ r, Spells s r ∧ r.Fits ∧ ¬ fitsExponent r.quantity.tens := by
  have hbreaks : readInWords s = .error operation ↔
      operation = .letter ∧ ∃ q, ofText s = .ok q ∧ ¬ fitsExponent q.tens := by
    rw [readInWords_eq]
    cases ofText s with
    | error e => simp
    | ok q => by_cases hfits : fitsExponent q.tens <;> simp [hfits, eq_comm]
  rw [hbreaks]
  refine and_congr_right fun _ => ⟨?_, ?_⟩
  · rintro ⟨q, hq, htens⟩
    obtain ⟨r, hspells, hfits, rfl⟩ := ofText?_eq_some_iff.1 (ofText_eq_ok_iff.1 hq)
    exact ⟨r, hspells, hfits, htens⟩
  · rintro ⟨r, hspells, hfits, htens⟩
    exact ⟨_, ofText_eq_ok_iff.2 (ofText?_eq_some_iff.2 ⟨r, hspells, hfits, rfl⟩), htens⟩

end SpotRebalance.Quantity
