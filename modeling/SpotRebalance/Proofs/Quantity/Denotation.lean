import Mathlib.Data.List.Basic
import Mathlib.Data.List.TakeWhile
import Mathlib.Data.Nat.Digits.Defs
import Mathlib.Tactic.Ring
import SpotRebalance.Quantity

/-! # What a quantity denotes

The notation of quantities, written down as a grammar with its meaning: a decimal number
(`QuantityText.Decimal`) times the factor that its suffix stands for (`QuantityText.Factor`),
perhaps with a plus sign in front and blanks around (`QuantityText.Denotes`). Letters stand for
powers of 1000, letters with an `i` for powers of 1024.

A text is taken apart in one way only: its body is what stands between the blanks, without a plus
sign in front (`Parts.eq_body`), and in the body the number ends where the digits and points do
(`denotes_iff`). -/

namespace SpotRebalance

namespace QuantityText

/-! ## The grammar -/

/-- Characters that are ASCII digits, all of them. -/
def Digits (cs : List Char) : Prop := ∀ c ∈ cs, c.isDigit

/-- The number that digits write, the first one weighing most. -/
def number (cs : List Char) : ℕ := Nat.ofDigits 10 (cs.reverse.map fun c => c.toNat - '0'.toNat)

/-- **A decimal number**: digits, with a point behind or among them or none. -/
inductive Decimal : List Char → ℚ → Prop
  /-- A whole number. -/
  | whole {cs : List Char} (digits : Digits cs) (written : cs ≠ []) : Decimal cs (number cs)
  /-- A number with a point, and a digit on one side of it at least. -/
  | pointed {whole places : List Char} (digits : Digits (whole ++ places))
      (written : whole ++ places ≠ []) :
    Decimal (whole ++ '.' :: places) (number whole + number places / 10 ^ places.length)

/-- **An integer**: digits, with a sign in front or none. -/
inductive Signed : List Char → ℤ → Prop
  /-- No sign. -/
  | plain {cs : List Char} (digits : Digits cs) (written : cs ≠ []) : Signed cs (number cs)
  /-- A plus sign. -/
  | plus {cs : List Char} (digits : Digits cs) (written : cs ≠ []) : Signed ('+' :: cs) (number cs)
  /-- A minus sign. -/
  | minus {cs : List Char} (digits : Digits cs) (written : cs ≠ []) :
      Signed ('-' :: cs) (-number cs)

/-- The letters for powers of 1000. -/
def thousands : List (Char × ℤ) :=
  [('n', -3), ('u', -2), ('m', -1), ('k', 1), ('M', 2), ('G', 3), ('T', 4), ('P', 5), ('E', 6)]

/-- The letters that stand for powers of 1024 in front of an `i`. -/
def kibis : List (Char × ℕ) := [('K', 1), ('M', 2), ('G', 3), ('T', 4), ('P', 5), ('E', 6)]

/-- **The factor that a suffix stands for.** -/
inductive Factor : List Char → ℚ → Prop
  /-- No suffix. -/
  | nothing : Factor [] 1
  /-- A power of 1000. -/
  | decimal {c : Char} {k : ℤ} (letter : (c, k) ∈ thousands) : Factor [c] (1000 ^ k)
  /-- A power of 1024. -/
  | binary {c : Char} {k : ℕ} (letter : (c, k) ∈ kibis) : Factor [c, 'i'] (1024 ^ k)
  /-- A power of ten. -/
  | exponent {e : Char} {cs : List Char} {k : ℤ} (letter : e = 'e' ∨ e = 'E')
      (digits : Signed cs k) :
    Factor (e :: cs) (10 ^ k)

/-- **A text denotes a number**: it is a decimal number with a suffix, perhaps with a plus sign in
front and blanks around. -/
def Denotes (s : String) (v : ℚ) : Prop :=
  ∃ left plus decimal suffix right x f, s.toList = left ++ (plus ++ (decimal ++ suffix)) ++ right ∧
    (∀ c ∈ left ++ right, Text.isBlank c) ∧ (plus = [] ∨ plus = ['+']) ∧ Decimal decimal x ∧
      Factor suffix f ∧ v = x * f

/-! ## Digits -/

@[simp] theorem number_nil : number [] = 0 := rfl

/-- The number of digits that are put behind others. -/
theorem number_append (cs ds : List Char) :
    number (cs ++ ds) = number cs * 10 ^ ds.length + number ds := by
  simp only [number, List.reverse_append, List.map_append, Nat.ofDigits_append, List.length_map,
    List.length_reverse]
  ring

/-- The number of digits that begin with a given one. -/
theorem number_cons (c : Char) (cs : List Char) :
    number (c :: cs) = (c.toNat - '0'.toNat) * 10 ^ cs.length + number cs := by
  have h := number_append [c] cs
  have hone : number [c] = c.toNat - '0'.toNat := by simp [number]
  rwa [hone] at h

/-- A digit has a value. -/
theorem digitValue?_eq_some_iff {c : Char} {n : ℕ} :
    Text.digitValue? c = some n ↔ c.isDigit ∧ n = c.toNat - '0'.toNat := by
  have hdigit : ('0' ≤ c ∧ c ≤ '9') ↔ c.isDigit = true := by
    rw [Char.isDigit, Bool.and_eq_true, decide_eq_true_eq, decide_eq_true_eq]
    exact Iff.rfl
  rw [Text.digitValue?]
  split
  · rename_i h
    simp [hdigit.1 h, eq_comm]
  · rename_i h
    have hc : c.isDigit = false := Bool.eq_false_iff.2 fun hc => h (hdigit.2 hc)
    simp [hc]

/-- The characters that are read as digits are the ASCII digits. -/
theorem isDigit_eq (c : Char) : Text.isDigit c = c.isDigit := by
  have h := @digitValue?_eq_some_iff c
  rw [Text.isDigit, Bool.eq_iff_iff, Option.isSome_iff_exists]
  simp only [h, exists_and_left, exists_eq, and_true]

/-- **Digits that continue a number** are read as digits, whatever the number. -/
theorem digitsFrom?_eq_some_iff {cs : List Char} {start n : ℕ} :
    Text.digitsFrom? start cs = some n ↔ Digits cs ∧ n = start * 10 ^ cs.length + number cs := by
  induction cs generalizing start with
  | nil =>
    have hnone : Digits [] := fun c hc => by cases hc
    simp [Text.digitsFrom?, hnone, eq_comm]
  | cons c cs ih =>
    have hstep : Text.digitsFrom? start (c :: cs) = some n ↔
        ∃ d, Text.digitValue? c = some d ∧ Text.digitsFrom? (start * 10 + d) cs = some n := by
      rw [Text.digitsFrom?, Option.bind_eq_bind, Option.bind_eq_some_iff]
    rw [hstep]
    simp only [digitValue?_eq_some_iff, ih, Digits, List.forall_mem_cons, List.length_cons,
      number_cons]
    constructor
    · rintro ⟨d, ⟨hc, rfl⟩, hcs, rfl⟩
      exact ⟨⟨hc, hcs⟩, by ring⟩
    · rintro ⟨⟨hc, hcs⟩, rfl⟩
      exact ⟨_, ⟨hc, rfl⟩, hcs, by ring⟩

/-- **One or more digits** are read as the number that they write. -/
theorem digitsValue?_eq_some_iff {cs : List Char} {n : ℕ} :
    Text.digitsValue? cs = some n ↔ cs ≠ [] ∧ Digits cs ∧ n = number cs := by
  cases cs with
  | nil => simp [Text.digitsValue?]
  | cons c cs =>
    rw [Text.digitsValue?, digitsFrom?_eq_some_iff, Nat.zero_mul, Nat.zero_add]
    · simp
    · simp

/-- A sign is no digit. -/
theorem not_digits_cons {c : Char} {cs : List Char} (hc : c.isDigit = false) :
    ¬ Digits (c :: cs) := by
  intro h
  have hdigit := h c List.mem_cons_self
  rw [hc] at hdigit
  cases hdigit

/-- **An integer is read within bounds** exactly if it is written so and lies within them. -/
theorem signedWithin?_eq_some_iff {low high k : ℤ} {cs : List Char} :
    Text.signedWithin? low high cs = some k ↔ Signed cs k ∧ low ≤ k ∧ k ≤ high := by
  rw [Text.signedWithin?.eq_def]
  -- the first character tells which of the three forms it can be
  split
  all_goals
    simp only [Option.bind_eq_bind, Option.bind_eq_some_iff, Option.map_eq_some_iff,
      Option.pure_def, Option.some.injEq, Option.ite_none_right_eq_some, digitsValue?_eq_some_iff]
  · constructor
    · rintro ⟨_, ⟨_, ⟨_, ⟨hwritten, hdigits, rfl⟩, rfl⟩, rfl⟩, hbounds, rfl⟩
      exact ⟨.minus hdigits hwritten, hbounds⟩
    · rintro ⟨hsigned, hbounds⟩
      cases hsigned with
      | plain digits => exact absurd digits (not_digits_cons (by decide))
      | minus digits written => exact ⟨_, ⟨_, ⟨_, ⟨written, digits, rfl⟩, rfl⟩, rfl⟩, hbounds, rfl⟩
  · constructor
    · rintro ⟨_, ⟨_, ⟨_, ⟨hwritten, hdigits, rfl⟩, rfl⟩, rfl⟩, hbounds, rfl⟩
      exact ⟨.plus hdigits hwritten, hbounds⟩
    · rintro ⟨hsigned, hbounds⟩
      cases hsigned with
      | plain digits => exact absurd digits (not_digits_cons (by decide))
      | plus digits written => exact ⟨_, ⟨_, ⟨_, ⟨written, digits, rfl⟩, rfl⟩, rfl⟩, hbounds, rfl⟩
  · rename_i hminus hplus
    constructor
    · rintro ⟨_, ⟨_, ⟨_, ⟨hwritten, hdigits, rfl⟩, rfl⟩, rfl⟩, hbounds, rfl⟩
      exact ⟨.plain hdigits hwritten, hbounds⟩
    · rintro ⟨hsigned, hbounds⟩
      cases hsigned with
      | plain digits written => exact ⟨_, ⟨_, ⟨_, ⟨written, digits, rfl⟩, rfl⟩, rfl⟩, hbounds, rfl⟩
      | plus => exact absurd rfl (hplus _)
      | minus => exact absurd rfl (hminus _)

/-! ## The grammar is unambiguous -/

theorem Signed.ne_nil {cs : List Char} {k : ℤ} (h : Signed cs k) : cs ≠ [] := by
  cases h with
  | plain _ written => exact written
  | plus => exact List.cons_ne_nil _ _
  | minus => exact List.cons_ne_nil _ _

/-- **An integer is written in one way only.** -/
theorem Signed.unique {cs : List Char} {j k : ℤ} (hj : Signed cs j) (hk : Signed cs k) : j = k := by
  cases hj with
  | plain digits =>
    cases hk with
    | plain => rfl
    | plus => exact absurd digits (not_digits_cons (by decide))
    | minus => exact absurd digits (not_digits_cons (by decide))
  | plus =>
    cases hk with
    | plain digits => exact absurd digits (not_digits_cons (by decide))
    | plus => rfl
  | minus =>
    cases hk with
    | plain digits => exact absurd digits (not_digits_cons (by decide))
    | minus => rfl

/-- **A suffix stands for one factor only.** -/
theorem Factor.unique {cs : List Char} {f g : ℚ} (hf : Factor cs f) (hg : Factor cs g) : f = g := by
  have hthousands : ∀ p ∈ thousands, ∀ q ∈ thousands, p.1 = q.1 → p.2 = q.2 := by decide
  have hkibis : ∀ p ∈ kibis, ∀ q ∈ kibis, p.1 = q.1 → p.2 = q.2 := by decide
  have hnot {k : ℤ} : ¬ Signed ['i'] k := by
    intro h
    cases h with
    | plain digits => exact absurd digits (not_digits_cons (by decide))
  cases hf with
  | nothing => cases hg; rfl
  | decimal hc =>
    cases hg with
    | decimal hc' =>
      have hk := hthousands _ hc _ hc' rfl
      exact congrArg (fun k : ℤ => (1000 : ℚ) ^ k) hk
    | exponent _ digits => exact absurd rfl digits.ne_nil
  | binary hc =>
    cases hg with
    | binary hc' =>
      have hk := hkibis _ hc _ hc' rfl
      exact congrArg (fun k : ℕ => (1024 : ℚ) ^ k) hk
    | exponent _ digits => exact absurd digits hnot
  | exponent _ digits =>
    cases hg with
    | decimal => exact absurd rfl digits.ne_nil
    | binary => exact absurd digits hnot
    | exponent _ digits' => rw [digits.unique digits']

/-- The point is no digit. -/
theorem not_digits_of_point {whole places : List Char} : ¬ Digits (whole ++ '.' :: places) := by
  intro h
  have hdigit := h '.' (List.mem_append_right _ List.mem_cons_self)
  exact absurd hdigit (by decide)

/-- **A decimal number is written in one way only.** -/
theorem Decimal.unique {cs : List Char} {x y : ℚ} (hx : Decimal cs x) (hy : Decimal cs y) :
    x = y := by
  cases hx with
  | whole digits =>
    cases hy with
    | whole => rfl
    | pointed => exact absurd digits not_digits_of_point
  | @pointed whole places digits =>
    generalize hcs : whole ++ '.' :: places = ds at hy
    cases hy with
    | whole digits' =>
      rw [← hcs] at digits'
      exact absurd digits' not_digits_of_point
    | @pointed whole' places' digits' =>
      -- both were cut at the only point
      have hpoint {ds es : List Char} (h : Digits (ds ++ es)) : '.' ∉ ds := by
        intro hmem
        exact absurd (h '.' (List.mem_append_left _ hmem)) (by decide)
      have hplaces {ds es : List Char} (h : Digits (ds ++ es)) : '.' ∉ es := by
        intro hmem
        exact absurd (h '.' (List.mem_append_right _ hmem)) (by decide)
      rw [List.append_cons_inj_of_notMem (hpoint digits) (hplaces digits)] at hcs
      obtain ⟨rfl, -, rfl⟩ := hcs
      rfl

/-! ## How a text is taken apart -/

/-- A digit is not blank. -/
theorem not_isBlank_of_isDigit {c : Char} (hc : c.isDigit = true) : Text.isBlank c = false := by
  have hrange : 48 ≤ c.toNat ∧ c.toNat ≤ 57 := by
    rw [Char.isDigit, Bool.and_eq_true, decide_eq_true_eq, decide_eq_true_eq] at hc
    exact hc
  simp only [Text.isBlank, Bool.or_eq_false_iff, Bool.and_eq_false_iff, decide_eq_false_iff_not,
    beq_eq_false_iff_ne]
  omega

/-- The characters of decimal numbers are digits and points, and there is one at least. -/
theorem Decimal.isNumberChar {cs : List Char} {x : ℚ} (h : Decimal cs x) :
    cs ≠ [] ∧ ∀ c ∈ cs, Quantity.isNumberChar c = true := by
  have hdigit {c : Char} (hc : c.isDigit = true) : Quantity.isNumberChar c = true := by
    rw [Quantity.isNumberChar, isDigit_eq, hc, Bool.true_or]
  cases h with
  | whole digits written => exact ⟨written, fun c hc => hdigit (digits c hc)⟩
  | pointed digits =>
    refine ⟨by simp, fun c hc => ?_⟩
    rw [List.mem_append, List.mem_cons] at hc
    rcases hc with hc | rfl | hc
    · exact hdigit (digits c (List.mem_append_left _ hc))
    · decide
    · exact hdigit (digits c (List.mem_append_right _ hc))

/-- A character of a number is neither blank nor a plus sign. -/
theorem of_isNumberChar {c : Char} (hc : Quantity.isNumberChar c = true) :
    Text.isBlank c = false ∧ c ≠ '+' := by
  rw [Quantity.isNumberChar, isDigit_eq, Bool.or_eq_true, beq_iff_eq] at hc
  rcases hc with hc | rfl
  · refine ⟨not_isBlank_of_isDigit hc, ?_⟩
    rintro rfl
    exact absurd hc (by decide)
  · decide

/-- An integer has no blanks. -/
theorem Signed.not_isBlank {cs : List Char} {k : ℤ} (h : Signed cs k) :
    ∀ c ∈ cs, Text.isBlank c = false := by
  cases h with
  | plain digits => exact fun c hc => not_isBlank_of_isDigit (digits c hc)
  | plus digits =>
    exact List.forall_mem_cons.2 ⟨by decide, fun c hc => not_isBlank_of_isDigit (digits c hc)⟩
  | minus digits =>
    exact List.forall_mem_cons.2 ⟨by decide, fun c hc => not_isBlank_of_isDigit (digits c hc)⟩

/-- A suffix begins with no character of a number, and has no blanks. -/
theorem Factor.chars {cs : List Char} {f : ℚ} (h : Factor cs f) :
    (∀ c ∈ cs.head?, Quantity.isNumberChar c = false) ∧ ∀ c ∈ cs, Text.isBlank c = false := by
  have hthousands : ∀ p ∈ thousands, Quantity.isNumberChar p.1 = false ∧
      Text.isBlank p.1 = false := by
    decide
  have hkibis : ∀ p ∈ kibis, Quantity.isNumberChar p.1 = false ∧ Text.isBlank p.1 = false := by
    decide
  cases h with
  | nothing => simp
  | decimal hc =>
    have hchar := hthousands _ hc
    simp [hchar]
  | binary hc =>
    have hchar := hkibis _ hc
    simp [hchar]
    decide
  | @exponent e cs k letter digits =>
    have hletter : Quantity.isNumberChar e = false ∧ Text.isBlank e = false := by
      rcases letter with rfl | rfl <;> decide
    exact ⟨by simp [hletter], List.forall_mem_cons.2 ⟨hletter.2, digits.not_isBlank⟩⟩

/-- What is left when blanks are cut off both ends, if there are none between. -/
theorem trimEnd_trimStart {left core right : List Char}
    (hblank : ∀ c ∈ left ++ right, Text.isBlank c) (hcore : ∀ c ∈ core, Text.isBlank c = false)
    (hwritten : core ≠ []) :
    Text.trimEnd (Text.trimStart (left ++ core ++ right)) = core := by
  have hleft : ∀ c ∈ left, Text.isBlank c := fun c hc => hblank c (List.mem_append_left _ hc)
  have hright : ∀ c ∈ right.reverse, Text.isBlank c := fun c hc =>
    hblank c (List.mem_append_right _ (List.mem_reverse.1 hc))
  -- in either direction, cutting stops at the first character of the core
  have hstop {ds es : List Char} (hds : ∀ c ∈ ds, Text.isBlank c = false) (hne : ds ≠ []) :
      (ds ++ es).dropWhile Text.isBlank = ds ++ es := by
    obtain ⟨d, ds, rfl⟩ := List.exists_cons_of_ne_nil hne
    rw [List.cons_append, List.dropWhile_cons_of_neg]
    simp [hds d List.mem_cons_self]
  have hcore' : ∀ c ∈ core.reverse, Text.isBlank c = false :=
    fun c hc => hcore c (List.mem_reverse.1 hc)
  rw [Text.trimStart, List.append_assoc, List.dropWhile_append_of_pos hleft, hstop hcore hwritten,
    Text.trimEnd, List.reverse_append, List.dropWhile_append_of_pos hright,
    ← List.append_nil core.reverse, hstop hcore' (by simpa using hwritten), List.append_nil,
    List.reverse_reverse]

/-- **The body of a text** is what stands between its blanks, without a plus sign in front. -/
theorem exists_body (s : String) :
    ∃ left plus right, s.toList = left ++ (plus ++ Quantity.body s) ++ right ∧
      (∀ c ∈ left ++ right, Text.isBlank c) ∧
      (plus = [] ∨ plus = ['+']) := by
  let rest := Text.trimStart s.toList
  let left := s.toList.takeWhile Text.isBlank
  let right := (rest.reverse.takeWhile Text.isBlank).reverse
  have hs : s.toList = left ++ Text.trimEnd rest ++ right := by
    have hrest : Text.trimEnd rest ++ right = rest := by
      rw [Text.trimEnd, ← List.reverse_append, List.takeWhile_append_dropWhile,
        List.reverse_reverse]
    rw [List.append_assoc, hrest]
    exact List.takeWhile_append_dropWhile.symm
  have hblank : ∀ c ∈ left ++ right, Text.isBlank c := by
    intro c hc
    rcases List.mem_append.1 hc with hc | hc
    · exact List.mem_takeWhile_imp hc
    · exact List.mem_takeWhile_imp (List.mem_reverse.1 hc)
  -- the plus sign is the first character that is not blank
  have hplus : ∃ plus, Text.trimEnd rest = plus ++ Quantity.body s ∧
      (plus = [] ∨ plus = ['+']) := by
    rw [Quantity.body]
    split
    · rename_i cs hcs
      exact ⟨['+'], hcs, Or.inr rfl⟩
    · exact ⟨[], rfl, Or.inl rfl⟩
  obtain ⟨plus, htrim, hplus⟩ := hplus
  exact ⟨left, plus, right, htrim ▸ hs, hblank, hplus⟩

/-- What stands between the blanks of a text, without a plus sign in front, is its body. -/
theorem body_eq {s : String} {left plus core right : List Char}
    (hs : s.toList = left ++ (plus ++ core) ++ right) (hblank : ∀ c ∈ left ++ right, Text.isBlank c)
    (hplus : plus = [] ∨ plus = ['+']) (hcore : ∀ c ∈ core, Text.isBlank c = false)
    (hwritten : core ≠ []) (hhead : '+' ∉ core.head?) :
    Quantity.body s = core := by
  obtain ⟨d, ds, rfl⟩ := List.exists_cons_of_ne_nil hwritten
  have htrim : Text.trimEnd (Text.trimStart s.toList) = plus ++ d :: ds := by
    rw [hs]
    refine trimEnd_trimStart hblank ?_ (by simp)
    rcases hplus with rfl | rfl
    · exact hcore
    · exact List.forall_mem_cons.2 ⟨by decide, hcore⟩
  rw [Quantity.body, htrim]
  rcases hplus with rfl | rfl
  · rw [List.nil_append]
    split
    · rename_i heq
      cases heq
      exact absurd rfl hhead
    · rfl
  · rfl

/-- **A text is taken apart** into a number and a suffix, perhaps with a plus sign in front and
blanks around. -/
def Parts (s : String) (decimal suffix : List Char) : Prop :=
  ∃ left plus right, s.toList = left ++ (plus ++ (decimal ++ suffix)) ++ right ∧
    (∀ c ∈ left ++ right, Text.isBlank c) ∧ (plus = [] ∨ plus = ['+'])

/-- **The number of a text ends where the digits and points of its body do**, and the rest is the
suffix. -/
theorem Parts.eq_body {s : String} {decimal suffix : List Char} (h : Parts s decimal suffix)
    (hwritten : decimal ≠ []) (hnumber : ∀ c ∈ decimal, Quantity.isNumberChar c = true)
    (hsuffix : (∀ c ∈ suffix.head?, Quantity.isNumberChar c = false) ∧ ∀ c ∈ suffix,
      Text.isBlank c = false) :
    decimal = (Quantity.body s).takeWhile Quantity.isNumberChar ∧
      suffix = (Quantity.body s).dropWhile Quantity.isNumberChar := by
  obtain ⟨left, plus, right, hs, hblank, hplus⟩ := h
  obtain ⟨hend, hsuffix⟩ := hsuffix
  have hcore : ∀ c ∈ decimal ++ suffix, Text.isBlank c = false := by
    intro c hc
    rcases List.mem_append.1 hc with hc | hc
    · exact (of_isNumberChar (hnumber c hc)).1
    · exact hsuffix c hc
  have hhead : '+' ∉ (decimal ++ suffix).head? := by
    -- a decimal number does not begin with a plus sign
    obtain ⟨d, ds, rfl⟩ := List.exists_cons_of_ne_nil hwritten
    have hd := (of_isNumberChar (hnumber d List.mem_cons_self)).2
    simpa using hd
  have hbody : Quantity.body s = decimal ++ suffix :=
    body_eq hs hblank hplus hcore (by simp [hwritten]) hhead
  have htake : suffix.takeWhile Quantity.isNumberChar = [] ∧
      suffix.dropWhile Quantity.isNumberChar = suffix := by
    cases suffix with
    | nil => exact ⟨rfl, rfl⟩
    | cons c cs =>
      have hc : Quantity.isNumberChar c = false := hend c rfl
      simp [hc]
  rw [hbody, List.takeWhile_append_of_pos hnumber, List.dropWhile_append_of_pos hnumber,
    htake.1, htake.2, List.append_nil]
  exact ⟨rfl, rfl⟩

/-- Every text is taken apart so. -/
theorem parts_body (s : String) :
    Parts s ((Quantity.body s).takeWhile Quantity.isNumberChar)
      ((Quantity.body s).dropWhile Quantity.isNumberChar) := by
  rw [Parts, List.takeWhile_append_dropWhile]
  exact exists_body s

/-- **A text denotes a number** exactly if its body begins with a decimal number, which ends where
the digits and points do, and the rest is a suffix. -/
theorem denotes_iff {s : String} {v : ℚ} :
    Denotes s v ↔ ∃ x f, Decimal ((Quantity.body s).takeWhile Quantity.isNumberChar) x ∧
      Factor ((Quantity.body s).dropWhile Quantity.isNumberChar) f ∧ v = x * f := by
  constructor
  · rintro ⟨left, plus, decimal, suffix, right, x, f, hs, hblank, hplus, hx, hf, rfl⟩
    have hparts : Parts s decimal suffix := ⟨left, plus, right, hs, hblank, hplus⟩
    obtain ⟨rfl, rfl⟩ := hparts.eq_body hx.isNumberChar.1 hx.isNumberChar.2 hf.chars
    exact ⟨x, f, hx, hf, rfl⟩
  · rintro ⟨x, f, hx, hf, rfl⟩
    obtain ⟨left, plus, right, hs, hblank, hplus⟩ := parts_body s
    exact ⟨left, plus, _, _, right, x, f, hs, hblank, hplus, hx, hf, rfl⟩

end QuantityText

end SpotRebalance
