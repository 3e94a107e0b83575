/-! # Amounts

An **amount** counts millicores, bytes, pod slots or units of a named resource in a 64-bit word.
Sums stop at the greatest amount and differences at zero, so arithmetic never fails; `val_add`,
`val_sub` and `val_max` say what each operation does to the number counted. -/

namespace SpotRebalance

/-- A count that fits a 64-bit word. -/
@[ext]
structure Amount where
  /-- The number counted. -/
  val : Nat
  /-- It fits the word. -/
  val_lt : val < 18446744073709551616
  deriving DecidableEq

namespace Amount

/-- The greatest number an amount can count. -/
def greatest : Nat := 18446744073709551615

/-- The amount nearest to a number: the number itself, or the greatest amount. -/
def ofNat (n : Nat) : Amount :=
  ⟨min n greatest, Nat.lt_of_le_of_lt (Nat.min_le_right ..) (by decide)⟩

instance (n : Nat) : OfNat Amount n := ⟨ofNat n⟩

instance : Inhabited Amount := ⟨0⟩

instance : Add Amount := ⟨fun a b => ofNat (a.val + b.val)⟩

instance : Sub Amount := ⟨fun a b => ⟨a.val - b.val, Nat.lt_of_le_of_lt (Nat.sub_le ..) a.val_lt⟩⟩

instance : Max Amount := ⟨fun a b => if a.val ≤ b.val then b else a⟩

instance : LE Amount := ⟨fun a b => a.val ≤ b.val⟩

instance (a b : Amount) : Decidable (a ≤ b) := inferInstanceAs (Decidable (a.val ≤ b.val))

theorem le_iff {a b : Amount} : a ≤ b ↔ a.val ≤ b.val := Iff.rfl

theorem val_le_greatest (a : Amount) : a.val ≤ greatest := Nat.le_of_lt_succ a.val_lt

@[simp] theorem val_ofNat (n : Nat) : (ofNat n).val = min n greatest := rfl

@[simp] theorem val_zero : (0 : Amount).val = 0 := rfl

@[simp] theorem val_add (a b : Amount) : (a + b).val = min (a.val + b.val) greatest := rfl

@[simp] theorem val_sub (a b : Amount) : (a - b).val = a.val - b.val := rfl

@[simp] theorem val_max (a b : Amount) : (max a b).val = max a.val b.val := by
  change (if a.val ≤ b.val then b else a).val = _
  split <;> omega

end Amount

end SpotRebalance
