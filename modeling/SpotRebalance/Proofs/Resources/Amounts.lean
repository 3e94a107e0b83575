import Mathlib.Algebra.Ring.Nat
import Mathlib.Data.List.Induction
import SpotRebalance.Proofs.Resources.Saturation

/-! # Resources, one at a time

A set of resources holds an amount of processor time, of memory and of every named resource
(`Resources.amount`). Sums, differences and maxima are taken for each of them alone, and whether
resources fit a capacity is asked for each of them alone (`fitsWithin_iff_amounts`).

A saturating sum over any number of parts is the exact sum, cut off once at the greatest amount,
wherever on the way it was cut off (`val_amount_sumOf`). A maximum is never cut off
(`val_amount_maxOf`). Sums and maxima name the resources that some part names (`contains_sumOf`,
`contains_maxOf`). -/

namespace SpotRebalance

/-- A resource that pods request amounts of. Pod slots are counted apart. -/
inductive ResourceKind where
  /-- Processor time. -/
  | cpu
  /-- Memory. -/
  | memory
  /-- A named resource. -/
  | named (name : String)
  deriving DecidableEq

namespace NameTable

variable {α : Type} {combine : α → α → α} {t u : NameTable α} {name : String}

@[simp] theorem contains_empty : (∅ : NameTable α).contains name = false := rfl

/-- A merged table has the names of both. -/
@[simp] theorem contains_merge :
    (t.merge combine u).contains name = (t.contains name || u.contains name) := by
  rw [contains, contains, contains, get?_merge]
  cases t.get? name <;> cases u.get? name <;> rfl

end NameTable

namespace Resources

/-- The amount of a resource; zero if its name is not listed. -/
def amount (r : Resources) : ResourceKind → Amount
  | .cpu => r.cpuMillis
  | .memory => r.memoryBytes
  | .named name => r.scalar name

/-! ## Sums, differences and maxima of two -/

@[simp] theorem pods_max (a b : Resources) : (max a b).pods = max a.pods b.pods := rfl

@[simp] theorem scalars_max (a b : Resources) :
    (max a b).scalars = a.scalars.merge max b.scalars := rfl

/-- A sum of named resources, whoever lists them. -/
theorem val_scalar_add (a b : Resources) (name : String) :
    ((a + b).scalar name).val =
      min ((a.scalar name).val + (b.scalar name).val) Amount.greatest := by
  have hle (x : Amount) : x.val = min x.val Amount.greatest :=
    (Nat.min_eq_left x.val_le_greatest).symm
  rw [scalar, scalar, scalar, scalars_add, NameTable.get?_merge]
  cases a.scalars.get? name <;> cases b.scalars.get? name
  · rfl
  · simpa [NameTable.combineOption] using hle _
  · simpa [NameTable.combineOption] using hle _
  · rfl

/-- A maximum of named resources, whoever lists them. -/
theorem val_scalar_max (a b : Resources) (name : String) :
    ((max a b).scalar name).val = max (a.scalar name).val (b.scalar name).val := by
  rw [scalar, scalar, scalar, scalars_max, NameTable.get?_merge]
  cases a.scalars.get? name <;> cases b.scalars.get? name <;> simp [NameTable.combineOption]

/-- **Every resource is added up alone.** -/
theorem val_amount_add (a b : Resources) (kind : ResourceKind) :
    ((a + b).amount kind).val =
      min ((a.amount kind).val + (b.amount kind).val) Amount.greatest := by
  cases kind with
  | cpu => rfl
  | memory => rfl
  | named name => exact val_scalar_add a b name

/-- **The maximum is taken of every resource alone.** -/
theorem val_amount_max (a b : Resources) (kind : ResourceKind) :
    ((max a b).amount kind).val = max (a.amount kind).val (b.amount kind).val := by
  cases kind with
  | cpu => exact Amount.val_max ..
  | memory => exact Amount.val_max ..
  | named name => exact val_scalar_max a b name

/-- A difference is taken of every resource alone; a named resource that is not listed stays at
zero. -/
theorem val_amount_sub (a b : Resources) (kind : ResourceKind) :
    ((a - b).amount kind).val = (a.amount kind).val - (b.amount kind).val := by
  cases kind with
  | cpu => rfl
  | memory => rfl
  | named name =>
    have hsub : (a - b).scalars = a.scalars.map fun name amount => amount - b.scalar name := rfl
    rw [amount, amount, amount, scalar, scalar, hsub, NameTable.get?_map]
    cases a.scalars.get? name with
    | none => exact (Nat.zero_sub _).symm
    | some x => rfl

/-- **Resources fit a capacity exactly if every resource does.** A named resource that is not
requested needs nothing. -/
theorem fitsWithin_iff_amounts {needed capacity : Resources} :
    needed.fitsWithin capacity ↔ ∀ kind, (needed.amount kind).val ≤ (capacity.amount kind).val := by
  rw [fitsWithin_iff]
  constructor
  · rintro ⟨hcpu, hmemory, hnamed⟩ kind
    cases kind with
    | cpu => exact hcpu
    | memory => exact hmemory
    | named name =>
      cases hget : needed.scalars.get? name with
      | none => simp [amount, scalar, hget]
      | some a =>
        have hle : a.val ≤ (capacity.scalar name).val := hnamed name a hget
        simpa [amount, scalar, hget] using hle
  · intro h
    refine ⟨h .cpu, h .memory, fun name a hget => ?_⟩
    have hle := h (.named name)
    rw [amount, scalar, hget] at hle
    exact hle

/-! ## Sums and maxima of any number -/

section Folds

variable {α : Type} {f : α → Resources}

/-- The sum of the resources of some things. -/
def sumOf (f : α → Resources) (xs : List α) : Resources := xs.foldl (fun sum x => sum + f x) {}

/-- The maximum of the resources of some things. -/
def maxOf (f : α → Resources) (xs : List α) : Resources :=
  xs.foldl (fun most x => max most (f x)) {}

theorem sumOf_append_singleton (xs : List α) (x : α) : sumOf f (xs ++ [x]) = sumOf f xs + f x := by
  rw [sumOf, List.foldl_append]
  rfl

theorem maxOf_append_singleton (xs : List α) (x : α) :
    maxOf f (xs ++ [x]) = max (maxOf f xs) (f x) := by
  rw [maxOf, List.foldl_append]
  rfl

/-- **A saturating sum is the exact sum, cut off once** at the greatest amount. -/
theorem val_amount_sumOf (f : α → Resources) (xs : List α) (kind : ResourceKind) :
    ((sumOf f xs).amount kind).val =
      min (xs.map fun x => ((f x).amount kind).val).sum Amount.greatest := by
  induction xs using List.reverseRecOn with
  | nil => cases kind <;> rfl
  | append_singleton xs x ih =>
    rw [sumOf_append_singleton, val_amount_add, ih, List.map_append, List.sum_append,
      List.map_singleton, List.sum_singleton]
    -- what was cut off before stays cut off
    omega

/-- A maximum is exact. -/
theorem val_amount_maxOf (f : α → Resources) (xs : List α) (kind : ResourceKind) :
    ((maxOf f xs).amount kind).val = (xs.map fun x => ((f x).amount kind).val).foldl max 0 := by
  induction xs using List.reverseRecOn with
  | nil => cases kind <;> rfl
  | append_singleton xs x ih =>
    rw [maxOf_append_singleton, val_amount_max, ih, List.map_append, List.foldl_append]
    rfl

/-- A sum names what some part names. -/
theorem contains_sumOf (f : α → Resources) (xs : List α) (name : String) :
    (sumOf f xs).scalars.contains name ↔ ∃ x ∈ xs, (f x).scalars.contains name := by
  induction xs using List.reverseRecOn with
  | nil => simp [sumOf]
  | append_singleton xs x ih =>
    rw [sumOf_append_singleton, scalars_add, NameTable.contains_merge, Bool.or_eq_true, ih]
    simp [or_and_right, exists_or]

/-- A maximum names what some part names. -/
theorem contains_maxOf (f : α → Resources) (xs : List α) (name : String) :
    (maxOf f xs).scalars.contains name ↔ ∃ x ∈ xs, (f x).scalars.contains name := by
  induction xs using List.reverseRecOn with
  | nil => simp [maxOf]
  | append_singleton xs x ih =>
    rw [maxOf_append_singleton, scalars_max, NameTable.contains_merge, Bool.or_eq_true, ih]
    simp [or_and_right, exists_or]

end Folds

end Resources

end SpotRebalance
