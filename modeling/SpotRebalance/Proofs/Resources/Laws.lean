import SpotRebalance.Proofs.Resources.Amounts

/-! # The laws of resources

Resources are determined by how many pod slots they hold, how much of every other resource they
hold, and which names they list (`ext_amounts`). A name that is listed with zero is still listed, so
the last is not implied by the others. The amounts are numbers that stop at the greatest one, and
the names form sets that are united. Every law of sums and maxima is therefore one about such
numbers and one about the union of sets (`Laws`).

Fitting within is transitive (`fitsWithin_trans`). A part fits within its sum (`fitsWithin_add`) and
a difference within what it was taken from (`sub_fitsWithin`), so what does not fit is not made to
fit by adding to it or by taking room away.

What pods request together is the exact sum of every resource, cut off once, with the names that
some pod lists (`requested_eq_iff`). The order of the pods does not matter, nor when on the way a
sum was cut off (`sums_lawful`). -/

namespace SpotRebalance

namespace Resources

variable {a b c r : Resources} {pods : List Pod}

/-! ## When resources are the same -/

/-- A name stands for the same if both sides list it or neither does, with the same amount. -/
theorem get?_eq_of_scalar_eq {name : String}
    (hlisted : a.scalars.contains name = b.scalars.contains name)
    (hamount : a.scalar name = b.scalar name) : a.scalars.get? name = b.scalars.get? name := by
  rw [NameTable.contains, NameTable.contains] at hlisted
  rw [scalar, scalar] at hamount
  cases ha : a.scalars.get? name with
  | none => exact ((Option.isSome_eq_isSome.1 hlisted).1 ha).symm
  | some x =>
    cases hb : b.scalars.get? name with
    | none => simp [ha, hb] at hlisted
    | some y => simpa [ha, hb] using hamount

/-- **Resources with the same amounts that list the same names are the same.** -/
theorem ext_amounts (hslots : a.pods.val = b.pods.val)
    (hamounts : ∀ kind, (a.amount kind).val = (b.amount kind).val)
    (hlisted : ∀ name, a.scalars.contains name = b.scalars.contains name) : a = b := by
  ext1
  · exact Amount.ext (hamounts .cpu)
  · exact Amount.ext (hamounts .memory)
  · exact Amount.ext hslots
  · apply NameTable.ext_get?
    intro name
    exact get?_eq_of_scalar_eq (hlisted name) (Amount.ext (hamounts (.named name)))

/-! ## Sums and maxima -/

@[simp] theorem val_amount_empty (kind : ResourceKind) :
    (({} : Resources).amount kind).val = 0 := by
  cases kind <;> rfl

/-- Adding nothing changes nothing, and lists no other name. -/
theorem add_empty (a : Resources) : a + {} = a := by
  refine ext_amounts ?_ (fun kind => ?_) fun name => ?_
  · exact Nat.min_eq_left a.pods.val_le_greatest
  · have hle := (a.amount kind).val_le_greatest
    rw [val_amount_add, val_amount_empty]
    omega
  · rw [scalars_add, NameTable.contains_merge, NameTable.contains_empty, Bool.or_false]

/-- The order of the parts of a maximum does not matter. -/
protected theorem max_comm (a b : Resources) : max a b = max b a := by
  refine ext_amounts ?_ (fun kind => ?_) fun name => ?_
  · simp only [pods_max, Amount.val_max, Nat.max_comm]
  · simp only [val_amount_max, Nat.max_comm]
  · simp only [scalars_max, NameTable.contains_merge, Bool.or_comm]

/-- The grouping of the parts of a maximum does not matter. -/
protected theorem max_assoc (a b c : Resources) : max (max a b) c = max a (max b c) := by
  refine ext_amounts ?_ (fun kind => ?_) fun name => ?_
  · simp only [pods_max, Amount.val_max, Nat.max_assoc]
  · simp only [val_amount_max, Nat.max_assoc]
  · simp only [scalars_max, NameTable.contains_merge, Bool.or_assoc]

/-- Resources are the greatest of themselves. -/
protected theorem max_self (a : Resources) : max a a = a := by
  refine ext_amounts ?_ (fun kind => ?_) fun name => ?_
  · simp only [pods_max, Amount.val_max, Nat.max_self]
  · simp only [val_amount_max, Nat.max_self]
  · simp only [scalars_max, NameTable.contains_merge, Bool.or_self]

/-- **Sums distribute over maxima**, also where they are cut off. -/
theorem add_max (a b c : Resources) : a + max b c = max (a + b) (a + c) := by
  refine ext_amounts ?_ (fun kind => ?_) fun name => ?_
  · simp only [pods_add, pods_max, Amount.val_add, Amount.val_max]
    omega
  · -- the greater of two sums is cut off exactly if the sum with the greater part is
    simp only [val_amount_add, val_amount_max]
    omega
  · -- what is listed on the left is listed on both sides of the maximum
    simp only [scalars_add, scalars_max, NameTable.contains_merge, Bool.or_assoc, Bool.or_left_comm,
      Bool.or_self_left]

/-- **The laws of sums and maxima.** Both sides of each are the same in every amount and in the
names that they list. -/
structure Laws (a b c : Resources) : Prop where
  /-- The order of the parts of a sum does not matter. -/
  add_comm : a + b = b + a
  /-- Nor does their grouping. -/
  add_assoc : a + b + c = a + (b + c)
  /-- Adding nothing changes nothing. -/
  add_empty : a + {} = a
  /-- Adding to nothing gives what was added. -/
  empty_add : {} + a = a
  /-- The order of the parts of a maximum does not matter. -/
  max_comm : max a b = max b a
  /-- Nor does their grouping. -/
  max_assoc : max (max a b) c = max a (max b c)
  /-- Resources are the greatest of themselves. -/
  max_self : max a a = a
  /-- Adding to a maximum is adding to both of its parts. -/
  add_max : a + max b c = max (a + b) (a + c)
  /-- So is adding a maximum. -/
  max_add : max a b + c = max (a + c) (b + c)

theorem laws (a b c : Resources) : Laws a b c where
  add_comm := Resources.add_comm a b
  add_assoc := Resources.add_assoc a b c
  add_empty := add_empty a
  empty_add := by rw [Resources.add_comm, add_empty]
  max_comm := Resources.max_comm a b
  max_assoc := Resources.max_assoc a b c
  max_self := Resources.max_self a
  add_max := add_max a b c
  max_add := by rw [Resources.add_comm, add_max, Resources.add_comm c a, Resources.add_comm c b]

/-! ## Fitting within -/

/-- What fits within resources that fit a capacity fits the capacity. -/
theorem fitsWithin_trans (hab : a.fitsWithin b) (hbc : b.fitsWithin c) : a.fitsWithin c := by
  rw [fitsWithin_iff_amounts] at *
  exact fun kind => Nat.le_trans (hab kind) (hbc kind)

/-- A part fits within the sum, even if the sum is cut off. -/
theorem fitsWithin_add (a b : Resources) : a.fitsWithin (a + b) := by
  rw [fitsWithin_iff_amounts]
  intro kind
  have hle := (a.amount kind).val_le_greatest
  rw [val_amount_add]
  omega

/-- What is left fits within what there was. -/
theorem sub_fitsWithin (a b : Resources) : (a - b).fitsWithin a := by
  rw [fitsWithin_iff_amounts]
  intro kind
  rw [val_amount_sub]
  exact Nat.sub_le ..

/-! ## What pods request together -/

/-- **Resources are the total of what pods request**: the exact sum of each resource, cut off at the
greatest amount, and the number of pods as pod slots. -/
structure IsTotalOf (r : Resources) (pods : List Pod) : Prop where
  /-- The processor time. -/
  cpu : r.cpuMillis.val = min (pods.map fun p => p.requests.cpuMillis.val).sum Amount.greatest
  /-- The memory. -/
  memory : r.memoryBytes.val =
    min (pods.map fun p => p.requests.memoryBytes.val).sum Amount.greatest
  /-- The pod slots. -/
  slots : r.pods.val = min pods.length Amount.greatest
  /-- Every other resource. A pod that does not list it requests nothing of it. -/
  named : ∀ name, (r.scalar name).val =
    min (pods.map fun p => (p.requests.scalar name).val).sum Amount.greatest
  /-- Listed is what some pod lists, even with zero. -/
  listed : ∀ name, r.scalars.contains name ↔ ∃ p ∈ pods, p.requests.scalars.contains name

/-- Pods have one total. -/
theorem IsTotalOf.unique (ha : a.IsTotalOf pods) (hb : b.IsTotalOf pods) : a = b := by
  refine ext_amounts (ha.slots.trans hb.slots.symm) (fun kind => ?_) fun name => ?_
  · cases kind with
    | cpu => exact ha.cpu.trans hb.cpu.symm
    | memory => exact ha.memory.trans hb.memory.symm
    | named name => exact (ha.named name).trans (hb.named name).symm
  · rw [Bool.eq_iff_iff]
    exact (ha.listed name).trans (hb.listed name).symm

/-- What the pods on a node request together is their total. -/
theorem isTotalOf_requested (l : NodeLoad) : l.requested.IsTotalOf l.pods where
  cpu := val_amount_sumOf Pod.requests l.pods .cpu
  memory := val_amount_sumOf Pod.requests l.pods .memory
  slots := rfl
  named name := val_amount_sumOf Pod.requests l.pods (.named name)
  listed := contains_sumOf Pod.requests l.pods

/-- **What pods request together is determined by the exact sums.** -/
theorem requested_eq_iff (l : NodeLoad) : l.requested = r ↔ r.IsTotalOf l.pods := by
  constructor
  · rintro rfl
    exact isTotalOf_requested l
  · exact (isTotalOf_requested l).unique

/-- **Resources add up like numbers that stop at the greatest one.** Sums and maxima obey their
laws, also in the names that they list. Fitting is asked for each resource alone, so it is
transitive, and what does not fit does not fit with more added or with less room either. What the
pods on a node request together is the exact sum of each resource, cut off once, with the number of
pods as pod slots, in whatever order the pods are counted. -/
theorem sums_lawful (a b c : Resources) (l : NodeLoad) :
    Laws a b c ∧ (a.fitsWithin c ↔ ∀ kind, (a.amount kind).val ≤ (c.amount kind).val) ∧
      (a.fitsWithin b → b.fitsWithin c → a.fitsWithin c) ∧
      (¬ a.fitsWithin c → ¬ (a + b).fitsWithin c ∧ ¬ a.fitsWithin (c - b) ∧
        ∀ less : Resources, (∀ kind, (less.amount kind).val ≤ (c.amount kind).val) →
          ¬ a.fitsWithin less) ∧
      (∀ r, l.requested = r ↔ r.IsTotalOf l.pods) ∧
      (l.pods.length ≤ Amount.greatest → l.requested.pods.val = l.pods.length) ∧
      ∀ other : NodeLoad, other.pods.Perm l.pods → other.requested = l.requested := by
  refine ⟨laws a b c, fitsWithin_iff_amounts, fitsWithin_trans,
    fun hnot => ⟨?_, ?_, fun less hless => ?_⟩, fun _ => requested_eq_iff l, fun hcount => ?_,
    fun other hperm => NodeLoad.requested_perm hperm⟩
  · exact fun hsum => hnot (fitsWithin_trans (fitsWithin_add a b) hsum)
  · exact fun hleft => hnot (fitsWithin_trans hleft (sub_fitsWithin c b))
  · exact fun hfits => hnot (fitsWithin_trans hfits (fitsWithin_iff_amounts.2 hless))
  · rw [(isTotalOf_requested l).slots]
    exact Nat.min_eq_left hcount

/-- A pod of some name that requests some resources. -/
def requesting (name : String) (requests : Resources) : Pod where
  ns := "default"
  name := name
  requests := requests

/-- What a renderer requests fits within what a trainer requests, and this within a request for all
the processor time that can be counted, which does not fit back. A pod with that request and a
renderer request the greatest amount of processor time together, and three graphics processors. The
license is listed although none is requested. -/
theorem sums_lawful_trainers :
    let renderer : Resources :=
  { cpuMillis := 500, scalars := .ofList [("license", 0), ("nvidia.com/gpu", 1)] }
    let trainer : Resources :=
      { cpuMillis := 1000, memoryBytes := 64, scalars := .ofList [("nvidia.com/gpu", 1)] }
    let greedy : Resources := { cpuMillis := .ofNat Amount.greatest, memoryBytes := 64,
                                scalars := .ofList [("nvidia.com/gpu", 2)] }
    let l : NodeLoad := ⟨{ name := "worker" }, [requesting "a" greedy, requesting "b" renderer]⟩
    (renderer.fitsWithin trainer ∧ trainer.fitsWithin greedy ∧ renderer.fitsWithin greedy) ∧
      (¬ greedy.fitsWithin trainer ∧ ¬ (greedy + renderer).fitsWithin trainer ∧
        ¬ greedy.fitsWithin (trainer - renderer) ∧ ¬ greedy.fitsWithin renderer) ∧
      l.requested.pods.val = 2 ∧ l.requested.cpuMillis.val = Amount.greatest ∧
      (l.requested.scalar "nvidia.com/gpu").val = 3 ∧ l.requested.scalars.contains "license" ∧
      NodeLoad.requested ⟨l.node, l.pods.reverse⟩ = l.requested := by
  intro renderer trainer greedy l
  have hrenderer : renderer.fitsWithin trainer := by decide +kernel
  have htrainer : trainer.fitsWithin greedy := by decide +kernel
  have hgreedy : ¬ greedy.fitsWithin trainer := by decide +kernel
  obtain ⟨-, -, htrans, -, -, -, -⟩ := sums_lawful renderer trainer greedy l
  obtain ⟨-, -, -, hnot, htotal, hslots, hperm⟩ := sums_lawful greedy renderer trainer l
  obtain ⟨hmore, hleft, hless⟩ := hnot hgreedy
  have hsums := (htotal _).1 rfl
  refine ⟨⟨hrenderer, htrainer, htrans hrenderer htrainer⟩,
    ⟨hgreedy, hmore, hleft, hless renderer (fitsWithin_iff_amounts.1 hrenderer)⟩, ?_, ?_,
    ?_, ?_, ?_⟩
  · exact hslots (by decide)
  · rw [hsums.cpu]
    decide
  · rw [hsums.named]
    decide +kernel
  · rw [hsums.listed]
    exact ⟨_, List.mem_cons_of_mem _ (List.mem_singleton_self _), by decide +kernel⟩
  · exact hperm _ (List.reverse_perm l.pods)

end Resources

end SpotRebalance
