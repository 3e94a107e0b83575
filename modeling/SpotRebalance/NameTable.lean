/-! # Name tables

A **name table** assigns values to finitely many names: the labels of an object, the amounts of its
scalar resources. Its entries are stored in strictly increasing name order, so a table is determined
by its look-ups (`NameTable.ext_get?`) and lists its names the same way however it was built.

The operations are described by their look-ups: `get?_insertWith`, `get?_map`,
`get?_filterMap`, `get?_merge`. -/

namespace SpotRebalance

universe u v

/-- A finite table from names to values, its entries in strictly increasing name order. -/
structure NameTable (α : Type u) where
  /-- The entries, each name once. -/
  entries : List (String × α)
  /-- Names increase strictly. -/
  ordered : entries.Pairwise (fun x y => x.1 < y.1)
  deriving DecidableEq

namespace NameTable

variable {α : Type u} {β : Type v}

/-- The table without entries. -/
def empty : NameTable α := ⟨[], List.Pairwise.nil⟩

instance : EmptyCollection (NameTable α) := ⟨empty⟩

instance : Inhabited (NameTable α) := ⟨empty⟩

/-- The value of a name, if it has one. -/
def get? (t : NameTable α) (name : String) : Option α := t.entries.lookup name

/-- Whether a name has a value. -/
def contains (t : NameTable α) (name : String) : Bool := (t.get? name).isSome

/-- Whether the table has no entries. -/
def isEmpty (t : NameTable α) : Bool := t.entries.isEmpty

/-- The names with a value, in increasing order. -/
def names (t : NameTable α) : List String := t.entries.map (·.1)

/-! ## Look-ups of ordered entries -/

/-- Of two names, one comes first or they are the same. -/
theorem lt_of_not_lt_of_ne {a b : String} (h : ¬ a < b) (hne : a ≠ b) : b < a :=
  Decidable.byContradiction fun h' => hne (String.le_antisymm h' h)

/-- A look-up tries the first entry and then the rest. -/
theorem lookup_cons_eq (name other : String) (value : α) (rest : List (String × α)) :
    List.lookup name ((other, value) :: rest) =
      if name = other then some value else rest.lookup name := by
  by_cases h : name = other
  · simp [h]
  · have h' : (name == other) = false := by simpa using h
    simp [List.lookup_cons, h, h']

/-- A name below all entries has no value. -/
theorem lookup_eq_none_of_lt {name : String} :
    ∀ {entries : List (String × α)}, (∀ e ∈ entries, name < e.1) → entries.lookup name = none
  | [], _ => rfl
  | (other, _) :: rest, h => by
    have hlt : name < other := h (other, _) List.mem_cons_self
    have hne : name ≠ other := by
      rintro rfl
      exact String.lt_irrefl _ hlt
    rw [lookup_cons_eq, if_neg hne]
    exact lookup_eq_none_of_lt fun e he => h e (List.mem_cons_of_mem _ he)

/-- A value found under a name stands in an entry of that name. -/
theorem mem_of_lookup_eq_some {name : String} {value : α} :
    ∀ {entries : List (String × α)}, entries.lookup name = some value → (name, value) ∈ entries
  | [], h => by simp at h
  | (other, old) :: rest, h => by
    rw [lookup_cons_eq] at h
    split at h
    · rename_i heq
      exact heq ▸ Option.some.inj h ▸ List.mem_cons_self
    · exact List.mem_cons_of_mem _ (mem_of_lookup_eq_some h)

/-- In ordered entries every entry is found under its name. -/
theorem lookup_eq_some_of_mem {name : String} {value : α} :
    ∀ {entries : List (String × α)}, entries.Pairwise (fun x y => x.1 < y.1) →
      (name, value) ∈ entries → entries.lookup name = some value
  | [], _, h => by simp at h
  | (other, old) :: rest, hord, h => by
    rcases List.mem_cons.1 h with heq | hmem
    · obtain ⟨rfl, rfl⟩ := Prod.mk.injEq .. ▸ heq
      simp
    · have hlt : other < name := (List.pairwise_cons.1 hord).1 _ hmem
      have hne : name ≠ other := by
        rintro rfl
        exact String.lt_irrefl _ hlt
      rw [lookup_cons_eq, if_neg hne]
      exact lookup_eq_some_of_mem (List.pairwise_cons.1 hord).2 hmem

/-- A table holds an entry exactly if it answers its name with its value. -/
theorem mem_entries_iff {t : NameTable α} {name : String} {value : α} :
    (name, value) ∈ t.entries ↔ t.get? name = some value :=
  ⟨lookup_eq_some_of_mem t.ordered, mem_of_lookup_eq_some⟩

@[simp] theorem get?_empty (name : String) : (empty : NameTable α).get? name = none := rfl

/-! ## Building and combining tables -/

/-- Puts a value under a name; where the name has one, `combine old new` takes its place. -/
def insertEntry (combine : α → α → α) (name : String) (value : α) :
    List (String × α) → List (String × α)
  | [] => [(name, value)]
  | (other, old) :: rest =>
    if name < other then (name, value) :: (other, old) :: rest
    else if name = other then (other, combine old value) :: rest
    else (other, old) :: insertEntry combine name value rest

theorem mem_insertEntry {combine : α → α → α} {name : String} {value : α} {e : String × α} :
    ∀ {entries : List (String × α)}, e ∈ insertEntry combine name value entries →
      e.1 = name ∨ e ∈ entries
  | [], h => by
    simp only [insertEntry, List.mem_singleton] at h
    exact Or.inl (h ▸ rfl)
  | (other, old) :: rest, h => by
    simp only [insertEntry] at h
    split at h
    · rcases List.mem_cons.1 h with rfl | h
      · exact Or.inl rfl
      · exact Or.inr h
    · split at h
      · rename_i heq
        rcases List.mem_cons.1 h with rfl | h
        · exact Or.inl heq.symm
        · exact Or.inr (List.mem_cons_of_mem _ h)
      · rcases List.mem_cons.1 h with rfl | h
        · exact Or.inr List.mem_cons_self
        · exact (mem_insertEntry h).imp_right (List.mem_cons_of_mem _)

theorem ordered_insertEntry (combine : α → α → α) (name : String) (value : α) :
    ∀ {entries : List (String × α)}, entries.Pairwise (fun x y => x.1 < y.1) →
      (insertEntry combine name value entries).Pairwise (fun x y => x.1 < y.1)
  | [], _ => by simp [insertEntry]
  | (other, old) :: rest, h => by
    have hrest := List.pairwise_cons.1 h
    simp only [insertEntry]
    split
    · rename_i hlt
      refine List.pairwise_cons.2 ⟨fun e he => ?_, h⟩
      rcases List.mem_cons.1 he with rfl | he
      · exact hlt
      · exact String.lt_trans hlt (hrest.1 e he)
    · split
      · exact List.pairwise_cons.2 ⟨hrest.1, hrest.2⟩
      · rename_i hlt hne
        refine List.pairwise_cons.2 ⟨fun e he => ?_, ordered_insertEntry combine name value hrest.2⟩
        rcases mem_insertEntry he with heq | he
        · exact heq ▸ lt_of_not_lt_of_ne hlt hne
        · exact hrest.1 e he

theorem lookup_insertEntry (combine : α → α → α) (name : String) (value : α) (query : String) :
    ∀ {entries : List (String × α)}, entries.Pairwise (fun x y => x.1 < y.1) →
      (insertEntry combine name value entries).lookup query =
        if query = name then some ((entries.lookup name).elim value (combine · value))
        else entries.lookup query
  | [], _ => by simp [insertEntry, lookup_cons_eq]
  | (other, old) :: rest, h => by
    have hrest := List.pairwise_cons.1 h
    simp only [insertEntry]
    split
    · rename_i hlt
      have hnone : List.lookup name ((other, old) :: rest) = none := by
        apply lookup_eq_none_of_lt
        intro e he
        rcases List.mem_cons.1 he with rfl | he
        · exact hlt
        · exact String.lt_trans hlt (hrest.1 e he)
      rw [hnone]
      simp [lookup_cons_eq]
    · split
      · rename_i heq
        subst heq
        by_cases hq : query = name <;> simp [lookup_cons_eq, hq]
      · rename_i hne
        have ih := lookup_insertEntry combine name value query hrest.2
        simp only [lookup_cons_eq, ih, if_neg hne]
        by_cases hq : query = other
        · have hqn : ¬ query = name := fun heq => hne (heq ▸ hq)
          rw [if_pos hq, if_neg hqn, if_pos hq]
        · simp [hq]

/-- Puts a value under a name; where the name has one, `combine old new` takes its place. -/
def insertWith (t : NameTable α) (combine : α → α → α) (name : String) (value : α) : NameTable α :=
  ⟨insertEntry combine name value t.entries, ordered_insertEntry combine name value t.ordered⟩

/-- Puts a value under a name, replacing the one it has. -/
def insert (t : NameTable α) (name : String) (value : α) : NameTable α :=
  t.insertWith (fun _ new => new) name value

/-- The table of a list of entries; of two entries with one name the later counts. -/
def ofList (entries : List (String × α)) : NameTable α :=
  entries.foldl (fun t e => t.insert e.1 e.2) empty

/-- The table with `f name value` in place of each value. -/
def map (f : String → α → β) (t : NameTable α) : NameTable β where
  entries := t.entries.map fun e => (e.1, f e.1 e.2)
  ordered := List.pairwise_map.2 t.ordered

/-- The table of the names of both tables; a name of both has the combined value. -/
def merge (combine : α → α → α) (t u : NameTable α) : NameTable α :=
  u.entries.foldl (fun acc e => acc.insertWith combine e.1 e.2) t

@[simp] theorem get?_insertWith (t : NameTable α) (combine : α → α → α) (name : String) (value : α)
    (query : String) :
    (t.insertWith combine name value).get? query =
      if query = name then some ((t.get? name).elim value (combine · value)) else t.get? query :=
  lookup_insertEntry combine name value query t.ordered

@[simp] theorem get?_insert (t : NameTable α) (name : String) (value : α) (query : String) :
    (t.insert name value).get? query = if query = name then some value else t.get? query := by
  simp only [insert, get?_insertWith]
  cases t.get? name <;> rfl

@[simp] theorem get?_map (f : String → α → β) (t : NameTable α) (name : String) :
    (t.map f).get? name = (t.get? name).map (f name) := by
  simp only [get?, map]
  induction t.entries with
  | nil => rfl
  | cons e rest ih =>
    rw [List.map_cons, lookup_cons_eq, ih]
    obtain ⟨other, old⟩ := e
    rw [lookup_cons_eq]
    by_cases h : name = other <;> simp [h]

/-- The values of the names for which `f` gives one. -/
def filterMap (f : String → α → Option β) (t : NameTable α) : NameTable β where
  entries := t.entries.filterMap fun e => (f e.1 e.2).map fun value => (e.1, value)
  ordered := by
    refine List.Pairwise.filterMap _ (fun x y hxy => ?_) t.ordered
    intro x' hx y' hy
    obtain ⟨_, _, rfl⟩ := Option.map_eq_some_iff.1 hx
    obtain ⟨_, _, rfl⟩ := Option.map_eq_some_iff.1 hy
    exact hxy

theorem lookup_filterMap (f : String → α → Option β) (name : String) :
    ∀ {entries : List (String × α)}, entries.Pairwise (fun x y => x.1 < y.1) →
      (entries.filterMap fun e => (f e.1 e.2).map fun value => (e.1, value)).lookup name =
        (entries.lookup name).bind (f name)
  | [], _ => rfl
  | (other, old) :: rest, h => by
    have hrest := List.pairwise_cons.1 h
    have ih := lookup_filterMap f name hrest.2
    rw [lookup_cons_eq]
    by_cases hq : name = other
    · subst hq
      have hnone : rest.lookup name = none := lookup_eq_none_of_lt hrest.1
      rw [hnone] at ih
      cases hf : f name old with
      | none => simpa [List.filterMap_cons, hf] using ih
        | some value => simp [hf]
    · cases hf : f other old with
      | none => simpa [List.filterMap_cons, hf, hq] using ih
      | some value => simpa [List.filterMap_cons, hf, hq, lookup_cons_eq] using ih

@[simp] theorem get?_filterMap (f : String → α → Option β) (t : NameTable α) (name : String) :
    (t.filterMap f).get? name = (t.get? name).bind (f name) :=
  lookup_filterMap f name t.ordered

/-- The combination of two optional values: the one there is, or both combined. -/
def combineOption (combine : α → α → α) : Option α → Option α → Option α
  | some a, some b => some (combine a b)
  | some a, none => some a
  | none, b => b

theorem get?_foldl_insertWith (combine : α → α → α) (query : String) :
    ∀ (entries : List (String × α)) (t : NameTable α),
      entries.Pairwise (fun x y => x.1 < y.1) →
      (entries.foldl (fun acc e => acc.insertWith combine e.1 e.2) t).get? query =
        combineOption combine (t.get? query) (entries.lookup query)
  | [], t, _ => by cases h : t.get? query <;> simp [combineOption, h]
  | (name, value) :: rest, t, hord => by
    have hrest := List.pairwise_cons.1 hord
    rw [List.foldl_cons, get?_foldl_insertWith combine query rest _ hrest.2]
    rw [get?_insertWith, lookup_cons_eq]
    by_cases hq : query = name
    · subst hq
      have hnone : rest.lookup query = none := lookup_eq_none_of_lt hrest.1
      rw [hnone]
      cases h : t.get? query <;> simp [combineOption]
    · simp [hq]

@[simp] theorem get?_merge (combine : α → α → α) (t u : NameTable α) (name : String) :
    (t.merge combine u).get? name = combineOption combine (t.get? name) (u.get? name) :=
  get?_foldl_insertWith combine name u.entries t u.ordered

/-- Two ordered entry lists with the same members are the same list. -/
theorem eq_of_mem_iff : ∀ {xs ys : List (String × α)},
    xs.Pairwise (fun x y => x.1 < y.1) → ys.Pairwise (fun x y => x.1 < y.1) →
    (∀ e, e ∈ xs ↔ e ∈ ys) → xs = ys
  | [], [], _, _, _ => rfl
  | [], y :: ys, _, _, h => by simpa using (h y).2 List.mem_cons_self
  | x :: xs, [], _, _, h => by simpa using (h x).1 List.mem_cons_self
  | x :: xs, y :: ys, hx, hy, h => by
    have hx' := List.pairwise_cons.1 hx
    have hy' := List.pairwise_cons.1 hy
    have hxy : x = y := by
      rcases List.mem_cons.1 ((h x).1 List.mem_cons_self) with heq | hmem
      · exact heq
      · rcases List.mem_cons.1 ((h y).2 List.mem_cons_self) with heq | hmem'
        · exact heq.symm
        · exact absurd (hx'.1 y hmem') (String.lt_asymm (hy'.1 x hmem))
    subst hxy
    have hnot : ∀ {zs : List (String × α)}, (∀ e ∈ zs, x.1 < e.1) → x ∉ zs :=
      fun hz hmem => String.lt_irrefl _ (hz x hmem)
    rw [eq_of_mem_iff hx'.2 hy'.2 fun e => ?_]
    constructor
    · intro he
      rcases List.mem_cons.1 ((h e).1 (List.mem_cons_of_mem _ he)) with rfl | he'
      · exact absurd he (hnot hx'.1)
      · exact he'
    · intro he
      rcases List.mem_cons.1 ((h e).2 (List.mem_cons_of_mem _ he)) with rfl | he'
      · exact absurd he (hnot hy'.1)
      · exact he'

/-- A table is determined by its look-ups. -/
theorem ext_get? {t u : NameTable α} (h : ∀ name, t.get? name = u.get? name) : t = u := by
  have : t.entries = u.entries := eq_of_mem_iff t.ordered u.ordered fun e => by
    rw [@mem_entries_iff _ t e.1 e.2, mem_entries_iff, h]
  cases t; cases u; simp_all

end NameTable

end SpotRebalance
