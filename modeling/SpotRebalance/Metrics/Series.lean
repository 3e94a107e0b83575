/-! # Series

**Series** assign one value to each of finitely many keys, in the order in which the keys first
appeared. They are described by their look-ups: `get?_update` says what an update does to every key,
and `keys_update` that it adds its key if it was missing. -/

namespace SpotRebalance

universe u v

/-- Values by key, each key once, in order of first appearance. -/
structure Series (κ : Type u) (ν : Type v) where
  /-- The keys and their values. -/
  entries : List (κ × ν)
  /-- No key appears twice. -/
  distinct : (entries.map (·.1)).Nodup

namespace Series

variable {κ : Type u} {ν : Type v}

/-- No values at all. -/
def empty : Series κ ν := ⟨[], List.nodup_nil⟩

instance : EmptyCollection (Series κ ν) := ⟨empty⟩

instance : Inhabited (Series κ ν) := ⟨empty⟩

/-- The keys that have a value. -/
def keys (s : Series κ ν) : List κ := s.entries.map (·.1)

variable [DecidableEq κ]

/-- The value of a key in a list of entries. -/
def find? (key : κ) : List (κ × ν) → Option ν
  | [] => none
  | (other, value) :: rest => if other = key then some value else find? key rest

/-- The value of a key. -/
def get? (s : Series κ ν) (key : κ) : Option ν := find? key s.entries

/-- Puts `change` of its value in place of the value of a key. -/
def updateEntry (key : κ) (change : Option ν → ν) : List (κ × ν) → List (κ × ν)
  | [] => [(key, change none)]
  | (other, value) :: rest =>
    if other = key then (other, change (some value)) :: rest
    else (other, value) :: updateEntry key change rest

theorem map_fst_updateEntry (key : κ) (change : Option ν → ν) (entries : List (κ × ν)) :
    (updateEntry key change entries).map (·.1) =
      if key ∈ entries.map (·.1) then entries.map (·.1) else entries.map (·.1) ++ [key] := by
  induction entries with
  | nil => simp [updateEntry]
  | cons entry rest ih =>
    obtain ⟨other, value⟩ := entry
    by_cases h : other = key
    · simp [updateEntry, h]
    · have h' : ¬ key = other := fun heq => h heq.symm
      simp only [updateEntry, h, if_false, List.map_cons, ih, List.mem_cons, h', false_or]
      split <;> simp

theorem nodup_updateEntry (key : κ) (change : Option ν → ν) {entries : List (κ × ν)}
    (h : (entries.map (·.1)).Nodup) : ((updateEntry key change entries).map (·.1)).Nodup := by
  rw [map_fst_updateEntry]
  split
  · exact h
  · rename_i hnot
    refine List.nodup_append.2 ⟨h, by simp, fun a ha b hb => ?_⟩
    rintro rfl
    exact hnot (List.mem_singleton.1 hb ▸ ha)

/-- Puts `change` of its value in place of the value of a key. -/
def update (s : Series κ ν) (key : κ) (change : Option ν → ν) : Series κ ν :=
  ⟨updateEntry key change s.entries, nodup_updateEntry key change s.distinct⟩

/-- Gives a key a value. -/
def set (s : Series κ ν) (key : κ) (value : ν) : Series κ ν := s.update key fun _ => value

/-- Gives a key a value if it has none. -/
def ensure (s : Series κ ν) (key : κ) (value : ν) : Series κ ν := s.update key (·.getD value)

theorem find?_updateEntry (key query : κ) (change : Option ν → ν) (entries : List (κ × ν)) :
    find? query (updateEntry key change entries) =
      if query = key then some (change (find? key entries)) else find? query entries := by
  induction entries with
  | nil =>
    by_cases h : query = key
    · simp [updateEntry, find?, h]
    · have h' : ¬ key = query := fun heq => h heq.symm
      simp [updateEntry, find?, h, h']
  | cons entry rest ih =>
    obtain ⟨other, value⟩ := entry
    by_cases hk : other = key
    · subst hk
      by_cases hq : query = other
      · simp [updateEntry, find?, hq]
      · have h' : ¬ other = query := fun heq => hq heq.symm
        simp [updateEntry, find?, hq, h']
    · simp only [updateEntry, hk, if_false, find?, ih]
      by_cases hq : other = query
      · subst hq
        simp [hk]
      · simp [hq]

@[simp] theorem get?_empty (key : κ) : (∅ : Series κ ν).get? key = none := rfl

@[simp] theorem get?_update (s : Series κ ν) (key query : κ) (change : Option ν → ν) :
    (s.update key change).get? query =
      if query = key then some (change (s.get? key)) else s.get? query :=
  find?_updateEntry key query change s.entries

@[simp] theorem get?_set (s : Series κ ν) (key query : κ) (value : ν) :
    (s.set key value).get? query = if query = key then some value else s.get? query := by
  simp [set]

@[simp] theorem keys_update (s : Series κ ν) (key : κ) (change : Option ν → ν) :
    (s.update key change).keys = if key ∈ s.keys then s.keys else s.keys ++ [key] :=
  map_fst_updateEntry key change s.entries

end Series

end SpotRebalance
