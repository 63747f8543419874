namespace ApiDocs

/-! Tables: values by name, each name once, in the order in which the names first came. -/

/-- Values by name, in the order in which the names first came. -/
structure Table (α : Type) where
  entries : List (String × α)
  nodup : (entries.map Prod.fst).Nodup

namespace Table

variable {α : Type}

def empty : Table α := ⟨[], List.nodup_nil⟩

instance : Inhabited (Table α) := ⟨empty⟩

def keys (table : Table α) : List String :=
  table.entries.map Prod.fst

def values (table : Table α) : List α :=
  table.entries.map Prod.snd

def size (table : Table α) : Nat :=
  table.entries.length

def get? (table : Table α) (name : String) : Option α :=
  table.entries.lookup name

def contains (table : Table α) (name : String) : Bool :=
  (table.get? name).isSome

def put (name : String) (value : α) : List (String × α) → List (String × α)
  | [] => [(name, value)]
  | entry :: rest =>
      if entry.1 = name then (name, value) :: rest else entry :: put name value rest

theorem keys_put (name : String) (value : α) (entries : List (String × α)) :
    (put name value entries).map Prod.fst =
      if name ∈ entries.map Prod.fst then entries.map Prod.fst
      else entries.map Prod.fst ++ [name] := by
  induction entries with
  | nil => simp [put]
  | cons entry rest ih =>
      by_cases h : entry.1 = name
      · simp [put, h]
      · have hne : name ≠ entry.1 := fun heq => h heq.symm
        rw [put, if_neg h, List.map_cons, ih]
        by_cases hmem : name ∈ rest.map Prod.fst
        · simp [hmem]
        · simp [hmem, hne]

def insert (table : Table α) (name : String) (value : α) : Table α where
  entries := put name value table.entries
  nodup := by
    rw [keys_put]
    split
    · exact table.nodup
    · next h =>
        rw [List.nodup_append]
        refine ⟨table.nodup, by simp, ?_⟩
        intro left hleft right hright heq
        simp only [List.mem_singleton] at hright
        exact h (hright ▸ heq ▸ hleft)

theorem keys_insert (table : Table α) (name : String) (value : α) :
    (table.insert name value).keys =
      if name ∈ table.keys then table.keys else table.keys ++ [name] :=
  keys_put name value table.entries

theorem lookup_put (name other : String) (value : α) (entries : List (String × α)) :
    (put name value entries).lookup other =
      if other = name then some value else entries.lookup other := by
  induction entries with
  | nil =>
      by_cases h : other = name
      · simp [put, h]
      · have hne : (other == name) = false := by simpa using h
        simp [put, List.lookup_cons, hne, h]
  | cons entry rest ih =>
      obtain ⟨key, stored⟩ := entry
      by_cases hkey : key = name
      · subst hkey
        by_cases h : other = key
        · simp [put, h]
        · have hne : (other == key) = false := by simpa using h
          simp [put, List.lookup_cons, hne, h]
      · simp only [put, hkey, if_false, List.lookup_cons, ih]
        by_cases h : other = name
        · subst h
          have hne : (other == key) = false := by simpa using fun heq => hkey heq.symm
          simp [hne]
        · simp [h]

theorem get?_insert (table : Table α) (name other : String) (value : α) :
    (table.insert name value).get? other =
      if other = name then some value else table.get? other :=
  lookup_put name other value table.entries

theorem mem_keys_iff (table : Table α) (name : String) :
    name ∈ table.keys ↔ table.contains name = true := by
  rw [contains, get?, keys]
  induction table.entries with
  | nil => simp
  | cons entry rest ih =>
      obtain ⟨key, value⟩ := entry
      by_cases h : name = key
      · simp [h]
      · have hne : (name == key) = false := by simpa using h
        rw [List.lookup_cons, hne, List.map_cons, List.mem_cons]
        simp only [h, false_or]
        exact ih

end Table

end ApiDocs
