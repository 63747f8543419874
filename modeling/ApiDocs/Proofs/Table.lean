import ApiDocs.Table

namespace ApiDocs.Table

/-! Tables that lists of values fill.  Names stay where they first came, and the last value
of a name counts. -/

variable {α : Type}

def insertAll (table : Table α) (pairs : List (String × α)) : Table α :=
  pairs.foldl (fun filled pair => filled.insert pair.1 pair.2) table

@[simp] theorem insertAll_nil (table : Table α) : table.insertAll [] = table := rfl

@[simp] theorem insertAll_cons (table : Table α) (pair : String × α)
    (rest : List (String × α)) :
    table.insertAll (pair :: rest) = (table.insert pair.1 pair.2).insertAll rest := rfl

theorem insertAll_append (table : Table α) (first second : List (String × α)) :
    table.insertAll (first ++ second) = (table.insertAll first).insertAll second :=
  List.foldl_append

theorem eraseDups_of_nodup {names : List String} (h : names.Nodup) :
    names.eraseDups = names := by
  induction names with
  | nil => rfl
  | cons name rest ih =>
      obtain ⟨hname, hrest⟩ := List.nodup_cons.mp h
      have hfilter : rest.filter (fun other => !other == name) = rest := by
        rw [List.filter_eq_self]
        intro other hmem
        simpa using fun heq : other = name => hname (heq ▸ hmem)
      rw [List.eraseDups_cons, hfilter, ih hrest]

theorem keys_insertAll (table : Table α) (pairs : List (String × α)) :
    (table.insertAll pairs).keys = (table.keys ++ pairs.map Prod.fst).eraseDups := by
  induction pairs generalizing table with
  | nil =>
      rw [insertAll_nil, List.map_nil, List.append_nil]
      exact (eraseDups_of_nodup table.nodup).symm
  | cons pair rest ih =>
      rw [insertAll_cons, ih, keys_insert, List.map_cons]
      split
      · next hmem =>
          have hremoved : (pair.1 :: rest.map Prod.fst).removeAll table.keys =
              (rest.map Prod.fst).removeAll table.keys := by
            rw [List.cons_removeAll]
            simp [hmem]
          rw [List.eraseDups_append, List.eraseDups_append, hremoved]
      · rw [List.append_assoc, List.singleton_append]

theorem get?_insertAll (table : Table α) (pairs : List (String × α)) (name : String) :
    (table.insertAll pairs).get? name =
      ((pairs.reverse.find? fun pair => pair.1 = name).map Prod.snd).or (table.get? name) := by
  induction pairs generalizing table with
  | nil => rfl
  | cons pair rest ih =>
      rw [insertAll_cons, ih, get?_insert, List.reverse_cons, List.find?_append, Option.map_or,
        Option.or_assoc]
      by_cases h : pair.1 = name
      · simp [h]
      · have hother : ¬ name = pair.1 := fun heq => h heq.symm
        simp [h, hother]

theorem size_eq_length_keys (table : Table α) : table.size = table.keys.length :=
  (List.length_map _).symm

theorem size_insert (table : Table α) (name : String) (value : α) :
    (table.insert name value).size =
      if table.contains name then table.size else table.size + 1 := by
  rw [size_eq_length_keys, size_eq_length_keys, keys_insert]
  simp only [mem_keys_iff]
  split
  · rfl
  · rw [List.length_append, List.length_singleton]

def mapValues {β : Type} (f : α → β) (table : Table α) : Table β where
  entries := table.entries.map fun entry => (entry.1, f entry.2)
  nodup := by
    rw [List.map_map]
    exact table.nodup

theorem get?_mapValues {β : Type} (f : α → β) (table : Table α) (name : String) :
    (table.mapValues f).get? name = (table.get? name).map f := by
  obtain ⟨entries, nodup⟩ := table
  change (entries.map fun entry => (entry.1, f entry.2)).lookup name =
    (entries.lookup name).map f
  clear nodup
  induction entries with
  | nil => rfl
  | cons entry rest ih =>
      rw [List.map_cons, List.lookup_cons, List.lookup_cons, ih]
      cases name == entry.1 <;> rfl

/-- Two tables in one: the names of the first come before the new names of the second, and
the values of the second count. -/
structure RightBiased (first second merged : Table α) : Prop where
  keys : merged.keys = first.keys ++ second.keys.filter fun name => name ∉ first.keys
  get? : ∀ name, merged.get? name = (second.get? name).or (first.get? name)

namespace RightBiased

theorem empty_right (table : Table α) : RightBiased table empty table where
  keys := (List.append_nil table.keys).symm
  get? := fun _ => rfl

theorem mem_keys_iff {first second merged : Table α} (h : RightBiased first second merged)
    (name : String) : name ∈ merged.keys ↔ name ∈ first.keys ∨ name ∈ second.keys := by
  rw [h.keys, List.mem_append, List.mem_filter, decide_eq_true_eq]
  by_cases hfirst : name ∈ first.keys <;> simp [hfirst]

theorem insert {first second merged : Table α} (h : RightBiased first second merged)
    (name : String) (value : α) :
    RightBiased first (second.insert name value) (merged.insert name value) where
  keys := by
    rw [keys_insert, keys_insert]
    by_cases hsecond : name ∈ second.keys
    · rw [if_pos hsecond, if_pos ((h.mem_keys_iff name).mpr (.inr hsecond)), h.keys]
    · rw [if_neg hsecond, List.filter_append, ← List.append_assoc, ← h.keys]
      by_cases hfirst : name ∈ first.keys
      · rw [if_pos ((h.mem_keys_iff name).mpr (.inl hfirst))]
        simp [hfirst]
      · have hmerged : name ∉ merged.keys := by
          rw [h.mem_keys_iff]
          exact not_or.mpr ⟨hfirst, hsecond⟩
        rw [if_neg hmerged]
        simp [hfirst]
  get? := by
    intro other
    rw [get?_insert, get?_insert, h.get?]
    by_cases hname : other = name <;> simp [hname]

theorem insertAll {first second merged : Table α} (h : RightBiased first second merged)
    (pairs : List (String × α)) :
    RightBiased first (second.insertAll pairs) (merged.insertAll pairs) := by
  induction pairs generalizing second merged with
  | nil => exact h
  | cons pair rest ih => exact ih (h.insert pair.1 pair.2)

end RightBiased

theorem rightBiased_insertAll_append (first second : List (String × α)) :
    RightBiased (empty.insertAll first) (empty.insertAll second)
      (empty.insertAll (first ++ second)) := by
  rw [insertAll_append]
  exact (RightBiased.empty_right (empty.insertAll first)).insertAll second

end ApiDocs.Table
