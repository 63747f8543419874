import ApiDocs.Text.Split

namespace ApiDocs.Name

/-! Dotted names. -/

/-- The parts of a dotted name; there is always at least one. -/
def segments (name : String) : List String :=
  Text.split '.' name

def ofSegments (parts : List String) : String :=
  ".".intercalate parts

def stripParameters (name : String) : String :=
  String.ofList (name.toList.takeWhile (· != '('))

def commonPrefix : List String → List String → List String
  | left :: lefts, right :: rights =>
      if left = right then left :: commonPrefix lefts rights else []
  | _, _ => []

def commonNamespace (first second : String) : List String :=
  commonPrefix (segments first) (segments second)

/-- A name as it reads inside the member `context`: without the namespace that
the two share, and without parameters.  The last segment always stays.  A name
that shares nothing is left as it is. -/
def shorten (name context : String) : String :=
  let bare := stripParameters name
  let shared := commonNamespace bare (stripParameters context)
  if shared.isEmpty then
    name
  else
    let parts := segments bare
    ofSegments (parts.drop (min shared.length (parts.length - 1)))

def last (name : String) : String :=
  (segments name).getLastD ""

theorem ofSegments_segments (name : String) : ofSegments (segments name) = name :=
  Text.intercalate_split '.' name

theorem segments_ne_nil (name : String) : segments name ≠ [] :=
  Text.split_ne_nil '.' name

theorem stripParameters_append {name : String} (rest : List Char)
    (h : '(' ∉ name.toList) :
    stripParameters (name ++ String.ofList ('(' :: rest)) = name := by
  have hname : ∀ c ∈ name.toList, (c != '(') = true := by
    intro c hmem
    simpa using fun heq : c = '(' => h (heq ▸ hmem)
  rw [stripParameters, String.toList_append, String.toList_ofList,
    List.takeWhile_append_of_pos hname]
  simp

theorem stripParameters_of_not_mem {name : String} (h : '(' ∉ name.toList) :
    stripParameters name = name := by
  have hname : ∀ c ∈ name.toList, (c != '(') = true := by
    intro c hmem
    simpa using fun heq : c = '(' => h (heq ▸ hmem)
  have happend := @List.takeWhile_append_of_pos _ _ name.toList [] hname
  rw [List.append_nil] at happend
  rw [stripParameters, happend]
  simp

theorem segments_append_dot (first second : String) :
    segments (first ++ "." ++ second) = segments first ++ segments second := by
  have hdot : ".".toList = ['.'] := rfl
  rw [segments, Text.split, String.toList_append, String.toList_append, hdot,
    List.append_assoc, List.singleton_append, Text.splitChars_append_cons, List.map_append]
  rfl

theorem last_append_dot (first second : String) :
    last (first ++ "." ++ second) = last second := by
  rw [last, last, segments_append_dot, List.getLastD_eq_getLast?, List.getLast?_append]
  cases hlast : (segments second).getLast? with
  | none => exact absurd (List.getLast?_eq_none_iff.mp hlast) (segments_ne_nil second)
  | some segment => simp [List.getLastD_eq_getLast?, hlast]

theorem last_of_not_mem {name : String} (h : '.' ∉ name.toList) : last name = name := by
  simp [last, segments, Text.split, Text.splitChars_of_not_mem h]

theorem last_mem_segments (name : String) : last name ∈ segments name := by
  rw [last, List.getLastD_eq_getLast?]
  cases hlast : (segments name).getLast? with
  | none => exact absurd (List.getLast?_eq_none_iff.mp hlast) (segments_ne_nil name)
  | some segment => exact List.mem_of_getLast? hlast

theorem mem_of_mem_last {name : String} {c : Char} (h : c ∈ (last name).toList) :
    c ∈ name.toList := by
  obtain ⟨piece, hpiece, hlast⟩ := List.mem_map.mp (last_mem_segments name)
  rw [← hlast, String.toList_ofList] at h
  exact Text.mem_of_mem_splitChars hpiece h

@[simp] theorem commonPrefix_nil_left (right : List String) :
    commonPrefix [] right = [] := rfl

@[simp] theorem commonPrefix_nil_right (left : List String) :
    commonPrefix left [] = [] := by
  cases left <;> rfl

theorem commonPrefix_comm (left right : List String) :
    commonPrefix left right = commonPrefix right left := by
  induction left generalizing right with
  | nil => simp
  | cons head tail ih =>
      cases right with
      | nil => simp
      | cons other others =>
          by_cases h : head = other
          · subst h
            simp [commonPrefix, ih others]
          · have hne : other ≠ head := fun heq => h heq.symm
            simp [commonPrefix, h, hne]

theorem commonPrefix_isPrefixOf (left right : List String) :
    commonPrefix left right <+: left := by
  induction left generalizing right with
  | nil => simp
  | cons head tail ih =>
      cases right with
      | nil => simp
      | cons other others =>
          by_cases h : head = other
          · subst h
            simpa [commonPrefix, List.cons_prefix_cons] using ih others
          · simp [commonPrefix, h]

end ApiDocs.Name
