import ApiDocs.Name
import Mathlib.Data.List.TakeDrop
import Mathlib.Data.List.TakeWhile

namespace ApiDocs.Name

/-! How a name reads inside a member.  Two names share the longest common start of their parts.
What is left of a name stands behind it and a dot, but the last part stays in any case; so
nothing is left exactly of a name with an empty last part whose other parts are all shared. -/

structure IsBare (bare name : String) : Prop where
  noParameters : '(' ∉ bare.toList
  rest : name = bare ∨ ∃ parameters, name = bare ++ "(" ++ parameters

/-- What two lists have in common at their start, and all of it: behind it one of them ends, or
they go on with different parts. -/
structure IsCommonStart (shared left right : List String) : Prop where
  parts : ∃ lefts rights, left = shared ++ lefts ∧ right = shared ++ rights ∧
    ∀ part ∈ lefts.head?, ∀ other ∈ rights.head?, part ≠ other
  longest : ∀ common, common <+: left → common <+: right → common <+: shared

/-- What `short` is, for a name that is `bare` without its parameters and shares the parts
`shared` with the member around it. -/
structure IsRemainder (name bare : String) (shared : List String) (short : String) : Prop where
  unrelated : shared = [] → short = name
  inside : shared ≠ [] → shared.length < (segments bare).length →
    ofSegments shared ++ "." ++ short = bare ∧ '(' ∉ short.toList
  whole : shared = segments bare →
    (segments bare).getLast? = some short ∧ '(' ∉ short.toList

/-! Names without parameters. -/

theorem not_mem_stripParameters (name : String) : '(' ∉ (stripParameters name).toList := by
  rw [stripParameters, String.toList_ofList]
  intro hmem
  simpa using List.mem_takeWhile_imp hmem

theorem isBare_stripParameters (name : String) : IsBare (stripParameters name) name where
  noParameters := not_mem_stripParameters name
  rest := by
    have hname : name.toList.takeWhile (· != '(') ++ name.toList.dropWhile (· != '(') =
        name.toList := List.takeWhile_append_dropWhile
    have hhead := List.head?_dropWhile_not (· != '(') name.toList
    cases hdrop : name.toList.dropWhile (· != '(') with
    | nil =>
        left
        rw [hdrop, List.append_nil] at hname
        rw [stripParameters, hname, String.ofList_toList]
    | cons c parameters =>
        right
        rw [hdrop] at hname hhead
        have hc : c = '(' := by simpa using hhead
        refine ⟨String.ofList parameters, ?_⟩
        calc
          name = String.ofList (name.toList.takeWhile (· != '(') ++ c :: parameters) := by
            rw [hname, String.ofList_toList]
          _ = stripParameters name ++ "(" ++ String.ofList parameters := by
            rw [hc, List.append_cons, String.ofList_append, String.ofList_append]
            rfl

/-! Parts that two names share. -/

theorem exists_commonPrefix (left right : List String) :
    ∃ lefts rights, left = commonPrefix left right ++ lefts ∧
      right = commonPrefix left right ++ rights ∧
      ∀ part ∈ lefts.head?, ∀ other ∈ rights.head?, part ≠ other := by
  induction left generalizing right with
  | nil => exact ⟨[], right, rfl, rfl, by simp⟩
  | cons head tail ih =>
      cases right with
      | nil => exact ⟨head :: tail, [], rfl, rfl, by simp⟩
      | cons other others =>
          by_cases h : head = other
          · obtain ⟨lefts, rights, hleft, hright, hdiffer⟩ := ih others
            rw [commonPrefix, if_pos h]
            refine ⟨lefts, rights, ?_, ?_, hdiffer⟩
            · rw [List.cons_append, ← hleft]
            · rw [List.cons_append, ← hright, h]
          · rw [commonPrefix, if_neg h]
            exact ⟨head :: tail, other :: others, rfl, rfl, by simpa using h⟩

theorem prefix_commonPrefix {common left right : List String} (hleft : common <+: left)
    (hright : common <+: right) : common <+: commonPrefix left right := by
  induction common generalizing left right with
  | nil => exact List.nil_prefix
  | cons part rest ih =>
      obtain ⟨lefts, rfl⟩ := hleft
      obtain ⟨rights, rfl⟩ := hright
      rw [List.cons_append, List.cons_append, commonPrefix, if_pos rfl, List.cons_prefix_cons]
      exact ⟨rfl, ih (List.prefix_append rest lefts) (List.prefix_append rest rights)⟩

theorem isCommonStart_commonNamespace (first second : String) :
    IsCommonStart (commonNamespace first second) (segments first) (segments second) where
  parts := exists_commonPrefix (segments first) (segments second)
  longest _ := prefix_commonPrefix

theorem commonNamespace_comm (first second : String) :
    commonNamespace first second = commonNamespace second first :=
  commonPrefix_comm (segments first) (segments second)

theorem commonNamespace_prefix (first second : String) :
    commonNamespace first second <+: segments first :=
  commonPrefix_isPrefixOf (segments first) (segments second)

/-! What is left. -/

theorem ofSegments_append {first second : List String} (hfirst : first ≠ [])
    (hsecond : second ≠ []) :
    ofSegments (first ++ second) = ofSegments first ++ "." ++ ofSegments second :=
  String.intercalate_append_of_ne_nil hfirst hsecond

theorem shorten_of_unrelated {name context : String}
    (h : commonNamespace (stripParameters name) (stripParameters context) = []) :
    shorten name context = name := by
  rw [shorten, h]
  rfl

theorem shorten_of_related {name context : String} {shared : List String}
    (h : commonNamespace (stripParameters name) (stripParameters context) = shared)
    (hne : shared ≠ []) :
    shorten name context =
      ofSegments ((segments (stripParameters name)).drop
        (min shared.length ((segments (stripParameters name)).length - 1))) := by
  subst h
  rw [shorten, if_neg (by simpa using hne)]

theorem shorten_inside {name context : String} {shared : List String}
    (h : commonNamespace (stripParameters name) (stripParameters context) = shared)
    (hne : shared ≠ []) (hlength : shared.length < (segments (stripParameters name)).length) :
    ofSegments shared ++ "." ++ shorten name context = stripParameters name := by
  have hstart := commonNamespace_prefix (stripParameters name) (stripParameters context)
  rw [h] at hstart
  obtain ⟨later, hparts⟩ := hstart
  have hlater : later ≠ [] := by
    rintro rfl
    rw [← hparts, List.append_nil] at hlength
    exact lt_irrefl _ hlength
  have hmin : min shared.length ((segments (stripParameters name)).length - 1) =
      shared.length := by omega
  rw [shorten_of_related h hne, hmin, ← hparts, List.drop_left, ← ofSegments_append hne hlater,
    hparts, ofSegments_segments]

theorem shorten_whole {name context : String}
    (h : commonNamespace (stripParameters name) (stripParameters context) =
      segments (stripParameters name)) :
    (segments (stripParameters name)).getLast? = some (shorten name context) := by
  have hne := segments_ne_nil (stripParameters name)
  have hmin : min (segments (stripParameters name)).length
      ((segments (stripParameters name)).length - 1) =
        (segments (stripParameters name)).length - 1 := by omega
  rw [shorten_of_related h hne, hmin, List.drop_length_sub_one hne,
    List.getLast?_eq_some_getLast hne, ofSegments, String.intercalate_singleton]

theorem isRemainder_shorten (name context : String) :
    IsRemainder name (stripParameters name)
      (commonNamespace (stripParameters name) (stripParameters context))
      (shorten name context) where
  unrelated := shorten_of_unrelated
  inside := by
    intro hne hlength
    have htext := shorten_inside rfl hne hlength
    refine ⟨htext, fun hmem => not_mem_stripParameters name ?_⟩
    rw [← htext, String.toList_append]
    exact List.mem_append_right _ hmem
  whole := by
    intro hshared
    have hlast := shorten_whole hshared
    refine ⟨hlast, fun hmem => not_mem_stripParameters name (mem_of_mem_last ?_)⟩
    rw [last, List.getLastD_eq_getLast?, hlast, Option.getD_some]
    exact hmem

/-- Inside a member a name loses what the two share, and nothing else. -/
theorem shorten_removes_shared (name context : String) :
    let bare := stripParameters name
    let around := stripParameters context
    IsBare bare name ∧ IsBare around context ∧
      IsCommonStart (commonNamespace bare around) (segments bare) (segments around) ∧
      (∀ first second, commonNamespace first second = commonNamespace second first) ∧
      IsRemainder name bare (commonNamespace bare around) (shorten name context) :=
  ⟨isBare_stripParameters name, isBare_stripParameters context,
    isCommonStart_commonNamespace _ _, commonNamespace_comm, isRemainder_shorten name context⟩

example :
    shorten "N.C.Run(N.A,B.C)" "N.C.Stop(N.C)" = "Run" ∧ shorten "X.Y(N.A)" "N.C" = "X.Y(N.A)" ∧
      shorten "N.C(N.D)" "N.C.Run" = "C" ∧ shorten ".A.B" ".C" = "A.B" := by
  decide +kernel

/-! Names of which nothing is left. -/

/-- Whether nothing is left of a name: it has an empty last part, and all that is before that
part is shared. -/
inductive Vanishes (name context : String) : Prop
  | parameters (hname : stripParameters name = "")
      (hcontext : (segments (stripParameters context)).head? = some "")
  | dot {before : String} (hname : stripParameters name = before ++ ".")
      (hcontext : segments before <+: segments (stripParameters context))

theorem segments_append_dot_end (before : String) :
    segments (before ++ ".") = segments before ++ [""] := by
  have happend := segments_append_dot before ""
  rwa [String.append_empty] at happend

theorem eq_singleton_of_ofSegments_eq_empty {parts : List String} (hne : parts ≠ [])
    (h : ofSegments parts = "") : parts = [""] := by
  cases parts with
  | nil => exact absurd rfl hne
  | cons part rest =>
      cases rest with
      | nil => rw [← h, ofSegments, String.intercalate_singleton]
      | cons next others =>
          have hlength := congrArg String.length h
          rw [ofSegments, String.intercalate_cons_cons, String.length_append,
            String.length_append] at hlength
          exact absurd hlength (by simp)

theorem shorten_of_vanishes {name context : String} (h : Vanishes name context) :
    shorten name context = "" := by
  cases h with
  | parameters hname hcontext =>
      obtain ⟨others, hothers⟩ := List.head?_eq_some_iff.mp hcontext
      have hshared : commonNamespace (stripParameters name) (stripParameters context) = [""] := by
        rw [commonNamespace, hname, hothers]
        rfl
      rw [shorten_of_related hshared (List.cons_ne_nil _ _), hname]
      rfl
  | @dot before hname hcontext =>
      have hparts : segments (stripParameters name) = segments before ++ [""] := by
        rw [hname, segments_append_dot_end]
      have hstart : segments before <+:
          commonNamespace (stripParameters name) (stripParameters context) := by
        apply prefix_commonPrefix _ hcontext
        rw [hparts]
        exact List.prefix_append _ _
      have hne : commonNamespace (stripParameters name) (stripParameters context) ≠ [] := by
        intro hnil
        rw [hnil, List.prefix_nil] at hstart
        exact segments_ne_nil before hstart
      have hlength := hstart.length_le
      rw [shorten_of_related rfl hne, hparts, List.length_append, List.length_singleton,
        Nat.add_sub_cancel, Nat.min_eq_right hlength, List.drop_left]
      rfl

theorem exists_parts_of_shorten_eq_empty {name context : String} {shared : List String}
    (hshared : commonNamespace (stripParameters name) (stripParameters context) = shared)
    (hne : shared ≠ []) (h : shorten name context = "") :
    ∃ initial, segments (stripParameters name) = initial ++ [""] ∧ initial <+: shared := by
  have hstart := commonNamespace_prefix (stripParameters name) (stripParameters context)
  have hlength := List.length_pos_iff.mpr (segments_ne_nil (stripParameters name))
  rw [shorten_of_related hshared hne] at h
  rw [hshared] at hstart
  generalize segments (stripParameters name) = parts at *
  have hlast : parts.drop (min shared.length (parts.length - 1)) = [""] := by
    refine eq_singleton_of_ofSegments_eq_empty ?_ h
    rw [Ne, List.drop_eq_nil_iff]
    omega
  refine ⟨parts.take (min shared.length (parts.length - 1)), ?_, ?_⟩
  · rw [← hlast, List.take_append_drop]
  · apply List.prefix_of_prefix_length_le (List.take_prefix _ parts) hstart
    rw [List.length_take]
    omega

theorem vanishes_of_shorten_eq_empty {name context : String} (hne : name ≠ "")
    (h : shorten name context = "") : Vanishes name context := by
  have hcontext := commonNamespace_prefix (stripParameters context) (stripParameters name)
  have hname := commonNamespace_prefix (stripParameters name) (stripParameters context)
  rw [commonNamespace_comm] at hcontext
  have hrelated : commonNamespace (stripParameters name) (stripParameters context) ≠ [] := by
    intro hshared
    rw [shorten_of_unrelated hshared] at h
    exact hne h
  obtain ⟨initial, hparts, hinitial⟩ := exists_parts_of_shorten_eq_empty rfl hrelated h
  have hbare := ofSegments_segments (stripParameters name)
  rw [hparts] at hbare
  cases hcase : initial with
  | nil =>
      rw [hcase, List.nil_append] at hparts hbare
      refine .parameters hbare.symm ?_
      obtain ⟨part, others, hshared⟩ := List.exists_cons_of_ne_nil hrelated
      rw [hshared] at hname hcontext
      rw [hparts, List.cons_prefix_cons] at hname
      obtain ⟨rest, hrest⟩ := hcontext
      rw [← hrest, hname.1]
      rfl
  | cons part rest =>
      have hbefore : initial ≠ [] := by simp [hcase]
      have hdot : stripParameters name = ofSegments initial ++ "." := by
        rw [← hbare, ofSegments_append hbefore (List.cons_ne_nil _ _)]
        exact String.append_empty
      refine .dot hdot ?_
      rw [hdot, segments_append_dot_end] at hparts
      rw [List.append_cancel_right hparts]
      exact hinitial.trans hcontext

theorem shorten_eq_empty_iff {name : String} (hne : name ≠ "") (context : String) :
    shorten name context = "" ↔ Vanishes name context :=
  ⟨vanishes_of_shorten_eq_empty hne, shorten_of_vanishes⟩

end ApiDocs.Name
