import ApiDocs.Markdown.Page

namespace ApiDocs.Markdown

/-! The order of a page.  Descending importance, with the order of the provider inside every
importance, leaves one arrangement. -/

open Metadata
open Documentation (Index)

def ofImportance (index : Index) (importance : Int) (types : List ExportedType) :
    List ExportedType :=
  types.filter fun type => index.importance type.docName = importance

/-- No type stands behind one of lower importance. -/
def Descending (index : Index) (types : List ExportedType) : Prop :=
  types.Pairwise fun left right =>
    index.importance right.docName ≤ index.importance left.docName

theorem mem_ofImportance {index : Index} {importance : Int} {types : List ExportedType}
    {type : ExportedType} :
    type ∈ ofImportance index importance types ↔
      type ∈ types ∧ index.importance type.docName = importance := by
  simp [ofImportance]

theorem ofImportance_cons_of_eq {index : Index} {importance : Int} {type : ExportedType}
    (types : List ExportedType) (h : index.importance type.docName = importance) :
    ofImportance index importance (type :: types) =
      type :: ofImportance index importance types := by
  simp [ofImportance, h]

theorem ofImportance_cons_of_ne {index : Index} {importance : Int} {type : ExportedType}
    (types : List ExportedType) (h : index.importance type.docName ≠ importance) :
    ofImportance index importance (type :: types) = ofImportance index importance types := by
  simp [ofImportance, h]

theorem ofImportance_filter (index : Index) (importance : Int) (types : List ExportedType)
    (keep : ExportedType → Bool) :
    ofImportance index importance (types.filter keep) =
      (ofImportance index importance types).filter keep := by
  simp only [ofImportance, List.filter_filter, Bool.and_comm]

theorem mem_of_ofImportance_eq {index : Index} {first second : List ExportedType}
    (hclasses : ∀ importance,
      ofImportance index importance first = ofImportance index importance second)
    {type : ExportedType} (hmem : type ∈ first) : type ∈ second := by
  have hclass : type ∈ ofImportance index (index.importance type.docName) first :=
    mem_ofImportance.mpr ⟨hmem, rfl⟩
  rw [hclasses] at hclass
  exact (mem_ofImportance.mp hclass).1

theorem Descending.tail {index : Index} {head : ExportedType} {rest : List ExportedType}
    (h : Descending index (head :: rest)) : Descending index rest :=
  List.Pairwise.of_cons h

theorem Descending.importance_le_head {index : Index} {head type : ExportedType}
    {rest : List ExportedType} (h : Descending index (head :: rest))
    (hmem : type ∈ head :: rest) :
    index.importance type.docName ≤ index.importance head.docName := by
  cases hmem with
  | head => exact Int.le_refl _
  | tail _ hrest => exact List.rel_of_pairwise_cons h hrest

theorem ofImportance_ofImportance (index : Index) (importance : Int)
    (types : List ExportedType) :
    ofImportance index importance (ofImportance index importance types) =
      ofImportance index importance types := by
  simp [ofImportance]

theorem Descending.eq_of_ofImportance_eq {index : Index} {first second : List ExportedType}
    (hfirst : Descending index first) (hsecond : Descending index second)
    (hclasses : ∀ importance,
      ofImportance index importance first = ofImportance index importance second) :
    first = second := by
  induction first generalizing second with
  | nil =>
      cases second with
      | nil => rfl
      | cons type rest =>
          have hclass := hclasses (index.importance type.docName)
          rw [ofImportance_cons_of_eq rest rfl] at hclass
          exact absurd hclass (by simp [ofImportance])
  | cons left leftRest ih =>
      cases second with
      | nil =>
          have hclass := hclasses (index.importance left.docName)
          rw [ofImportance_cons_of_eq leftRest rfl] at hclass
          exact absurd hclass (by simp [ofImportance])
      | cons right rightRest =>
          have hleft : index.importance left.docName ≤ index.importance right.docName :=
            hsecond.importance_le_head (mem_of_ofImportance_eq hclasses (by simp))
          have hright : index.importance right.docName ≤ index.importance left.docName :=
            hfirst.importance_le_head
              (mem_of_ofImportance_eq (fun importance => (hclasses importance).symm)
                (by simp))
          have himportance := Int.le_antisymm hright hleft
          have hclass := hclasses (index.importance left.docName)
          rw [ofImportance_cons_of_eq leftRest rfl,
            ofImportance_cons_of_eq rightRest himportance] at hclass
          obtain ⟨rfl, -⟩ := List.cons.inj hclass
          rw [ih hfirst.tail hsecond.tail]
          intro importance
          have hrest := hclasses importance
          by_cases h : index.importance left.docName = importance
          · rw [ofImportance_cons_of_eq leftRest h, ofImportance_cons_of_eq rightRest h] at hrest
            exact (List.cons.inj hrest).2
          · rwa [ofImportance_cons_of_ne leftRest h, ofImportance_cons_of_ne rightRest h] at hrest

/-! Sorting. -/

def mayPrecede (index : Index) (left right : ExportedType) : Bool :=
  index.importance right.docName ≤ index.importance left.docName

theorem mayPrecede_trans (index : Index) (first second third : ExportedType)
    (hfirst : mayPrecede index first second = true)
    (hsecond : mayPrecede index second third = true) :
    mayPrecede index first third = true := by
  simp only [mayPrecede, decide_eq_true_eq] at hfirst hsecond ⊢
  exact Int.le_trans hsecond hfirst

theorem mayPrecede_total (index : Index) (first second : ExportedType) :
    (mayPrecede index first second || mayPrecede index second first) = true := by
  simp only [mayPrecede, Bool.or_eq_true, decide_eq_true_eq]
  exact Int.le_total _ _

theorem order_perm (index : Index) (types : List ExportedType) :
    (order index types).Perm types :=
  List.mergeSort_perm types _

theorem order_descending (index : Index) (types : List ExportedType) :
    Descending index (order index types) := by
  have hsorted := List.pairwise_mergeSort (mayPrecede_trans index) (mayPrecede_total index) types
  exact hsorted.imp of_decide_eq_true

theorem ofImportance_order (index : Index) (importance : Int) (types : List ExportedType) :
    ofImportance index importance (order index types) =
      ofImportance index importance types := by
  have hsorted : (ofImportance index importance types).Pairwise (mayPrecede index · ·) := by
    apply List.pairwise_of_forall_mem_list
    intro left hleft right hright
    rw [mem_ofImportance] at hleft hright
    rw [mayPrecede, hleft.2, hright.2]
    exact decide_eq_true (Int.le_refl importance)
  have hsublist : (ofImportance index importance types).Sublist (order index types) :=
    List.sublist_mergeSort (mayPrecede_trans index) (mayPrecede_total index) hsorted
      List.filter_sublist
  have hkept : (ofImportance index importance types).Sublist
      (ofImportance index importance (order index types)) := by
    rw [← ofImportance_ofImportance index importance types]
    exact hsublist.filter _
  have hlength : (ofImportance index importance (order index types)).length =
      (ofImportance index importance types).length :=
    ((order_perm index types).filter _).length_eq
  exact (hkept.eq_of_length hlength.symm).symm

/-- Sorting is the only arrangement by descending importance that keeps the order of types
of one importance. -/
theorem Descending.eq_order {index : Index} {types arranged : List ExportedType}
    (hdescending : Descending index arranged)
    (hclasses : ∀ importance,
      ofImportance index importance arranged = ofImportance index importance types) :
    arranged = order index types := by
  apply hdescending.eq_of_ofImportance_eq (order_descending index types)
  intro importance
  rw [hclasses, ofImportance_order]

theorem order_eq_of_ofImportance_eq {index : Index} {types others : List ExportedType}
    (hclasses : ∀ importance,
      ofImportance index importance types = ofImportance index importance others) :
    order index types = order index others := by
  apply (order_descending index types).eq_order
  intro importance
  rw [ofImportance_order, hclasses]

theorem order_filter (index : Index) (keep : ExportedType → Bool) (types : List ExportedType) :
    order index (types.filter keep) = (order index types).filter keep := by
  have hdescending : Descending index ((order index types).filter keep) :=
    (order_descending index types).filter _
  apply (hdescending.eq_order ?_).symm
  intro importance
  rw [ofImportance_filter, ofImportance_filter, ofImportance_order]

/-! Arrangements of types with their places in the list of the provider, which tell apart
types that occur more than once. -/

def Precedes (index : Index) (left right : ExportedType × Nat) : Prop :=
  index.importance right.1.docName < index.importance left.1.docName ∨
    index.importance left.1.docName = index.importance right.1.docName ∧ left.2 < right.2

/-- An arrangement of types in which each stands before those that it precedes. -/
structure Arranges (index : Index) (places arranged : List (ExportedType × Nat)) : Prop where
  perm : arranged.Perm places
  lt_iff : ∀ first second : Fin arranged.length,
    first < second ↔ Precedes index arranged[first] arranged[second]

theorem Precedes.asymm {index : Index} {left right : ExportedType × Nat}
    (h : Precedes index left right) : ¬ Precedes index right left := by
  rw [Precedes] at h ⊢
  omega

theorem arranges_iff_pairwise {index : Index} {places arranged : List (ExportedType × Nat)} :
    Arranges index places arranged ↔
      arranged.Perm places ∧ arranged.Pairwise (Precedes index) := by
  constructor
  · intro h
    refine ⟨h.perm, ?_⟩
    rw [List.pairwise_iff_getElem]
    intro first second hfirst hsecond hlt
    exact (h.lt_iff ⟨first, hfirst⟩ ⟨second, hsecond⟩).mp hlt
  · intro h
    obtain ⟨hperm, hpairwise⟩ := h
    rw [List.pairwise_iff_getElem] at hpairwise
    refine ⟨hperm, ?_⟩
    intro first second
    constructor
    · intro hlt
      exact hpairwise first second first.isLt second.isLt hlt
    · intro hprecedes
      rcases Nat.lt_trichotomy first second with hlt | heq | hgt
      · exact hlt
      · have hself : first = second := Fin.ext heq
        subst hself
        exact absurd hprecedes hprecedes.asymm
      · exact absurd hprecedes
          (hpairwise second first second.isLt first.isLt hgt).asymm

theorem Arranges.unique {index : Index} {places first second : List (ExportedType × Nat)}
    (hfirst : Arranges index places first) (hsecond : Arranges index places second) :
    first = second := by
  obtain ⟨hfirstPerm, hfirstPairwise⟩ := arranges_iff_pairwise.mp hfirst
  obtain ⟨hsecondPerm, hsecondPairwise⟩ := arranges_iff_pairwise.mp hsecond
  apply List.Perm.eq_of_pairwise _ hfirstPairwise hsecondPairwise
    (hfirstPerm.trans hsecondPerm.symm)
  intro left right _ _ hleft hright
  exact absurd hright hleft.asymm

theorem Arranges.filter {index : Index} {places arranged : List (ExportedType × Nat)}
    (h : Arranges index places arranged) (keep : ExportedType × Nat → Bool) :
    Arranges index (places.filter keep) (arranged.filter keep) := by
  obtain ⟨hperm, hpairwise⟩ := arranges_iff_pairwise.mp h
  exact arranges_iff_pairwise.mpr ⟨hperm.filter keep, hpairwise.filter keep⟩

theorem precedes_of_zipIdxLE {index : Index} {left right : ExportedType × Nat}
    (hle : List.zipIdxLE (mayPrecede index) left right = true) (hne : left.2 ≠ right.2) :
    Precedes index left right := by
  rw [Precedes]
  simp only [List.zipIdxLE, mayPrecede, decide_eq_true_eq] at hle
  split at hle
  · next hleft =>
      split at hle
      · next hright =>
          have hplace : left.2 ≤ right.2 := of_decide_eq_true hle
          right
          exact ⟨Int.le_antisymm hright hleft, by omega⟩
      · next hright =>
          left
          exact Int.not_le.mp hright
  · exact absurd hle (by decide)

theorem exists_arranges_order (index : Index) (types : List ExportedType) :
    ∃ arranged, Arranges index types.zipIdx arranged ∧
      arranged.map Prod.fst = order index types := by
  refine ⟨types.zipIdx.mergeSort (List.zipIdxLE (mayPrecede index)), ?_, ?_⟩
  · rw [arranges_iff_pairwise]
    have hperm := List.mergeSort_perm types.zipIdx (List.zipIdxLE (mayPrecede index))
    refine ⟨hperm, ?_⟩
    have hsorted := List.pairwise_mergeSort
      (List.zipIdxLE_trans (mayPrecede_trans index))
      (List.zipIdxLE_total (mayPrecede_total index)) types.zipIdx
    have hplaces : ((types.zipIdx.mergeSort (List.zipIdxLE (mayPrecede index))).map
        Prod.snd).Nodup := by
      rw [(hperm.map Prod.snd).nodup_iff, List.zipIdx_map_snd]
      exact List.nodup_range'
    rw [List.Nodup, List.pairwise_map] at hplaces
    apply (hsorted.and hplaces).imp
    intro left right hboth
    exact precedes_of_zipIdxLE hboth.1 hboth.2
  · exact List.mergeSort_zipIdx

end ApiDocs.Markdown
