import ApiDocs.Outcome
import Mathlib.Data.List.Basic

namespace ApiDocs.Outcome

/-! Work that tells some of its notices only.  What it comes to is the same, and it does not
matter whether notices are dropped at its end or in each of its steps. -/

variable {ν μ ε δ α β : Type}

def telling (keep : ν → Bool) (outcome : Outcome ν ε α) : Outcome ν ε α :=
  { outcome with notices := outcome.notices.filter keep }

@[simp] theorem telling_ofExcept (keep : ν → Bool) (result : Except ε α) :
    (ofExcept result).telling keep = ofExcept result := rfl

@[simp] theorem telling_mapError (keep : ν → Bool) (f : ε → δ) (outcome : Outcome ν ε α) :
    (outcome.mapError f).telling keep = (outcome.telling keep).mapError f := rfl

theorem telling_bind (keep : ν → Bool) (first : Outcome ν ε α) (next : α → Outcome ν ε β) :
    (first.bind next).telling keep =
      (first.telling keep).bind fun value => (next value).telling keep := by
  obtain ⟨notices, result⟩ := first
  cases result with
  | error error => rfl
  | ok value => simp only [telling, bind, after, List.filter_append]

theorem telling_mapNotices (keep : μ → Bool) (f : ν → μ) (outcome : Outcome ν ε α) :
    (outcome.mapNotices f).telling keep =
      (outcome.telling fun notice => keep (f notice)).mapNotices f := by
  simp only [telling, mapNotices, List.filter_map]
  rfl

theorem telling_of_forall_mem {keep : ν → Bool} {outcome : Outcome ν ε α}
    (h : ∀ notice ∈ outcome.notices, keep notice = false) :
    outcome.telling keep = ofExcept outcome.result := by
  rw [telling, ofExcept, List.filter_eq_nil_iff.mpr]
  intro notice hmem
  simp [h notice hmem]

theorem ofExcept_ok_bind (value : α) (next : α → Outcome ν ε β) :
    (ofExcept (.ok value)).bind next = next value := rfl

theorem ofExcept_bind_ofExcept (first : Except ε α) (next : α → Except ε β) :
    ((ofExcept first : Outcome ν ε α).bind fun value => ofExcept (next value)) =
      ofExcept (first >>= next) := by
  cases first <;> rfl

theorem bind_ofExcept_notices (first : Outcome ν ε α) (next : α → Except ε β) :
    (first.bind fun value => ofExcept (next value)).notices = first.notices := by
  obtain ⟨notices, result⟩ := first
  cases result with
  | error error => rfl
  | ok value => exact List.append_nil notices

end ApiDocs.Outcome
