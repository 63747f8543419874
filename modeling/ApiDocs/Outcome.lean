namespace ApiDocs

/-! Work that tells what happens on the way, whether or not it comes to a result. -/

/-- What a piece of work comes to: what happened on the way, and a result or the error
that ended it. -/
structure Outcome (ν ε α : Type) where
  notices : List ν
  result : Except ε α

namespace Outcome

variable {ν ε α β : Type}

def ok (value : α) : Outcome ν ε α := ⟨[], .ok value⟩

def fail (error : ε) : Outcome ν ε α := ⟨[], .error error⟩

def ofExcept (result : Except ε α) : Outcome ν ε α := ⟨[], result⟩

def after (outcome : Outcome ν ε α) (notices : List ν) : Outcome ν ε α :=
  { outcome with notices := notices ++ outcome.notices }

def bind (first : Outcome ν ε α) (next : α → Outcome ν ε β) : Outcome ν ε β :=
  match first.result with
  | .ok value => (next value).after first.notices
  | .error error => ⟨first.notices, .error error⟩

def map (f : α → β) (outcome : Outcome ν ε α) : Outcome ν ε β :=
  ⟨outcome.notices, outcome.result.map f⟩

def mapError {δ : Type} (f : ε → δ) (outcome : Outcome ν ε α) : Outcome ν δ α :=
  ⟨outcome.notices, outcome.result.mapError f⟩

def mapNotices {μ : Type} (f : ν → μ) (outcome : Outcome ν ε α) : Outcome μ ε α :=
  ⟨outcome.notices.map f, outcome.result⟩

@[simp] theorem after_nil (outcome : Outcome ν ε α) : outcome.after [] = outcome := rfl

@[simp] theorem after_result (outcome : Outcome ν ε α) (notices : List ν) :
    (outcome.after notices).result = outcome.result := rfl

@[simp] theorem ok_bind (value : α) (next : α → Outcome ν ε β) :
    (ok value).bind next = next value := rfl

@[simp] theorem fail_bind (error : ε) (next : α → Outcome ν ε β) :
    (fail error : Outcome ν ε α).bind next = fail error := rfl

theorem bind_result_eq_ok_iff {first : Outcome ν ε α} {next : α → Outcome ν ε β}
    {value : β} :
    (first.bind next).result = .ok value ↔
      ∃ intermediate, first.result = .ok intermediate ∧
        (next intermediate).result = .ok value := by
  obtain ⟨notices, result⟩ := first
  cases result with
  | error error => simp [bind]
  | ok intermediate => simp [bind, after]

@[simp] theorem except_mapError_error {δ : Type} (f : ε → δ) (error : ε) :
    (Except.error error : Except ε α).mapError f = .error (f error) := rfl

@[simp] theorem except_mapError_ok {δ : Type} (f : ε → δ) (value : α) :
    (Except.ok value : Except ε α).mapError f = .ok value := rfl

theorem except_mapError_eq_error_iff {δ : Type} {f : ε → δ} {result : Except ε α}
    {error : δ} :
    result.mapError f = .error error ↔ ∃ cause, result = .error cause ∧ f cause = error := by
  cases result <;> simp

theorem except_mapError_eq_ok_iff {δ : Type} {f : ε → δ} {result : Except ε α}
    {value : α} : result.mapError f = .ok value ↔ result = .ok value := by
  cases result <;> simp

theorem bind_assoc {γ : Type} (first : Outcome ν ε α) (next : α → Outcome ν ε β)
    (last : β → Outcome ν ε γ) :
    (first.bind next).bind last = first.bind fun value => (next value).bind last := by
  obtain ⟨notices, result⟩ := first
  cases result with
  | error error => rfl
  | ok value =>
      simp only [bind, after]
      split
      · simp only [List.append_assoc]
      · rfl

theorem toOption_eq_some_iff {result : Except ε α} {value : α} :
    result.toOption = some value ↔ result = .ok value := by
  cases result <;> simp [Except.toOption]

theorem except_bind_eq_ok_iff {first : Except ε α} {next : α → Except ε β} {value : β} :
    (first >>= next) = .ok value ↔
      ∃ intermediate, first = .ok intermediate ∧ next intermediate = .ok value := by
  cases first with
  | error error => simp [Bind.bind, Except.bind]
  | ok intermediate => simp [Bind.bind, Except.bind]

theorem except_bind_eq_error_iff {first : Except ε α} {next : α → Except ε β} {error : ε} :
    (first >>= next) = .error error ↔
      first = .error error ∨ ∃ intermediate, first = .ok intermediate ∧
        next intermediate = .error error := by
  cases first with
  | error cause => simp [Bind.bind, Except.bind]
  | ok intermediate => simp [Bind.bind, Except.bind]

end Outcome

end ApiDocs
