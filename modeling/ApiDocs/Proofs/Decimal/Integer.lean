import ApiDocs.Decimal.Integer
import ApiDocs.Proofs.Text.Stripped
import Mathlib.Data.Nat.Digits.Defs

namespace ApiDocs.Decimal

/-! The grammar of integers.  A text is read exactly if it is a literal, to the number that the
literal denotes, and the decimal writing of an integer is a literal of it. -/

/-- Digits in a row, by their values.  A single underscore may stand between two of them. -/
inductive Digits : List Char → List Nat → Prop where
  | one {c : Char} {value : Nat} (hdigit : Text.digitValue? c = some value) : Digits [c] [value]
  | next {c : Char} {value : Nat} {rest : List Char} {values : List Nat}
      (hdigit : Text.digitValue? c = some value) (hrest : Digits rest values) :
      Digits (c :: rest) (value :: values)
  | parted {c : Char} {value : Nat} {rest : List Char} {values : List Nat}
      (hdigit : Text.digitValue? c = some value) (hrest : Digits rest values) :
      Digits (c :: '_' :: rest) (value :: values)

/-- An integer with or without a sign, which has at most 4300 digits. -/
inductive Literal : List Char → Int → Prop where
  | unsigned {cs : List Char} {values : List Nat} (hdigits : Digits cs values)
      (hlength : values.length ≤ 4300) : Literal cs (Nat.ofDigits 10 values.reverse : Nat)
  | plus {cs : List Char} {values : List Nat} (hdigits : Digits cs values)
      (hlength : values.length ≤ 4300) :
      Literal ('+' :: cs) (Nat.ofDigits 10 values.reverse : Nat)
  | minus {cs : List Char} {values : List Nat} (hdigits : Digits cs values)
      (hlength : values.length ≤ 4300) :
      Literal ('-' :: cs) (-(Nat.ofDigits 10 values.reverse : Nat))

/-! Reading. -/

theorem digitValue?_underscore : Text.digitValue? '_' = none := by decide

theorem digits?_of_digits {cs : List Char} {values : List Nat} (h : Digits cs values)
    (inside : Bool) : digits? inside cs = some values := by
  induction h generalizing inside with
  | one hdigit => simp [digits?, hdigit]
  | next hdigit hrest ih => simp [digits?, hdigit, ih]
  | parted hdigit hrest ih => simp [digits?, hdigit, digitValue?_underscore, ih]

theorem digits_of_digits? {inside : Bool} {cs : List Char} {values : List Nat}
    (h : digits? inside cs = some values) :
    Digits cs values ∨ inside = true ∧ (cs = [] ∧ values = [] ∨
      ∃ rest, cs = '_' :: rest ∧ Digits rest values) := by
  induction cs generalizing inside values with
  | nil =>
      rw [digits?] at h
      split at h
      · next hinside => exact .inr ⟨hinside, .inl ⟨rfl, by simpa using h.symm⟩⟩
      · cases h
  | cons c rest ih =>
      rw [digits?] at h
      cases hdigit : Text.digitValue? c with
      | some value =>
          rw [hdigit] at h
          obtain ⟨more, hmore, rfl⟩ := Option.map_eq_some_iff.mp h
          rcases ih hmore with hrest | ⟨-, ⟨rfl, rfl⟩ | ⟨others, rfl, hothers⟩⟩
          · exact .inl (.next hdigit hrest)
          · exact .inl (.one hdigit)
          · exact .inl (.parted hdigit hothers)
      | none =>
          simp only [hdigit] at h
          split at h
          · next hparted =>
              obtain ⟨rfl, hinside⟩ : c = '_' ∧ inside = true := by simpa using hparted
              rcases ih h with hrest | ⟨hfalse, -⟩
              · exact .inr ⟨hinside, .inr ⟨rest, rfl, hrest⟩⟩
              · cases hfalse
          · cases h

theorem digits?_eq_some_iff {cs : List Char} {values : List Nat} :
    digits? false cs = some values ↔ Digits cs values := by
  constructor
  · intro h
    rcases digits_of_digits? h with hdigits | ⟨hfalse, -⟩
    · exact hdigits
    · cases hfalse
  · intro h
    exact digits?_of_digits h false

theorem ofDigits_eq (values : List Nat) : ofDigits values = Nat.ofDigits 10 values.reverse := by
  rw [ofDigits, Nat.ofDigits_eq_foldr, List.foldr_reverse]
  congr 1
  funext value digit
  exact Nat.add_comm _ _

theorem natural_eq_ok_iff {cs : List Char} {value : Nat} :
    natural cs = .ok value ↔
      ∃ values, Digits cs values ∧ values.length ≤ 4300 ∧
        value = Nat.ofDigits 10 values.reverse := by
  simp only [← digits?_eq_some_iff, natural]
  cases digits? false cs with
  | none => simp
  | some values =>
      by_cases hlong : maxDigits < values.length
      · have hnot : ¬ values.length ≤ 4300 := Nat.not_le_of_lt hlong
        simp [hlong, hnot]
      · have hle : values.length ≤ 4300 := Nat.le_of_not_lt hlong
        simp [hlong, hle, ofDigits_eq, eq_comm]

theorem map_natural_eq_ok_iff {cs : List Char} {sign : Nat → Int} {value : Int} :
    (natural cs).map sign = .ok value ↔
      ∃ values, Digits cs values ∧ values.length ≤ 4300 ∧
        value = sign (Nat.ofDigits 10 values.reverse) := by
  constructor
  · intro h
    cases hnatural : natural cs with
    | error fault =>
        rw [hnatural] at h
        cases h
    | ok number =>
        rw [hnatural] at h
        cases h
        obtain ⟨values, hdigits, hlength, rfl⟩ := natural_eq_ok_iff.mp hnatural
        exact ⟨values, hdigits, hlength, rfl⟩
  · rintro ⟨values, hdigits, hlength, rfl⟩
    rw [natural_eq_ok_iff.mpr ⟨values, hdigits, hlength, rfl⟩]
    rfl

theorem Digits.head {cs : List Char} {values : List Nat} (h : Digits cs values) :
    ∃ c rest, cs = c :: rest ∧ (Text.digitValue? c).isSome = true := by
  cases h with
  | one hdigit => exact ⟨_, _, rfl, Option.isSome_of_eq_some hdigit⟩
  | next hdigit hrest => exact ⟨_, _, rfl, Option.isSome_of_eq_some hdigit⟩
  | parted hdigit hrest => exact ⟨_, _, rfl, Option.isSome_of_eq_some hdigit⟩

theorem integerChars_of_digits {cs : List Char} {values : List Nat} (h : Digits cs values) :
    integerChars cs = (natural cs).map Int.ofNat := by
  obtain ⟨c, rest, rfl, hdigit⟩ := h.head
  have hminus : c ≠ '-' := by
    rintro rfl
    exact absurd hdigit (by decide)
  have hplus : c ≠ '+' := by
    rintro rfl
    exact absurd hdigit (by decide)
  rw [integerChars]
  · rintro others ⟨rfl, -⟩
    exact hminus rfl
  · rintro others ⟨rfl, -⟩
    exact hplus rfl

theorem integerChars_minus (rest : List Char) :
    integerChars ('-' :: rest) = (natural rest).map fun number => -(Int.ofNat number) := by
  rw [integerChars]
  cases natural rest <;> rfl

theorem integerChars_eq_ok_iff {cs : List Char} {value : Int} :
    integerChars cs = .ok value ↔ Literal cs value := by
  constructor
  · intro h
    rw [integerChars.eq_def] at h
    split at h
    · next rest =>
        have hminus := (integerChars_minus rest).symm.trans h
        obtain ⟨values, hdigits, hlength, rfl⟩ := map_natural_eq_ok_iff.mp hminus
        exact .minus hdigits hlength
    · obtain ⟨values, hdigits, hlength, rfl⟩ := map_natural_eq_ok_iff.mp h
      exact .plus hdigits hlength
    · obtain ⟨values, hdigits, hlength, rfl⟩ := map_natural_eq_ok_iff.mp h
      exact .unsigned hdigits hlength
  · intro h
    cases h with
    | unsigned hdigits hlength =>
        rw [integerChars_of_digits hdigits]
        exact map_natural_eq_ok_iff.mpr ⟨_, hdigits, hlength, rfl⟩
    | plus hdigits hlength => exact map_natural_eq_ok_iff.mpr ⟨_, hdigits, hlength, rfl⟩
    | minus hdigits hlength =>
        rw [integerChars_minus]
        exact map_natural_eq_ok_iff.mpr ⟨_, hdigits, hlength, rfl⟩

theorem dropWhile_isPadding {cs : List Char} (h : ∀ c ∈ cs.head?, Text.isBlank c = false) :
    cs.dropWhile isPadding = cs := by
  have hempty : ∀ c ∈ ([] : List Char), isPadding c = true := by simp
  apply Text.dropWhile_append_of_head? hempty
  intro c hhead
  rw [isPadding, h c hhead, Bool.false_and]

theorem integer_strip (text : String) :
    integer (Text.strip text) = integerChars (Text.stripChars text.toList) := by
  rw [integer, Text.toList_strip, dropWhile_isPadding (Text.isBlank_head?_stripChars _),
    dropWhile_isPadding (Text.isBlank_getLast?_stripChars _), List.reverse_reverse]

theorem integer_strip_eq_ok_iff {text : String} {value : Int} :
    integer (Text.strip text) = .ok value ↔ Literal (Text.strip text).toList value := by
  rw [integer_strip, integerChars_eq_ok_iff, Text.toList_strip]

/-! Writing. -/

theorem digits_of_isDigit {cs : List Char} (hne : cs ≠ []) (h : ∀ c ∈ cs, c.isDigit = true) :
    Digits cs (cs.map fun c => c.toNat - 0x30) := by
  induction cs with
  | nil => exact absurd rfl hne
  | cons c rest ih =>
      rw [List.forall_mem_cons] at h
      have hdigit := Text.digitValue?_of_isDigit h.1
      cases rest with
      | nil => exact .one hdigit
      | cons next more => exact .next hdigit (ih (List.cons_ne_nil _ _) h.2)

theorem isDigit_of_mem_toDigits {number : Nat} {c : Char} (h : c ∈ Nat.toDigits 10 number) :
    c.isDigit = true :=
  Nat.isDigit_of_mem_toDigits (by decide) (by decide) h

theorem ofDigits_toDigits (number : Nat) :
    Nat.ofDigits 10 (((Nat.toDigits 10 number).map fun c => c.toNat - 0x30).reverse) =
      number := by
  rw [← ofDigits_eq, ofDigits, List.foldl_map]
  exact Nat.ofDigitChars_ten_toDigits

theorem toList_toString (number : Int) :
    (toString number).toList =
      (if number < 0 then ['-'] else []) ++ Nat.toDigits 10 number.natAbs := by
  cases number with
  | ofNat number =>
      have hsign : ¬ Int.ofNat number < 0 := Int.not_lt_of_ge (Int.natCast_nonneg number)
      rw [if_neg hsign, List.nil_append]
      exact Nat.toList_repr
  | negSucc number =>
      have htext : toString (Int.negSucc number) = "-" ++ (number + 1).repr := rfl
      rw [if_pos (Int.negSucc_lt_zero number), htext, String.toList_append, Nat.toList_repr]
      rfl

theorem toList_toString_ne_nil (number : Int) : (toString number).toList ≠ [] := by
  rw [toList_toString]
  exact List.append_ne_nil_of_right_ne_nil _ Nat.toDigits_ne_nil

theorem isBlank_of_mem_toString (number : Int) :
    ∀ c ∈ (toString number).toList, Text.isBlank c = false := by
  rw [toList_toString, List.forall_mem_append]
  refine ⟨?_, fun c hmem => Text.isBlank_of_isDigit (isDigit_of_mem_toDigits hmem)⟩
  split
  · rw [List.forall_mem_singleton]
    rfl
  · simp

theorem literal_toString {number : Int}
    (hlength : (Nat.toDigits 10 number.natAbs).length ≤ 4300) :
    Literal (toString number).toList number := by
  have hisDigit : ∀ c ∈ Nat.toDigits 10 number.natAbs, c.isDigit = true :=
    fun _ => isDigit_of_mem_toDigits
  have hdigits := digits_of_isDigit Nat.toDigits_ne_nil hisDigit
  rw [← List.length_map (fun c : Char => c.toNat - 0x30)] at hlength
  have hvalue := ofDigits_toDigits number.natAbs
  rw [toList_toString]
  by_cases hsign : number < 0
  · have hliteral := Literal.minus hdigits hlength
    rw [hvalue, Int.ofNat_natAbs_of_nonpos (Int.le_of_lt hsign), Int.neg_neg] at hliteral
    rw [if_pos hsign]
    exact hliteral
  · have hliteral := Literal.unsigned hdigits hlength
    rw [hvalue, Int.natAbs_of_nonneg (Int.not_lt.mp hsign)] at hliteral
    rw [if_neg hsign]
    exact hliteral

end ApiDocs.Decimal
