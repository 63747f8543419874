import ApiDocs.Metadata.Provider
import ApiDocs.Proofs.Text.Utf8
import Mathlib.Tactic.ByContra

namespace ApiDocs

/-! How loading ends: with types, with a message that names the file, or with a failure of the
decoding that no message explains. -/

namespace FileTree

variable {tree : FileTree} {directory : Place} {path : Path}

end FileTree

namespace Metadata

/-- A message that says of the file at a path that it cannot be read or is invalid. -/
inductive Explains (path : Path) : String → Prop where
  | unreadable (cause : String) : Explains path s!"cannot read metadata '{path.text}': {cause}"
  | invalid (cause : String) : Explains path s!"invalid metadata '{path.text}': {cause}"

theorem Explains.start {path : Path} {message : String} (h : Explains path message) :
    message.toList.take 9 = "cannot re".toList ∨ message.toList.take 9 = "invalid m".toList := by
  cases h with
  | unreadable cause => exact .inl (by simp [toString])
  | invalid cause => exact .inr (by simp [toString])

theorem decode_eq_ok_iff {bytes : List UInt8} {text : List Char} :
    decode bytes = .ok text ↔ Text.decodeUtf8 bytes = .ok text := by
  rw [decode]
  split
  · next hdecode => rw [hdecode, Except.ok.injEq, Except.ok.injEq]
  · next hdecode =>
      rw [hdecode]
      refine iff_of_false ?_ (by simp)
      split
      · simp
      · split <;> simp

theorem valueOfBytes_eq_error_iff {bytes : List UInt8} {failure : FileError} :
    valueOfBytes bytes = .error failure ↔
      decode bytes = .error failure ∨ ∃ text, Text.decodeUtf8 bytes = .ok text ∧
        (isChecked text = true ∧
            (∃ fault, Yaml.readDocument text = .error fault ∧ .yaml fault = failure) ∨
          isChecked text = false ∧ .unordered (.yaml .malformed) = failure) := by
  simp only [valueOfBytes, Outcome.except_bind_eq_error_iff, decode_eq_ok_iff]
  refine or_congr_right (exists_congr fun text => and_congr_right fun _ => ?_)
  cases isChecked text with
  | true => simp [Outcome.except_mapError_eq_error_iff]
  | false => simp

/-- Bytes of which it is told what comes of reading them: what keeps them from being a text is
met before the document is, and no text needs half of a character. -/
structure Told (bytes : List UInt8) : Prop where
  decoding : ∀ error, Text.decodeUtf8 bytes = .error error → isMetFirst bytes error = true
  checking : ∀ text, Text.decodeUtf8 bytes = .ok text → isChecked text = true
  whole : ∀ text, Text.decodeUtf8 bytes = .ok text →
    Yaml.readDocument text ≠ .error .halfCharacter

theorem decode_eq_error_cases {bytes : List UInt8} {failure : FileError}
    (h : decode bytes = .error failure) :
    ∃ error, Text.decodeUtf8 bytes = .error error ∧
      (isMetFirst bytes error = true ∧ (∃ shown, failure = .encoding shown) ∨
        isMetFirst bytes error = false ∧ failure = .unordered (.encoding error)) := by
  rw [decode] at h
  split at h
  · cases h
  · next error hdecode =>
      refine ⟨error, hdecode, ?_⟩
      cases hfirst : isMetFirst bytes error with
      | true =>
          refine .inl ⟨rfl, ?_⟩
          rw [hfirst] at h
          simp only [Bool.not_true, Bool.false_eq_true, if_false] at h
          split at h <;> cases h <;> exact ⟨_, rfl⟩
      | false =>
          rw [hfirst] at h
          cases h
          exact .inr ⟨rfl, rfl⟩

theorem Told.isTold {bytes : List UInt8} {failure : FileError} (htold : Told bytes)
    (h : valueOfBytes bytes = .error failure) : failure.isTold = true := by
  rcases valueOfBytes_eq_error_iff.mp h with hdecode | ⟨text, hdecode, hfailed⟩
  · obtain ⟨error, herror, ⟨-, shown, rfl⟩ | ⟨hlater, -⟩⟩ := decode_eq_error_cases hdecode
    · rfl
    · rw [htold.decoding error herror] at hlater
      cases hlater
  · rcases hfailed with ⟨-, fault, hfault, rfl⟩ | ⟨hlater, -⟩
    · cases fault with
      | halfCharacter => exact absurd hfault (htold.whole text hdecode)
      | _ => rfl
    · rw [htold.checking text hdecode] at hlater
      cases hlater

variable {tree : FileTree} {directory : Place} {path : Path}

section Told

variable (htold : ∀ bytes, tree.read directory path = .ok bytes → Told bytes)
include htold

end Told

end Metadata

end ApiDocs
