import ApiDocs.Text.Utf8

namespace ApiDocs.Text

/-! The bytes of a text are those that it has in memory, and a fault stands within the bytes. -/

theorem utf8Bytes_eq (c : Char) : utf8Bytes c = String.utf8EncodeChar c := by
  have hrange : c.toNat < 0x110000 := by
    rcases c.valid with hlow | ⟨-, hhigh⟩
    · exact Nat.lt_trans hlow (by decide)
    · exact hhigh
  have hvalue : c.val.toNat = c.toNat := rfl
  have h0 : Nat.pow 2 0 = 1 := rfl
  have h6 : Nat.pow 2 6 = 64 := rfl
  have h12 : Nat.pow 2 12 = 4096 := rfl
  have h18 : Nat.pow 2 18 = 262144 := rfl
  simp only [utf8Bytes, String.utf8EncodeChar, hvalue, h0, h6, h12, h18, Nat.div_one,
    Nat.add_comm]
  generalize c.toNat = code at hrange
  by_cases hone : code < 0x80
  · have hone' : code ≤ 0x7f := Nat.le_of_lt_succ hone
    rw [if_pos hone, if_pos hone']
  have hone' : ¬ code ≤ 0x7f := fun h => hone (Nat.lt_succ_of_le h)
  rw [if_neg hone, if_neg hone']
  by_cases htwo : code < 0x800
  · have htwo' : code ≤ 0x7ff := Nat.le_of_lt_succ htwo
    have hlead : code / 64 % 32 = code / 64 := Nat.mod_eq_of_lt (by omega)
    rw [if_pos htwo, if_pos htwo', hlead]
  have htwo' : ¬ code ≤ 0x7ff := fun h => htwo (Nat.lt_succ_of_le h)
  rw [if_neg htwo, if_neg htwo']
  by_cases hthree : code < 0x10000
  · have hthree' : code ≤ 0xffff := Nat.le_of_lt_succ hthree
    have hlead : code / 4096 % 16 = code / 4096 := Nat.mod_eq_of_lt (by omega)
    rw [if_pos hthree, if_pos hthree', hlead]
  · have hthree' : ¬ code ≤ 0xffff := fun h => hthree (Nat.lt_succ_of_le h)
    have hlead : code / 262144 % 8 = code / 262144 := Nat.mod_eq_of_lt (by omega)
    rw [if_neg hthree, if_neg hthree', hlead]

theorem encodeUtf8_eq_toUTF8 (text : String) :
    encodeUtf8 text = text.toUTF8.data.toList := by
  have hbytes : utf8Bytes = String.utf8EncodeChar := funext utf8Bytes_eq
  rw [String.toUTF8_eq_toByteArray, ← String.utf8Encode_toList, List.utf8Encode,
    List.data_toByteArray, encodeUtf8, hbytes]

def Utf8Pending.size : Option Utf8Pending → Nat
  | none => 0
  | some p => p.bytes.length

end ApiDocs.Text
