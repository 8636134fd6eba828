import ApiGateway.Text.Bytes

/-!
# The bytes of texts

A text is read back from its own bytes, so texts with the same bytes are the same; and a text of
ASCII characters has one byte for each of them.
-/

namespace ApiGateway
namespace Bytes

/-- The list that is built back to front from a place on is the rest of the array. -/
theorem toList_loop
    (bs : ByteArray)
    (i : Nat)
    (r : List UInt8) :
    ByteArray.toList.loop bs i r = r.reverse ++ bs.data.toList.drop i := by
  fun_induction ByteArray.toList.loop bs i r with
  | case1 i r h ih =>
      have hget : bs.get! i = bs.data.toList[i] := getElem!_pos bs.data i h
      have hdrop : bs.data.toList.drop i = bs.data.toList[i] :: bs.data.toList.drop (i + 1) :=
        List.drop_eq_getElem_cons h
      rw [ih, hdrop, ← hget, List.reverse_cons, List.append_assoc]
      rfl
  | case2 i r h =>
      rw [List.drop_of_length_le (by exact Nat.le_of_not_lt h), List.append_nil]

theorem toList_eq (bs : ByteArray) : bs.toList = bs.data.toList := by
  rw [ByteArray.toList, toList_loop]
  rfl

/-- A text is what its bytes say. -/
@[simp] theorem text?_ofText (s : String) : text? (ofText s) = some s := by
  have hbytes : (⟨(ofText s).toArray⟩ : ByteArray) = s.toByteArray := by
    rw [ofText, toList_eq, Array.toArray_toList]
    rfl
  rw [text?, hbytes, String.fromUTF8?, dif_pos s.isValidUTF8]
  rfl

theorem ofText_injective {s t : String} (h : ofText s = ofText t) : s = t := by
  have htext := congrArg text? h
  rw [text?_ofText, text?_ofText] at htext
  exact Option.some.inj htext

/-- The bytes of a text are those of its characters, one after another. -/
theorem ofText_ofList (cs : List Char) :
    ofText (String.ofList cs) = cs.flatMap String.utf8EncodeChar := by
  rw [ofText, toList_eq, String.toUTF8_eq_toByteArray, String.toByteArray_ofList,
    List.utf8Encode, List.toList_data_toByteArray]

/-- The bytes of characters that need one byte each. -/
def ofAscii (cs : List Char) : Bytes :=
  cs.map fun c => UInt8.ofNat c.toNat

/-- An ASCII text is written with one byte for each character. -/
theorem ofText_ofList_of_ascii
    {cs : List Char}
    (h : ∀ c ∈ cs, c.toNat < 128) :
    ofText (String.ofList cs) = ofAscii cs := by
  rw [ofText_ofList]
  induction cs with
  | nil => rfl
  | cons c cs ih =>
      obtain ⟨hc, hcs⟩ := List.forall_mem_cons.1 h
      have hsize : c.utf8Size = 1 := by
        rw [Char.utf8Size, if_pos]
        exact UInt32.le_iff_toNat_le.2 (Nat.le_of_lt_succ hc)
      rw [List.flatMap_cons, String.utf8EncodeChar_eq_singleton hsize, ih hcs]
      rfl

/-- Only an ASCII character is written with an ASCII byte, and this byte is its number. -/
theorem toNat_eq_of_mem_utf8EncodeChar
    {c : Char}
    {b : UInt8}
    (h : b ∈ String.utf8EncodeChar c)
    (hb : b.toNat < 128) :
    c.toNat = b.toNat := by
  simp only [String.utf8EncodeChar] at h
  simp only [Char.toNat]
  split at h
  · obtain rfl := List.mem_singleton.1 h
    rw [UInt8.toNat_ofNat', Nat.mod_eq_of_lt (by omega)]
  · split at h
    · simp only [List.mem_cons, List.not_mem_nil, or_false] at h
      rcases h with rfl | rfl <;> rw [UInt8.toNat_ofNat'] at hb <;> omega
    · split at h
      · simp only [List.mem_cons, List.not_mem_nil, or_false] at h
        rcases h with rfl | rfl | rfl <;> rw [UInt8.toNat_ofNat'] at hb <;> omega
      · simp only [List.mem_cons, List.not_mem_nil, or_false] at h
        rcases h with rfl | rfl | rfl | rfl <;> rw [UInt8.toNat_ofNat'] at hb <;> omega

/-- An ASCII byte is among those of a text only if its character is in the text. -/
theorem mem_of_mem_flatMap_utf8EncodeChar
    {cs : List Char}
    (mark : Char)
    (hmark : mark.toNat < 128)
    (h : UInt8.ofNat mark.toNat ∈ cs.flatMap String.utf8EncodeChar) :
    mark ∈ cs := by
  obtain ⟨c, hc, hb⟩ := List.mem_flatMap.1 h
  have hnumber : (UInt8.ofNat mark.toNat).toNat = mark.toNat := by
    rw [UInt8.toNat_ofNat', Nat.mod_eq_of_lt (by omega)]
  have hsame := toNat_eq_of_mem_utf8EncodeChar hb (by omega)
  obtain rfl : c = mark := Char.ext (UInt32.toNat_inj.1 (hsame.trans hnumber))
  exact hc

end Bytes

/-- Letters and digits are ASCII characters in three ranges. -/
theorem Text.toNat_cases_of_isAlphanum
    {c : Char}
    (h : c.isAlphanum = true) :
    (0x41 ≤ c.toNat ∧ c.toNat ≤ 0x5A) ∨ (0x61 ≤ c.toNat ∧ c.toNat ≤ 0x7A) ∨
      (0x30 ≤ c.toNat ∧ c.toNat ≤ 0x39) := by
  have hclass : (c.isUpper = true ∨ c.isLower = true) ∨ c.isDigit = true :=
    (Bool.or_eq_true_iff.1 h).imp_left Bool.or_eq_true_iff.1
  rcases hclass with (hupper | hlower) | hdigit
  · exact .inl (of_decide_eq_true hupper)
  · obtain ⟨hlo, hhi⟩ := Bool.and_eq_true_iff.1 hlower
    exact .inr (.inl ⟨of_decide_eq_true hlo, of_decide_eq_true hhi⟩)
  · exact .inr (.inr (Char.isDigit_iff_toNat.1 hdigit))

theorem Text.toNat_of_isAlphanum
    {c : Char}
    (h : c.isAlphanum = true) :
    0x30 ≤ c.toNat ∧ c.toNat ≤ 0x7A := by
  have hclass := toNat_cases_of_isAlphanum h
  omega

end ApiGateway
