import ApiGateway.Proofs.Text.Bytes
import ApiGateway.Text.Percent

/-!
# Encoded texts

What is percent-encoded is read back as it was, byte by byte, and it has none of the marks that
give a query its shape.
-/

namespace ApiGateway
namespace Percent

/-- What holds of all bytes that two hexadecimal digits make holds of every byte. -/
theorem forall_byte
    {P : UInt8 → Prop}
    (h : ∀ hi < 16, ∀ lo < 16, P (UInt8.ofNat (16 * hi + lo)))
    (b : UInt8) :
    P b := by
  have hlt : b.toNat < 256 := b.toNat_lt
  have hb := h (b.toNat / 16) (by omega) (b.toNat % 16) (by omega)
  rwa [Nat.div_add_mod, UInt8.ofNat_toNat] at hb

/-- The marks of a query: between its parameters, between a name and its value, and in front. -/
def isMark (c : Char) : Bool :=
  c == '&' || c == '=' || c == '?'

/-- Every byte is written with ASCII characters that are no marks. -/
theorem encodeByte_plain
    {b : UInt8}
    {c : Char}
    (h : c ∈ encodeByte b) :
    c.toNat < 128 ∧ isMark c = false := by
  have hall : ∀ b, (encodeByte b).all (fun c => c.toNat < 128 ∧ isMark c = false) = true :=
    forall_byte (by decide +kernel)
  exact of_decide_eq_true (List.all_eq_true.1 (hall b) c h)

theorem encodeBytes_plain
    {bs : Bytes}
    {c : Char}
    (h : c ∈ encodeBytes bs) :
    c.toNat < 128 ∧ isMark c = false := by
  obtain ⟨b, _, hc⟩ := List.mem_flatMap.1 h
  exact encodeByte_plain hc

/-- An encoded text has no mark. -/
theorem isMark_of_mem_encode
    {s : String}
    {c : Char}
    (h : c ∈ (encode s).toList) :
    isMark c = false := by
  rw [encode, String.toList_ofList] at h
  exact (encodeBytes_plain h).2

/-- No fragment starts in an encoded text. -/
theorem hash_notMem_encode (s : String) : '#' ∉ (encode s).toList := by
  have hall : ∀ b, (encodeByte b).contains '#' = false := forall_byte (by decide +kernel)
  rw [encode, String.toList_ofList, encodeBytes, List.mem_flatMap]
  rintro ⟨b, _, h⟩
  simpa [h] using hall b

/-- A capital digit is read as what it was written for. -/
theorem hexValue?_hexCapital
    {n : Nat}
    (h : n < 16) :
    Bytes.hexValue? (Char.ofNat (UInt8.ofNat (hexCapital n).toNat).toNat) = some n := by
  have hall : ∀ n < 16,
      Bytes.hexValue? (Char.ofNat (UInt8.ofNat (hexCapital n).toNat).toNat) = some n := by
    decide
  exact hall n h

/-- Apart from a percent sign, a byte stands for itself. -/
theorem decodeBytes_cons_of_ne
    {b : UInt8}
    (h : b ≠ 0x25)
    (bs : Bytes) :
    decodeBytes (b :: bs) = b :: decodeBytes bs := by
  rw [decodeBytes]
  rintro hi lo rest rfl
  exact absurd rfl h

/-- An encoded byte is read back, whatever follows it. -/
theorem decodeBytes_encodeByte
    (b : UInt8)
    (bs : Bytes) :
    decodeBytes (Bytes.ofAscii (encodeByte b) ++ bs) = b :: decodeBytes bs := by
  by_cases hb : isUnreserved b = true
  · have hself : ∀ b, isUnreserved b = true → Bytes.ofAscii (encodeByte b) = [b] ∧ b ≠ 0x25 :=
      forall_byte (by decide +kernel)
    obtain ⟨hbyte, hne⟩ := hself b hb
    rw [hbyte, List.singleton_append, decodeBytes_cons_of_ne hne]
  · have hlt : b.toNat < 256 := b.toNat_lt
    have hhi : b.toNat / 16 < 16 := by omega
    have hlo : b.toNat % 16 < 16 := by omega
    have hvalue : 16 * (b.toNat / 16) + b.toNat % 16 = b.toNat := by omega
    rw [encodeByte, if_neg hb]
    simp only [Bytes.ofAscii, List.map_cons, List.map_nil, List.cons_append, List.nil_append]
    rw [show UInt8.ofNat ('%').toNat = 0x25 from rfl, decodeBytes, hexValue?_hexCapital hhi,
      hexValue?_hexCapital hlo]
    simp only [hvalue, UInt8.ofNat_toNat]

theorem decodeBytes_encodeBytes (bs : Bytes) :
    decodeBytes (Bytes.ofAscii (encodeBytes bs)) = bs := by
  induction bs with
  | nil => rfl
  | cons b bs ih =>
      have hcons : Bytes.ofAscii (encodeBytes (b :: bs)) =
          Bytes.ofAscii (encodeByte b) ++ Bytes.ofAscii (encodeBytes bs) :=
        List.map_append
      rw [hcons, decodeBytes_encodeByte, ih]

/-- An encoded text is read back as it was. -/
@[simp] theorem decode?_encode (s : String) : decode? (encode s) = some s := by
  rw [decode?, encode, Bytes.ofText_ofList_of_ascii fun c hc => (encodeBytes_plain hc).1,
    decodeBytes_encodeBytes, Bytes.text?_ofText]

theorem encode_injective {s t : String} (h : encode s = encode t) : s = t := by
  have hdecoded := congrArg decode? h
  rw [decode?_encode, decode?_encode] at hdecoded
  exact Option.some.inj hdecoded

end Percent
end ApiGateway
