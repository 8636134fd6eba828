import ApiGateway.Net.Ip
import ApiGateway.Http.Header
import ApiGateway.Proofs.Text.Percent
import ApiGateway.Proofs.Text.Pieces

/-!
# Readable texts in headers

A text of tabs and printable ASCII characters is a header value, and this value is read as the text
that it was. The printed form of every address is such a text.
-/

namespace ApiGateway
namespace HeaderValue

/-- A tab or a printable ASCII character. -/
def IsReadableChar (c : Char) : Prop :=
  c.toNat < 128 ∧ isReadable (UInt8.ofNat c.toNat) = true

instance (c : Char) : Decidable (IsReadableChar c) :=
  inferInstanceAs (Decidable (_ ∧ _))

/-- A text of tabs and printable ASCII characters. -/
def IsReadableText (s : String) : Prop :=
  ∀ c ∈ s.toList, IsReadableChar c

instance (s : String) : Decidable (IsReadableText s) :=
  s.toList.decidableBAll IsReadableChar

section

variable {s t : String}
variable {v : HeaderValue}

theorem IsReadableText.append
    (hs : IsReadableText s)
    (ht : IsReadableText t) :
    IsReadableText (s ++ t) :=
  Text.forall_mem_append hs ht

theorem isReadableText_ofList
    {cs : List Char}
    (h : ∀ c ∈ cs, IsReadableChar c) :
    IsReadableText (String.ofList cs) := by
  unfold IsReadableText
  rwa [String.toList_ofList]

theorem isReadableText_intercalate
    {ws : List String}
    (hsep : IsReadableText s)
    (h : ∀ w ∈ ws, IsReadableText w) :
    IsReadableText (String.intercalate s ws) :=
  Text.forall_mem_intercalate hsep h

/-- A readable byte is that of a readable character, and it may stand in a header value. -/
theorem readable_byte
    {b : UInt8}
    (h : isReadable b = true) :
    IsReadableChar (Char.ofNat b.toNat) ∧
      UInt8.ofNat (Char.ofNat b.toNat).toNat = b ∧
      allows b = true := by
  have hall : ∀ b, isReadable b = true →
      IsReadableChar (Char.ofNat b.toNat) ∧
        UInt8.ofNat (Char.ofNat b.toNat).toNat = b ∧
        allows b = true :=
    Percent.forall_byte (by decide +kernel)
  exact hall b h

theorem ofNat_toNat_of_readable
    {c : Char}
    (h : IsReadableChar c) :
    Char.ofNat (UInt8.ofNat c.toNat).toNat = c := by
  have hlt : c.toNat < 128 := h.1
  rw [UInt8.toNat_ofNat', Nat.mod_eq_of_lt (by omega), Char.ofNat_toNat]

theorem ofText_eq_ofAscii (h : IsReadableText s) : Bytes.ofText s = Bytes.ofAscii s.toList := by
  have hbytes := Bytes.ofText_ofList_of_ascii fun c hc => (h c hc).1
  rwa [String.ofList_toList] at hbytes

/-- The bytes of a readable text are readable. -/
theorem all_isReadable_ofText (h : IsReadableText s) : (Bytes.ofText s).all isReadable = true := by
  rw [ofText_eq_ofAscii h, List.all_eq_true]
  intro b hb
  obtain ⟨c, hc, rfl⟩ := List.mem_map.1 hb
  exact (h c hc).2

/-- A readable text is a header value. -/
theorem ofText?_of_isReadableText (h : IsReadableText s) : ofText? s = some (Bytes.ofText s) := by
  refine if_pos (List.all_eq_true.2 fun b hb => ?_)
  exact (readable_byte (List.all_eq_true.1 (all_isReadable_ofText h) b hb)).2.2

theorem isSome_of_isReadableText (h : IsReadableText s) : (ofText? s).isSome := by
  rw [ofText?_of_isReadableText h]
  rfl

/-- The value of a text is its bytes. -/
theorem eq_ofText_of_ofText? (h : ofText? s = some v) : v = Bytes.ofText s := by
  unfold ofText? ofBytes? at h
  split at h
  · exact (Option.some.inj h).symm
  · cases h

/-- A readable text is read from its bytes. -/
theorem text?_ofText (h : IsReadableText s) : text? (Bytes.ofText s) = some s := by
  have hchars : (Bytes.ofText s).map (fun b => Char.ofNat b.toNat) = s.toList := by
    rw [ofText_eq_ofAscii h, Bytes.ofAscii, List.map_map]
    exact (List.map_congr_left fun c hc => ofNat_toNat_of_readable (h c hc)).trans (List.map_id _)
  rw [text?, if_pos (all_isReadable_ofText h), hchars, String.ofList_toList]

/-- What is read as a text has the bytes of it, and the text is readable. -/
theorem readable_of_text?
    (h : text? v = some s) :
    IsReadableText s ∧ Bytes.ofText s = v := by
  unfold text? at h
  split at h
  · rename_i hall
    cases h
    have hbytes := fun b hb => readable_byte (List.all_eq_true.1 hall b hb)
    have hreadable : ∀ c ∈ v.map (fun b => Char.ofNat b.toNat), IsReadableChar c := by
      intro c hc
      obtain ⟨b, hb, rfl⟩ := List.mem_map.1 hc
      exact (hbytes b hb).1
    refine ⟨isReadableText_ofList hreadable, ?_⟩
    rw [ofText_eq_ofAscii (isReadableText_ofList hreadable), String.toList_ofList, Bytes.ofAscii,
      List.map_map]
    exact (List.map_congr_left fun b hb => (hbytes b hb).2.1).trans (List.map_id v)
  · cases h

end

end HeaderValue

/-- A readable text is read from the field in which it was set. -/
theorem Headers.text?_setText
    (h : Headers)
    (n : HeaderName)
    {s : String}
    (hs : HeaderValue.IsReadableText s) :
    (h.setText n s).text? n = some s := by
  rw [setText, HeaderValue.ofText?_of_isReadableText hs, text?, get?, getAll_set, if_pos rfl,
    List.head?_cons, Option.bind_some, HeaderValue.text?_ofText hs]

namespace IpAddress

open HeaderValue

section Printed

variable {p : Char → Prop}

/-- The digits of a number in a base are digits below it. -/
theorem forall_mem_toDigits
    {base : Nat}
    (hbase : 1 < base)
    (hdigit : ∀ n < base, p n.digitChar)
    (n : Nat) :
    ∀ c ∈ Nat.toDigits base n, p c := by
  induction n using Nat.strongRecOn with
  | ind n ih =>
    intro c hc
    rw [Nat.toDigits_eq_if hbase] at hc
    split at hc
    · rename_i hlt
      rw [List.mem_singleton.1 hc]
      exact hdigit n hlt
    · rename_i hge
      rcases List.mem_append.1 hc with hc | hc
      · exact ih (n / base) (Nat.div_lt_self (by omega) hbase) c hc
      · rw [List.mem_singleton.1 hc]
        exact hdigit _ (Nat.mod_lt _ (by omega))

theorem forall_mem_toString
    (hdigit : ∀ n < 10, p n.digitChar)
    (n : Nat) :
    ∀ c ∈ (toString n).toList, p c := by
  rw [Nat.toString_eq_ofList_toDigits, String.toList_ofList]
  exact forall_mem_toDigits (by decide) hdigit n

variable (hdigit : ∀ n < 16, p n.digitChar)
variable (hdot : p '.')
variable (hcolon : p ':')
include hdigit

include hdot in
theorem forall_mem_dotted (a b c d : UInt8) : ∀ x ∈ (dotted a b c d).toList, p x := by
  have hmark : ∀ x ∈ (toString ".").toList, p x := List.forall_mem_singleton.2 hdot
  have hnumber : ∀ b : UInt8, ∀ x ∈ (toString b.toNat).toList, p x := fun b =>
    forall_mem_toString (fun n hn => hdigit n (by omega)) b.toNat
  exact Text.forall_mem_append (Text.forall_mem_append (Text.forall_mem_append
    (Text.forall_mem_append (Text.forall_mem_append (Text.forall_mem_append
      (hnumber a) hmark) (hnumber b)) hmark) (hnumber c)) hmark) (hnumber d)

include hcolon in
theorem forall_mem_joined (gs : List UInt16) : ∀ x ∈ (joined gs).toList, p x := by
  refine Text.forall_mem_intercalate (List.forall_mem_singleton.2 hcolon) fun w hw => ?_
  obtain ⟨g, _, rfl⟩ := List.mem_map.1 hw
  rw [groupText, String.toList_ofList]
  exact forall_mem_toDigits (by decide) hdigit g.toNat

include hdot hcolon in
/-- The printed form of an address is made of hexadecimal digits, dots and colons. -/
theorem forall_mem_print (ip : IpAddress) : ∀ x ∈ ip.print.toList, p x := by
  have hcolons : ∀ x ∈ "::".toList, p x :=
    List.forall_mem_cons.2 ⟨hcolon, List.forall_mem_singleton.2 hcolon⟩
  have hmapped : ∀ x ∈ "::ffff:".toList, p x := by
    have hf : p 'f' := hdigit 15 (by decide)
    have hfields : "::ffff:".toList = [':', ':', 'f', 'f', 'f', 'f', ':'] := by
      decide
    rw [hfields]
    simp [hf, hcolon]
  unfold print
  split
  · exact forall_mem_dotted hdigit hdot _ _ _ _
  · split
    · exact Text.forall_mem_append hmapped (forall_mem_dotted hdigit hdot _ _ _ _)
    · dsimp only
      split
      · exact forall_mem_joined hdigit hcolon _
      · exact Text.forall_mem_append
          (Text.forall_mem_append (forall_mem_joined hdigit hcolon _) hcolons)
          (forall_mem_joined hdigit hcolon _)

end Printed

theorem isReadableText_toString (n : Nat) : IsReadableText (toString n) :=
  forall_mem_toString (by decide) n

/-- The printed form of an address is a readable text. -/
theorem isReadableText_print (ip : IpAddress) : IsReadableText ip.print :=
  ip.forall_mem_print (by decide) (by decide) (by decide)

end IpAddress
end ApiGateway
