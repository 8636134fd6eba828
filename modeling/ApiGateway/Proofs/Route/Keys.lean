import ApiGateway.Proofs.Config.Acceptance
import ApiGateway.Proofs.Route.Paths
import ApiGateway.Proofs.Text.Bytes
import ApiGateway.Proofs.Text.Pieces

/-!
# Where the key of a route ends

The key of a route is its methods and its upstream template. Methods have neither line ends nor
braces, and the braces of a template are closed and not nested, so where a template has line ends
inside its braces only, the key ends before the first line end that is outside braces, whatever is
written behind it.

Main statement: `Route.key_append_inj`.
-/

namespace ApiGateway

namespace Bytes

/--
From a place that is inside braces or not, the line ends are all inside braces, and the end is not.
-/
def IsEnclosed : Bool → Bytes → Prop
  | false, [] => True
  | true, [] => False
  | false, b :: bs => b ≠ 0x0A ∧ IsEnclosed (b = 0x7B) bs
  | true, b :: bs => IsEnclosed (b ≠ 0x7D) bs

/-- Bytes whose line ends are enclosed end before the first line end that is not. -/
theorem IsEnclosed.append_inj
    {inside : Bool}
    {as bs us vs : Bytes}
    (ha : IsEnclosed inside as)
    (hb : IsEnclosed inside bs)
    (h : as ++ 0x0A :: us = bs ++ 0x0A :: vs) :
    as = bs ∧ us = vs := by
  induction as generalizing inside bs with
  | nil =>
      cases inside with
      | true => exact ha.elim
      | false =>
          cases bs with
          | nil => exact ⟨rfl, (List.cons.inj h).2⟩
          | cons b bs => exact absurd (List.cons.inj h).1.symm hb.1
  | cons a as ih =>
      cases bs with
      | nil =>
          cases inside with
          | true => exact hb.elim
          | false => exact absurd (List.cons.inj h).1 ha.1
      | cons b bs =>
          obtain ⟨rfl, hrest⟩ := List.cons.inj h
          cases inside with
          | true =>
              obtain ⟨rfl, hus⟩ := ih ha hb hrest
              exact ⟨rfl, hus⟩
          | false =>
              obtain ⟨rfl, hus⟩ := ih ha.2 hb.2 hrest
              exact ⟨rfl, hus⟩

/-- In front of enclosed line ends there may be bytes that are neither line ends nor braces. -/
theorem IsEnclosed.append_outside
    {as bs : Bytes}
    (hline : 0x0A ∉ as)
    (hbrace : 0x7B ∉ as)
    (h : IsEnclosed false bs) :
    IsEnclosed false (as ++ bs) := by
  induction as with
  | nil => exact h
  | cons a as ih =>
      rw [List.mem_cons, not_or] at hline hbrace
      refine ⟨Ne.symm hline.1, ?_⟩
      rw [decide_eq_false (Ne.symm hbrace.1)]
      exact ih hline.2 hbrace.2

/-- Inside braces there may be all bytes but a closing brace. -/
theorem IsEnclosed.append_inside
    {as bs : Bytes}
    (hbrace : 0x7D ∉ as)
    (h : IsEnclosed true bs) :
    IsEnclosed true (as ++ bs) := by
  induction as with
  | nil => exact h
  | cons a as ih =>
      rw [List.mem_cons, not_or] at hbrace
      show IsEnclosed (decide (a ≠ 0x7D)) (as ++ bs)
      rw [decide_eq_true (Ne.symm hbrace.1)]
      exact ih hbrace.2

end Bytes

namespace Template

/-- The line ends of a template are all in the names of its placeholders. -/
def EnclosesLineEnds (t : Template) : Prop :=
  ∀ text, Segment.literal text ∈ t.segments → '\n' ∉ text.toList

/-- The written form of tight pieces has its line ends in names, if its texts have none. -/
theorem isEnclosed_render
    {segs : List Segment}
    (htight : IsTight segs)
    (hlines : ∀ text, Segment.literal text ∈ segs → '\n' ∉ text.toList) :
    Bytes.IsEnclosed false ((render segs).toList.flatMap String.utf8EncodeChar) := by
  have hbyte : ∀ {cs : List Char} (mark : Char), mark.toNat < 128 → mark ∉ cs →
      UInt8.ofNat mark.toNat ∉ cs.flatMap String.utf8EncodeChar :=
    fun mark hmark hcs hmem => hcs (Bytes.mem_of_mem_flatMap_utf8EncodeChar mark hmark hmem)
  induction segs with
  | nil => trivial
  | cons seg segs ih =>
      have hrest := fun h => ih h fun text ht => hlines text (List.mem_cons_of_mem _ ht)
      rw [render_cons, String.toList_append, List.flatMap_append]
      cases seg with
      | literal text =>
          obtain ⟨_, hplain, _, htight⟩ := htight
          exact (hrest htight).append_outside
            (hbyte '\n' (by decide) (hlines text List.mem_cons_self))
            (hbyte '\x7b' (by decide) hplain.1)
      | placeholder name =>
          obtain ⟨hname, htight⟩ := htight
          rw [toList_render_placeholder, List.flatMap_cons, List.flatMap_append, List.append_assoc,
            List.append_assoc]
          have hclosed : Bytes.IsEnclosed true
              (0x7D :: (render segs).toList.flatMap String.utf8EncodeChar) :=
            hrest htight
          have hinside := hclosed.append_inside (hbyte '\x7d' (by decide) hname.plain.2)
          exact ⟨by decide, hinside⟩

/-- The text of a template that was read has its line ends inside braces, if its names do. -/
theorem isEnclosed_of_compile
    {s : String}
    {t : Template}
    (h : compile s = .ok t)
    (hlines : t.EnclosesLineEnds) :
    t.text = s ∧ Bytes.IsEnclosed false (Bytes.ofText s) := by
  obtain ⟨htext, hsegments⟩ := compile_eq_ok_iff.1 h
  obtain ⟨htight, hwritten⟩ := tokenize_eq_ok_iff.1 hsegments
  refine ⟨htext, ?_⟩
  rw [← hwritten, ← String.ofList_toList (s := render t.segments), Bytes.ofText_ofList]
  exact isEnclosed_render htight hlines

end Template

namespace Route

theorem mem_distinctMethods_iff
    {methods : List Method}
    {m : Method} :
    m ∈ distinctMethods methods ↔ m ∈ methods := by
  refine (mem_foldl_new_iff (f := id)).trans ?_
  constructor
  · rintro (h | ⟨_, hm, rfl⟩)
    · cases h
    · exact hm
  · exact fun hm => .inr ⟨m, hm, rfl⟩

/-- The methods of a route were read. -/
theorem exists_parseMethod_of_mem
    {c : Config.Route}
    {m : Method}
    (h : m ∈ c.methods) :
    ∃ s, parseMethod s = .ok m := by
  obtain ⟨s, _, hs⟩ := List.mem_filterMap.1 (mem_distinctMethods_iff.1 h)
  cases hparse : parseMethod s with
  | error e =>
      rw [hparse] at hs
      cases hs
  | ok m' =>
      rw [hparse] at hs
      cases hs
      exact ⟨s, hparse⟩

/-- A method that was read is in capitals, and made of the characters of methods. -/
theorem of_parseMethod
    {s : String}
    {m : Method}
    (h : parseMethod s = .ok m) :
    m.text = Text.asciiUpper (Text.trim s) ∧ ∀ c ∈ m.text.toList, isTokenChar c = true := by
  delta parseMethod at h
  cases hm : Method.ofText? (Text.asciiUpper (Text.trim s)) with
  | none =>
      rw [hm] at h
      cases h
  | some m' =>
      rw [hm] at h
      obtain ⟨htext, hchars⟩ := Method.of_ofText? hm
      obtain rfl := Except.ok.inj h
      exact ⟨htext, htext ▸ hchars⟩

/-- Methods in their order, with commas between them, have the characters of methods and commas. -/
theorem isTokenChar_of_mem_intercalate
    {methods : List Method}
    (h : ∀ m ∈ methods, ∀ c ∈ m.text.toList, isTokenChar c = true)
    {c : Char}
    (hc : c ∈ (String.intercalate ","
      ((methods.map (·.text)).mergeSort fun a b => decide (a ≤ b))).toList) :
    isTokenChar c = true ∨ c = ',' := by
  rw [String.toList_intercalate] at hc
  rcases Text.mem_of_mem_intercalate hc with hc | ⟨cs, hcs, hc⟩
  · exact .inr (List.mem_singleton.1 hc)
  · obtain ⟨text, htext, rfl⟩ := List.mem_map.1 hcs
    obtain ⟨m, hm, rfl⟩ := List.mem_map.1 (List.mem_mergeSort.1 htext)
    exact .inl (h m hm c hc)

/-- The key of a route is the text of its template behind characters that end no line. -/
theorem exists_front_of_keyOf
    {methods : List Method}
    (h : ∀ m ∈ methods, ∀ c ∈ m.text.toList, isTokenChar c = true)
    (template : String) :
    ∃ front : List Char, keyOf methods template = String.ofList front ++ template ∧
      '\n' ∉ front ∧ '\x7b' ∉ front := by
  unfold keyOf
  split
  · exact ⟨['*', '|'], rfl, by decide, by decide⟩
  have hchars : ∀ c ∈ (String.intercalate ","
      ((methods.map (·.text)).mergeSort fun a b => decide (a ≤ b)) ++ "|").toList,
      isTokenChar c = true ∨ c = ',' := by
    intro c hc
    rw [String.toList_append, List.mem_append] at hc
    rcases hc with hc | hc
    · exact isTokenChar_of_mem_intercalate h hc
    · exact .inl (List.mem_singleton.1 hc ▸ by decide)
  refine ⟨_, by rw [String.ofList_toList], ?_, ?_⟩ <;>
    intro hmem <;>
    rcases hchars _ hmem with h | h <;>
    revert h <;>
    decide

/-- A compiled route whose template begins with a slash and has line ends inside braces only. -/
structure HasEnclosedKey (r : Route) : Prop where
  compiled : ∃ generation global c, Route.compile generation global c = .ok r
  rooted : IsRooted r.upstream.text
  enclosed : r.upstream.EnclosesLineEnds

theorem HasEnclosedKey.isEnclosed
    {r : Route}
    (h : r.HasEnclosedKey) :
    Bytes.IsEnclosed false (Bytes.ofText r.key) := by
  obtain ⟨generation, global, c, hcompile⟩ := h.compiled
  have hkey := key_of_compile hcompile
  have hmethods : ∀ m ∈ c.methods, ∀ c ∈ m.text.toList, isTokenChar c = true := by
    intro m hm
    obtain ⟨s, hs⟩ := exists_parseMethod_of_mem hm
    exact (of_parseMethod hs).2
  obtain ⟨front, hfront, hline, hbrace⟩ := exists_front_of_keyOf hmethods c.upstreamPathTemplate
  have hupstream : ∃ t, Template.compile c.upstreamPathTemplate = .ok t ∧ r.upstream = t := by
    obtain ⟨t, _, _, _, _, _, _, _, ht, _, _, rfl⟩ := exists_of_compile hcompile
    exact ⟨t, ht, rfl⟩
  obtain ⟨t, ht, hrt⟩ := hupstream
  have htemplate := (Template.isEnclosed_of_compile ht (hrt ▸ h.enclosed)).2
  have hbytes : Bytes.ofText r.key =
      front.flatMap String.utf8EncodeChar ++ Bytes.ofText c.upstreamPathTemplate := by
    rw [hkey, Config.Route.key, hfront, ← String.ofList_toList (s := c.upstreamPathTemplate),
      ← String.ofList_append, Bytes.ofText_ofList, Bytes.ofText_ofList, List.flatMap_append]
  rw [hbytes]
  exact htemplate.append_outside
    (fun hmem => hline (Bytes.mem_of_mem_flatMap_utf8EncodeChar '\n' (by decide) hmem))
    (fun hmem => hbrace (Bytes.mem_of_mem_flatMap_utf8EncodeChar '\x7b' (by decide) hmem))

/-- Keys of routes in front of line ends are told apart, whatever follows. -/
theorem key_append_inj
    {r r' : Route}
    (hr : r.HasEnclosedKey)
    (hr' : r'.HasEnclosedKey)
    {us vs : Bytes}
    (h : Bytes.ofText r.key ++ 0x0A :: us = Bytes.ofText r'.key ++ 0x0A :: vs) :
    r.key = r'.key ∧ us = vs := by
  obtain ⟨hkey, hrest⟩ := hr.isEnclosed.append_inj hr'.isEnclosed h
  exact ⟨Bytes.ofText_injective hkey, hrest⟩

end Route
end ApiGateway
