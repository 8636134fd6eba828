import ApiGateway.Proofs.Http.Readable

/-!
# Headers that were written

What a header map has under each name after fields were replaced, added or removed. A text takes the
place of all values of its name, and one that is no header value changes nothing; other names keep
theirs in any case.
-/

namespace ApiGateway
namespace Headers

section Writing

variable (h : Headers)
variable (n : HeaderName)
variable {s : String}

theorem getAll_setText
    (m : HeaderName)
    (hs : (HeaderValue.ofText? s).isSome) :
    (h.setText m s).getAll n = if m = n then [Bytes.ofText s] else h.getAll n := by
  obtain ⟨v, hv⟩ := Option.isSome_iff_exists.1 hs
  unfold setText
  rw [hv]
  dsimp only
  rw [getAll_set, HeaderValue.eq_ofText_of_ofText? hv]

theorem getAll_setText_of_ne
    {m n : HeaderName}
    (hne : m ≠ n)
    (s : String) :
    (h.setText m s).getAll n = h.getAll n := by
  unfold setText
  split
  · rw [getAll_set, if_neg hne]
  · rfl

/-- A text that is no header value is not written. -/
theorem setText_of_ofText?_eq_none
    (m : HeaderName)
    (hs : HeaderValue.ofText? s = none) :
    h.setText m s = h := by
  rw [setText, hs]

/-- A text that is written where nothing was is all there is. -/
theorem getAll_setText_of_nil
    {m : HeaderName}
    (hm : h.getAll m = [])
    (s : String) :
    (h.setText m s).getAll n = if m = n then (HeaderValue.ofText? s).toList else h.getAll n := by
  by_cases hmn : m = n
  · subst hmn
    rw [if_pos rfl]
    cases hs : HeaderValue.ofText? s with
    | none => rw [h.setText_of_ofText?_eq_none m hs, hm]; rfl
    | some v => rw [setText, hs]; exact (h.getAll_set m m v).trans (if_pos rfl)
  · rw [if_neg hmn, h.getAll_setText_of_ne hmn]

theorem getAll_foldl_erase (names : List HeaderName) :
    (names.foldl (fun h m => h.erase m) h).getAll n = if n ∈ names then [] else h.getAll n := by
  induction names generalizing h with
  | nil => rfl
  | cons m ms ih =>
      rw [List.foldl_cons, ih, getAll_erase]
      by_cases hmem : n ∈ ms
      · rw [if_pos hmem, if_pos (List.mem_cons_of_mem _ hmem)]
      · rw [if_neg hmem]
        simp only [List.mem_cons, hmem, or_false, eq_comm]

/-- Where fields are set one after another, the last one of a name is left, or the old values. -/
theorem getAll_foldl_set (fields : List (HeaderName × HeaderValue)) :
    (fields.foldl (fun h f => h.set f.1 f.2) h).getAll n =
      match (Headers.getAll ⟨fields⟩ n).getLast? with
      | some v => [v]
      | none => h.getAll n := by
  induction fields generalizing h with
  | nil => rfl
  | cons f fs ih =>
      rw [List.foldl_cons, ih, getAll_set]
      by_cases hf : f.1 = n
      · have hcons : Headers.getAll ⟨f :: fs⟩ n = f.2 :: Headers.getAll ⟨fs⟩ n := by
          simp [getAll, hf]
        rw [hcons, List.getLast?_cons]
        cases (Headers.getAll ⟨fs⟩ n).getLast? with
        | none => exact if_pos hf
        | some v => rfl
      · have hcons : Headers.getAll ⟨f :: fs⟩ n = Headers.getAll ⟨fs⟩ n := by
          simp [getAll, hf]
        rw [hcons, if_neg hf]

theorem getAll_eq_nil_iff : h.getAll n = [] ↔ ∀ f ∈ h.fields, f.1 ≠ n := by
  simp [getAll, List.filter_eq_nil_iff]

theorem contains_iff : h.contains n = true ↔ h.getAll n ≠ [] := by
  rw [contains_eq_isSome, get?, List.isSome_head?]

theorem contains_eq_false_iff : h.contains n = false ↔ h.getAll n = [] := by
  rw [← Bool.not_eq_true, contains_iff, Classical.not_not]

end Writing

theorem text?_congr
    {h h' : Headers}
    {n : HeaderName}
    (hn : h.getAll n = h'.getAll n) :
    h.text? n = h'.text? n := by
  rw [text?, text?, get?, get?, hn]

theorem text?_of_getAll
    {h : Headers}
    {n : HeaderName}
    {v : HeaderValue}
    {vs : List HeaderValue}
    (hn : h.getAll n = v :: vs) :
    h.text? n = v.text? := by
  rw [text?, get?, hn]
  rfl

theorem contains_congr
    {h h' : Headers}
    {n : HeaderName}
    (hn : h.getAll n = h'.getAll n) :
    h.contains n = h'.contains n := by
  rw [Bool.eq_iff_iff, contains_iff, contains_iff, hn]

end Headers
end ApiGateway
