import ApiGateway.Text.Blank

/-!
# Pieces of a text

Splitting a text at a mark undoes the joining of pieces that do not have the mark themselves.
-/

namespace ApiGateway
namespace Text

section

variable {p : Char → Bool}

/-- A mark ends the pieces in front of it. -/
theorem splitWhere_append_mark
    {mark : Char}
    (hmark : p mark = true)
    (cs ds : List Char) :
    splitWhere p (cs ++ mark :: ds) = splitWhere p cs ++ splitWhere p ds := by
  induction cs with
  | nil =>
      simp only [List.nil_append, splitWhere, hmark, if_true, List.singleton_append]
  | cons c cs ih =>
      obtain ⟨w, ws, hcs⟩ := List.exists_cons_of_ne_nil (splitWhere_ne_nil p cs)
      by_cases hc : p c = true <;> simp [splitWhere, hc, ih, hcs]

/-- A text without marks is one piece. -/
theorem splitWhere_eq_singleton
    {cs : List Char}
    (h : ∀ c ∈ cs, p c = false) :
    splitWhere p cs = [cs] := by
  induction cs with
  | nil => rfl
  | cons c cs ih =>
      obtain ⟨hc, hcs⟩ := List.forall_mem_cons.1 h
      simp [splitWhere, hc, ih hcs]

/-- No piece has a mark. -/
theorem not_of_mem_splitWhere
    {cs w : List Char}
    (h : w ∈ splitWhere p cs) :
    ∀ c ∈ w, p c = false := by
  induction cs generalizing w with
  | nil =>
      obtain rfl := List.mem_singleton.1 h
      exact List.forall_mem_nil _
  | cons c cs ih =>
      obtain ⟨v, vs, hcs⟩ := List.exists_cons_of_ne_nil (splitWhere_ne_nil p cs)
      rw [hcs] at ih
      by_cases hc : p c = true
      · simp only [splitWhere, hc, if_true, hcs] at h
        rcases List.mem_cons.1 h with rfl | h
        · exact List.forall_mem_nil _
        · exact ih h
      · simp only [splitWhere, hc, hcs] at h
        rcases List.mem_cons.1 h with rfl | h
        · exact List.forall_mem_cons.2 ⟨eq_false_of_ne_true hc, ih List.mem_cons_self⟩
        · exact ih (List.mem_cons_of_mem _ h)

/-- What is in a piece of a text is in the text. -/
theorem mem_of_mem_splitWhere
    {cs w : List Char}
    (h : w ∈ splitWhere p cs)
    {c : Char}
    (hc : c ∈ w) :
    c ∈ cs := by
  induction cs generalizing w with
  | nil =>
      obtain rfl := List.mem_singleton.1 h
      exact hc
  | cons d cs ih =>
      obtain ⟨v, vs, hcs⟩ := List.exists_cons_of_ne_nil (splitWhere_ne_nil p cs)
      rw [hcs] at ih
      by_cases hd : p d = true
      · simp only [splitWhere, hd, if_true, hcs] at h
        rcases List.mem_cons.1 h with rfl | h
        · cases hc
        · exact List.mem_cons_of_mem _ (ih h hc)
      · simp only [splitWhere, hd, hcs] at h
        rcases List.mem_cons.1 h with rfl | h
        · rcases List.mem_cons.1 hc with rfl | hc
          · exact List.mem_cons_self
          · exact List.mem_cons_of_mem _ (ih List.mem_cons_self hc)
        · exact List.mem_cons_of_mem _ (ih (List.mem_cons_of_mem _ h) hc)

/-- There is one piece more than there are marks. -/
theorem length_splitWhere (cs : List Char) : (splitWhere p cs).length = cs.countP p + 1 := by
  induction cs with
  | nil => rfl
  | cons c cs ih =>
      obtain ⟨w, ws, hcs⟩ := List.exists_cons_of_ne_nil (splitWhere_ne_nil p cs)
      by_cases hc : p c = true
      · rw [splitWhere, if_pos hc, List.length_cons, ih, List.countP_cons_of_pos hc]
      · rw [splitWhere, if_neg hc, List.countP_cons_of_neg hc, ← ih, hcs, List.length_cons,
          List.length_cons]

/-- What is in a text is a mark or in a piece of it. -/
theorem mem_splitWhere_of_mem
    {cs : List Char}
    {c : Char}
    (h : c ∈ cs) :
    p c = true ∨ ∃ w ∈ splitWhere p cs, c ∈ w := by
  induction cs with
  | nil => cases h
  | cons d cs ih =>
      obtain ⟨w, ws, hcs⟩ := List.exists_cons_of_ne_nil (splitWhere_ne_nil p cs)
      by_cases hd : p d = true
      · rw [splitWhere, if_pos hd]
        rcases List.mem_cons.1 h with rfl | h
        · exact .inl hd
        · rcases ih h with hc | ⟨v, hv, hc⟩
          · exact .inl hc
          · exact .inr ⟨v, List.mem_cons_of_mem _ hv, hc⟩
      · rw [splitWhere, if_neg hd]
        rw [hcs] at ih ⊢
        rcases List.mem_cons.1 h with rfl | h
        · exact .inr ⟨_, List.mem_cons_self, List.mem_cons_self⟩
        · rcases ih h with hc | ⟨v, hv, hc⟩
          · exact .inl hc
          · rcases List.mem_cons.1 hv with rfl | hv
            · exact .inr ⟨_, List.mem_cons_self, List.mem_cons_of_mem _ hc⟩
            · exact .inr ⟨v, List.mem_cons_of_mem _ hv, hc⟩

/-- Texts that are joined at a mark are split one by one. -/
theorem splitWhere_intercalate
    {mark : Char}
    (hmark : p mark = true)
    {ws : List (List Char)}
    (hne : ws ≠ []) :
    splitWhere p ([mark].intercalate ws) = ws.flatMap (splitWhere p) := by
  induction ws with
  | nil => exact absurd rfl hne
  | cons w ws ih =>
      cases ws with
      | nil => rw [List.intercalate_singleton, List.flatMap_singleton]
      | cons v vs =>
          rw [List.intercalate_cons_cons, List.append_assoc, List.singleton_append,
            splitWhere_append_mark hmark, ih nofun]
          rfl

/-- Texts without marks are their own pieces. -/
theorem flatMap_splitWhere_eq_self
    {ws : List (List Char)}
    (h : ∀ w ∈ ws, ∀ c ∈ w, p c = false) :
    ws.flatMap (splitWhere p) = ws := by
  induction ws with
  | nil => rfl
  | cons w ws ih =>
      obtain ⟨hw, hws⟩ := List.forall_mem_cons.1 h
      rw [List.flatMap_cons, splitWhere_eq_singleton hw, ih hws, List.singleton_append]

end

/-- What is in rows that are joined is in one of them or in what joins them. -/
theorem mem_of_mem_intercalate
    {α : Type}
    {sep : List α}
    {rows : List (List α)}
    {a : α}
    (h : a ∈ sep.intercalate rows) :
    a ∈ sep ∨ ∃ row ∈ rows, a ∈ row := by
  induction rows with
  | nil => cases h
  | cons row rows ih =>
      cases rows with
      | nil => exact .inr ⟨row, List.mem_cons_self, by simpa using h⟩
      | cons row' rows =>
          rw [List.intercalate_cons_cons, List.mem_append, List.mem_append] at h
          rcases h with (h | h) | h
          · exact .inr ⟨row, List.mem_cons_self, h⟩
          · exact .inl h
          · rcases ih h with h | ⟨r, hr, h⟩
            · exact .inl h
            · exact .inr ⟨r, List.mem_cons_of_mem _ hr, h⟩

/-- What is so of all characters of two texts is so of the texts in a row. -/
theorem forall_mem_append
    {p : Char → Prop}
    {s t : String}
    (hs : ∀ c ∈ s.toList, p c)
    (ht : ∀ c ∈ t.toList, p c) :
    ∀ c ∈ (s ++ t).toList, p c := by
  rw [String.toList_append]
  exact fun c hc => (List.mem_append.1 hc).elim (hs c) (ht c)

/-- What is so of all characters of joined texts and of what joins them is so of the whole. -/
theorem forall_mem_intercalate
    {p : Char → Prop}
    {s : String}
    {ws : List String}
    (hs : ∀ c ∈ s.toList, p c)
    (hws : ∀ w ∈ ws, ∀ c ∈ w.toList, p c) :
    ∀ c ∈ (String.intercalate s ws).toList, p c := by
  rw [String.toList_intercalate]
  intro c hc
  rcases mem_of_mem_intercalate hc with hc | ⟨cs, hcs, hc⟩
  · exact hs c hc
  · obtain ⟨w, hw, rfl⟩ := List.mem_map.1 hcs
    exact hws w hw c hc

section FirstMark

variable {α : Type}
variable [DecidableEq α]
variable {mark : α}
variable {cs : List α}

/-- In front of the first mark. -/
theorem takeWhile_append_mark
    (h : mark ∉ cs)
    (ds : List α) :
    (cs ++ mark :: ds).takeWhile (· ≠ mark) = cs := by
  rw [List.takeWhile_append_of_pos fun c hc => decide_eq_true (ne_of_mem_of_not_mem hc h),
    List.takeWhile_cons_of_neg (by simp), List.append_nil]

/-- From the first mark on. -/
theorem dropWhile_append_mark
    (h : mark ∉ cs)
    (ds : List α) :
    (cs ++ mark :: ds).dropWhile (· ≠ mark) = mark :: ds := by
  rw [List.dropWhile_append_of_pos fun c hc => decide_eq_true (ne_of_mem_of_not_mem hc h),
    List.dropWhile_cons_of_neg (by simp)]

theorem dropWhile_of_notMem (h : mark ∉ cs) : cs.dropWhile (· ≠ mark) = [] := by
  have happend : (cs ++ []).dropWhile (· ≠ mark) = [].dropWhile (· ≠ mark) :=
    List.dropWhile_append_of_pos fun c hc => decide_eq_true (ne_of_mem_of_not_mem hc h)
  rwa [List.append_nil] at happend

/-- Rows that are joined at a mark are told apart if the mark is not in front of it. -/
theorem append_mark_inj
    {cs' ds ds' : List α}
    (h : mark ∉ cs)
    (h' : mark ∉ cs')
    (heq : cs ++ mark :: ds = cs' ++ mark :: ds') :
    cs = cs' ∧ ds = ds' := by
  have hfront := congrArg (List.takeWhile (· ≠ mark)) heq
  have hrest := congrArg (List.dropWhile (· ≠ mark)) heq
  rw [takeWhile_append_mark h, takeWhile_append_mark h'] at hfront
  rw [dropWhile_append_mark h, dropWhile_append_mark h'] at hrest
  exact ⟨hfront, (List.cons.inj hrest).2⟩

end FirstMark

/-- A piece of a text does not have the character at which the text is split. -/
theorem notMem_of_mem_splitAtChar
    {mark : Char}
    {s w : String}
    (h : w ∈ splitAtChar mark s) :
    mark ∉ w.toList := by
  obtain ⟨cs, hcs, rfl⟩ := List.mem_map.1 h
  rw [String.toList_ofList]
  intro hmark
  simpa using not_of_mem_splitWhere hcs mark hmark

/-- Texts without the mark that are joined at it are what the split gives. -/
theorem splitAtChar_intercalate
    {mark : Char}
    {ws : List String}
    (hne : ws ≠ [])
    (h : ∀ w ∈ ws, mark ∉ w.toList) :
    splitAtChar mark (String.intercalate (String.singleton mark) ws) = ws := by
  have hpieces : ∀ cs ∈ ws.map String.toList, ∀ c ∈ cs, (c == mark) = false := by
    intro cs hcs c hc
    obtain ⟨w, hw, rfl⟩ := List.mem_map.1 hcs
    exact beq_false_of_ne fun hcm => h w hw (hcm ▸ hc)
  have hsplit : splitWhere (· == mark) ([mark].intercalate (ws.map String.toList)) =
      (ws.map String.toList).flatMap (splitWhere (· == mark)) :=
    splitWhere_intercalate (p := (· == mark)) (beq_self_eq_true mark) (by simpa using hne)
  rw [splitAtChar, String.toList_intercalate, String.toList_singleton, hsplit,
    flatMap_splitWhere_eq_self hpieces, List.map_map]
  simp

end Text
end ApiGateway
