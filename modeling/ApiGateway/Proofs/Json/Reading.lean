import ApiGateway.Json.Printer
import ApiGateway.Json.Reader
import ApiGateway.Proofs.Text.Numerals

/-!
# Printed JSON is read back

What the indented form of a document is read as, whatever stands behind it. Every character of a
text is written as one piece that is read as this character (`exists_piece`); a number ends where
no digit, fraction or exponent follows (`EndsNumber`). The values are read by induction on the
document: blanks in front make no difference, and the length of the written form bounds the nesting.

Main statement: `read?_pretty`.
-/

namespace ApiGateway

/-- A document without values that no record takes. -/
inductive Data.IsPlain : Data → Prop
  | null : IsPlain .null
  | bool (b : Bool) : IsPlain (.bool b)
  | int (n : Int) : IsPlain (.int n)
  | text (s : String) : IsPlain (.text s)
  | list {ds : List Data} : (∀ d ∈ ds, IsPlain d) → IsPlain (.list ds)
  | table {fs : List (String × Data)} : (∀ f ∈ fs, IsPlain f.2) → IsPlain (.table fs)

/-- What is written item by item is read back item by item. -/
theorem Data.mapM_map_eq_some
    {α β : Type}
    {write : α → β}
    {read : β → Option α}
    {xs : List α}
    (h : ∀ x ∈ xs, read (write x) = some x) :
    (xs.map write).mapM read = some xs := by
  induction xs with
  | nil => rfl
  | cons x xs ih =>
      obtain ⟨hx, hxs⟩ := List.forall_mem_cons.1 h
      rw [List.map_cons, List.mapM_cons, hx, ih hxs]
      rfl

namespace Json

section Texts

/-- The digits of a control character that has no letter are those of its number. -/
theorem codeUnit?_of_lt
    {n : Nat}
    (h : n < 0x20) :
    codeUnit? '0' '0' (Bytes.hexDigit (n / 16)) (Bytes.hexDigit (n % 16)) = some n := by
  have hall : ∀ n < 0x20,
      codeUnit? '0' '0' (Bytes.hexDigit (n / 16)) (Bytes.hexDigit (n % 16)) = some n := by
    decide
  exact hall n h

/-- A unit that is not of a pair is a character of its own. -/
theorem joinPieces_unit
    {n : Nat}
    (h : n < 0x20)
    (ps : List TextPiece) :
    joinPieces (.unit n :: ps) = (joinPieces ps).map (Char.ofNat n :: ·) := by
  have hhigh : isHighSurrogate n = false := by
    rw [isHighSurrogate, Bool.and_eq_false_iff]
    exact .inl (decide_eq_false (by omega))
  have hlow : isLowSurrogate n = false := by
    rw [isLowSurrogate, Bool.and_eq_false_iff]
    exact .inl (decide_eq_false (by omega))
  cases ps with
  | nil => simp [joinPieces, hhigh, hlow]
  | cons p ps => cases p <;> simp [joinPieces, hhigh, hlow]

/-- A character that needs no escape is read as itself. -/
theorem readPieces_cons
    {c : Char}
    (hquote : c ≠ '"')
    (hslash : c ≠ '\\')
    (hcontrol : ¬ c.toNat < 0x20)
    (cs : List Char) :
    readPieces (c :: cs) = (readPieces cs).map fun r => (.char c :: r.1, r.2) := by
  rw [readPieces.eq_def]
  split
  · cases ‹_ = []›
  · exact absurd (List.cons.inj ‹_›).1 hquote
  · exact absurd (List.cons.inj ‹_›).1 hslash
  · exact absurd (List.cons.inj ‹_›).1 hslash
  · obtain ⟨rfl, rfl⟩ := List.cons.inj ‹_›
    rw [if_neg (not_or.2 ⟨hcontrol, hslash⟩)]

/-- Each character of a text is read back as one piece. -/
theorem exists_piece (c : Char) :
    ∃ p,
      (∀ cs, readPieces (escape c ++ cs) = (readPieces cs).map fun r => (p :: r.1, r.2)) ∧
      ∀ ps, joinPieces (p :: ps) = (joinPieces ps).map (c :: ·) := by
  by_cases hletter : c ∈ ['"', '\\', '\n', '\r', '\t', '\x08', '\x0c']
  · refine ⟨.char c, fun cs => ?_, fun ps => by simp [joinPieces]⟩
    simp only [List.mem_cons, List.not_mem_nil, or_false] at hletter
    rcases hletter with rfl | rfl | rfl | rfl | rfl | rfl | rfl <;> rfl
  · simp only [List.mem_cons, List.not_mem_nil, or_false, not_or] at hletter
    obtain ⟨hquote, hslash, hn, hr, ht, hb, hf⟩ := hletter
    have hescape : escape c =
        if c.toNat < 0x20 then
          ['\\', 'u', '0', '0', Bytes.hexDigit (c.toNat / 16), Bytes.hexDigit (c.toNat % 16)]
        else [c] := by
      rw [escape, if_neg hquote, if_neg hslash, if_neg hn, if_neg hr, if_neg ht, if_neg hb,
        if_neg hf]
    rw [hescape]
    by_cases hcontrol : c.toNat < 0x20
    · refine ⟨.unit c.toNat, fun cs => ?_, fun ps => ?_⟩
      · rw [if_pos hcontrol]
        simp only [List.cons_append, List.nil_append, readPieces, codeUnit?_of_lt hcontrol]
      · rw [joinPieces_unit hcontrol, Char.ofNat_toNat]
    · refine ⟨.char c, fun cs => ?_, fun ps => by simp [joinPieces]⟩
      rw [if_neg hcontrol]
      exact readPieces_cons hquote hslash hcontrol cs

theorem exists_readPieces (cs rest : List Char) :
    ∃ ps, readPieces (cs.flatMap escape ++ '"' :: rest) = some (ps, rest) ∧
      joinPieces ps = some cs := by
  induction cs with
  | nil => exact ⟨[], by simp [readPieces], by simp [joinPieces]⟩
  | cons c cs ih =>
      obtain ⟨ps, hread, hjoin⟩ := ih
      obtain ⟨p, hpiece, hchar⟩ := exists_piece c
      refine ⟨p :: ps, ?_, ?_⟩
      · rw [List.flatMap_cons, List.append_assoc, hpiece, hread]
        rfl
      · rw [hchar, hjoin]
        rfl

/-- A text is read back from behind its opening quote. -/
theorem readText_flatMap_escape
    (s : String)
    (rest : List Char) :
    readText (s.toList.flatMap escape ++ '"' :: rest) = some (some s, rest) := by
  obtain ⟨ps, hread, hjoin⟩ := exists_readPieces s.toList rest
  rw [readText, hread, Option.map_some, hjoin, Option.map_some, String.ofList_toList]

theorem quoted_append
    (s : String)
    (rest : List Char) :
    quoted s ++ rest = '"' :: (s.toList.flatMap escape ++ '"' :: rest) := by
  simp [quoted]

end Texts

section Numbers

/-- What can stand behind a number: no digit, fraction or exponent. -/
def EndsNumber (rest : List Char) : Prop :=
  ∀ c ∈ rest.head?, c.isDigit = false ∧ c ≠ '.' ∧ c ≠ 'e' ∧ c ≠ 'E'

theorem isDigit_of_mem_toDigits
    {n : Nat}
    {c : Char}
    (h : c ∈ Nat.toDigits 10 n) :
    c.isDigit = true :=
  Nat.isDigit_of_mem_toDigits (by decide) (by decide) h

/-- Every number has a first digit. -/
theorem exists_toDigits (n : Nat) :
    ∃ c cs, Nat.toDigits 10 n = c :: cs ∧ c.isDigit = true := by
  obtain ⟨c, cs, h⟩ := List.exists_cons_of_ne_nil (Nat.toDigits_ne_nil (b := 10) (n := n))
  exact ⟨c, cs, h, isDigit_of_mem_toDigits (h ▸ List.mem_cons_self)⟩

/-- Only zero is written with a zero in front. -/
theorem eq_zero_of_head?_toDigits
    {n : Nat}
    (h : (Nat.toDigits 10 n).head? = some '0') :
    n = 0 := by
  induction n using Nat.strongRecOn with
  | ind n ih =>
    rw [Nat.toDigits_eq_if (by decide)] at h
    split at h
    · exact Nat.digitChar_eq_zero.1 (Option.some.inj h)
    · rename_i hge
      obtain ⟨c, cs, hdigits, _⟩ := exists_toDigits (n / 10)
      have hzero := ih (n / 10) (by omega) (by rw [hdigits] at h ⊢; exact h)
      omega

theorem decimal_ofNat (n : Nat) : decimal (Int.ofNat n) = Nat.toDigits 10 n :=
  Nat.toList_repr

theorem decimal_negSucc (n : Nat) : decimal (Int.negSucc n) = '-' :: Nat.toDigits 10 (n + 1) := by
  rw [decimal, Int.toString_eq_repr, Int.repr_eq_if, if_neg (by omega)]
  simp

section

variable {rest : List Char}
variable (hrest : EndsNumber rest)
include hrest

theorem spanDigits_append
    {ds : List Char}
    (hds : ∀ c ∈ ds, c.isDigit = true) :
    spanDigits (ds ++ rest) = (ds, rest) := by
  rw [spanDigits, List.takeWhile_append_of_pos hds, List.dropWhile_append_of_pos hds]
  cases rest with
  | nil => simp
  | cons c cs =>
      have hc := (hrest c rfl).1
      rw [List.takeWhile_cons_of_neg (by simp [hc]), List.dropWhile_cons_of_neg (by simp [hc]),
        List.append_nil]

theorem readFraction_of_endsNumber : readFraction rest = some ([], rest) := by
  unfold readFraction
  split
  · exact absurd rfl (hrest '.' rfl).2.1
  · rfl

theorem readExponent_of_endsNumber : readExponent rest = some ([], rest) := by
  unfold readExponent
  split
  · rfl
  · obtain ⟨_, _, hlower, hupper⟩ := hrest _ rfl
    rw [if_neg (not_or.2 ⟨hlower, hupper⟩)]

/-- The digits of a number are read back, except that there is no negative zero. -/
theorem readUnsigned_toDigits
    {negative : Bool}
    {n : Nat}
    (hn : negative = true → n ≠ 0) :
    readUnsigned negative (Nat.toDigits 10 n ++ rest) =
      some (.int (if negative then -(n : Int) else n), rest) := by
  have hspan := spanDigits_append hrest fun c (hc : c ∈ Nat.toDigits 10 n) =>
    isDigit_of_mem_toDigits hc
  have hzero : (Nat.toDigits 10 n).head? = some '0' → Nat.toDigits 10 n = ['0'] := by
    intro hhead
    rw [eq_zero_of_head?_toDigits hhead, Nat.toDigits_zero]
  have hsign : ¬ (negative = true ∧ Nat.toDigits 10 n = ['0']) := by
    rintro ⟨hnegative, hdigits⟩
    refine hn hnegative (eq_zero_of_head?_toDigits ?_)
    rw [hdigits]
    rfl
  have hwhole : ¬ ((Nat.toDigits 10 n).isEmpty = true ∨
      ((Nat.toDigits 10 n).head? = some '0' ∧ Nat.toDigits 10 n ≠ ['0'])) := by
    rintro (hempty | ⟨hhead, hne⟩)
    · exact Nat.toDigits_ne_nil (List.isEmpty_iff.1 hempty)
    · exact hne (hzero hhead)
  unfold readUnsigned
  rw [hspan]
  dsimp only
  rw [if_neg hwhole, readFraction_of_endsNumber hrest]
  simp only [Option.bind_eq_bind, Option.bind_some]
  rw [readExponent_of_endsNumber hrest]
  simp only [Option.bind_some]
  rw [if_pos ⟨rfl, rfl, hsign⟩, Text.ofDigits_toDigits]
  rfl

/-- An integer is read back. -/
theorem readNumber_decimal (n : Int) : readNumber (decimal n ++ rest) = some (.int n, rest) := by
  cases n with
  | ofNat n =>
      have hread : readUnsigned false (Nat.toDigits 10 n ++ rest) = some (.int n, rest) :=
        readUnsigned_toDigits hrest nofun
      have hfirst : ∀ cs, Nat.toDigits 10 n ++ rest ≠ '-' :: cs := by
        intro cs heq
        obtain ⟨c, ds, hdigits, hc⟩ := exists_toDigits n
        rw [hdigits] at heq
        obtain ⟨rfl, -⟩ := List.cons.inj heq
        exact absurd hc (by decide)
      rw [decimal_ofNat]
      unfold readNumber
      split
      · exact absurd ‹_› (hfirst _)
      · exact hread
  | negSucc n =>
      have hread : readUnsigned true (Nat.toDigits 10 (n + 1) ++ rest) =
          some (.int (-((n + 1 : Nat) : Int)), rest) :=
        readUnsigned_toDigits hrest fun _ => Nat.succ_ne_zero n
      rw [decimal_negSucc, List.cons_append, readNumber, hread, Int.negSucc_eq]
      rfl

end

/-- What an integer begins with. -/
def StartsNumber (c : Char) : Prop := c = '-' ∨ c.isDigit = true

theorem exists_decimal (n : Int) : ∃ c cs, decimal n = c :: cs ∧ StartsNumber c := by
  cases n with
  | ofNat n =>
      obtain ⟨c, cs, hdigits, hc⟩ := exists_toDigits n
      exact ⟨c, cs, (decimal_ofNat n).trans hdigits, .inr hc⟩
  | negSucc n => exact ⟨'-', _, decimal_negSucc n, .inl rfl⟩

/-- A number begins with no other token of the format. -/
theorem ne_of_startsNumber
    {c : Char}
    (hc : StartsNumber c) :
    isSpace c = false ∧ c ≠ ']' ∧ c ≠ '"' ∧ c ≠ '[' ∧ c ≠ '\x7b' ∧ c ≠ 'n' ∧ c ≠ 't' ∧ c ≠ 'f' := by
  rcases hc with rfl | hdigit
  · decide
  · refine ⟨?_, ?_, ?_, ?_, ?_, ?_, ?_, ?_⟩
    · simp only [isSpace, Bool.or_eq_false_iff, beq_eq_false_iff_ne]
      refine ⟨⟨⟨?_, ?_⟩, ?_⟩, ?_⟩ <;> (rintro rfl; exact absurd hdigit (by decide))
    all_goals (rintro rfl; exact absurd hdigit (by decide))

theorem readValue_of_startsNumber
    {c : Char}
    (hc : StartsNumber c)
    (fuel : Nat)
    (cs : List Char) :
    readValue (fuel + 1) (c :: cs) = readNumber (c :: cs) := by
  obtain ⟨hspace, -, hquote, hlist, htable, hn, ht, hf⟩ := ne_of_startsNumber hc
  rw [readValue, skipSpace, List.dropWhile_cons_of_neg (by simp [hspace])]
  split
  · exact absurd (List.cons.inj ‹_›).1 hquote
  · exact absurd (List.cons.inj ‹_›).1 hlist
  · exact absurd (List.cons.inj ‹_›).1 htable
  · exact absurd (List.cons.inj ‹_›).1 hn
  · exact absurd (List.cons.inj ‹_›).1 ht
  · exact absurd (List.cons.inj ‹_›).1 hf
  · rfl

end Numbers

section Blanks

/-- Blanks in front of a text are passed over. -/
theorem skipSpace_append
    {ws : List Char}
    (hws : ∀ c ∈ ws, isSpace c = true)
    (cs : List Char) :
    skipSpace (ws ++ cs) = skipSpace cs :=
  List.dropWhile_append_of_pos hws

theorem skipSpace_cons
    {c : Char}
    (hc : isSpace c = false)
    (cs : List Char) :
    skipSpace (c :: cs) = c :: cs :=
  List.dropWhile_cons_of_neg (by simp [hc])

theorem isSpace_of_mem_newLine
    {level : Nat}
    {c : Char}
    (h : c ∈ newLine level) :
    isSpace c = true := by
  rw [newLine, List.mem_cons, List.mem_replicate] at h
  rcases h with rfl | ⟨_, rfl⟩ <;> decide

theorem skipSpace_newLine_append (level : Nat) (cs : List Char) :
    skipSpace (newLine level ++ cs) = skipSpace cs :=
  skipSpace_append (fun _ => isSpace_of_mem_newLine) cs

theorem readValue_newLine_append (fuel level : Nat) (cs : List Char) :
    readValue fuel (newLine level ++ cs) = readValue fuel cs := by
  cases fuel with
  | zero => rw [readValue, readValue]
  | succ fuel => rw [readValue, readValue, skipSpace_newLine_append]

theorem readValue_blank (fuel : Nat) (cs : List Char) :
    readValue fuel (' ' :: cs) = readValue fuel cs := by
  cases fuel with
  | zero => rw [readValue, readValue]
  | succ fuel => rw [readValue, readValue]; rfl

theorem readItems_newLine_append (fuel level : Nat) (cs : List Char) :
    readItems fuel (newLine level ++ cs) = readItems fuel cs := by
  cases fuel with
  | zero => rw [readItems, readItems]
  | succ fuel => rw [readItems, readItems, readValue_newLine_append]

theorem readFields_newLine_append (fuel level : Nat) (cs : List Char) :
    readFields fuel (newLine level ++ cs) = readFields fuel cs := by
  cases fuel with
  | zero => rw [readFields, readFields]
  | succ fuel => rw [readFields, readFields, skipSpace_newLine_append]

end Blanks

section Values

/-- A document is read back at every level, with as much fuel as it is long. -/
def ReadsBack (d : Data) : Prop :=
  ∀ level fuel rest, (prettyChars level d).length ≤ fuel → EndsNumber rest →
    readValue fuel (prettyChars level d ++ rest) = some (d, rest)

/-- A value begins with neither a blank nor the closing bracket of a list. -/
theorem exists_prettyChars
    {d : Data}
    (hd : d.IsPlain)
    (level : Nat) :
    ∃ c cs, prettyChars level d = c :: cs ∧ isSpace c = false ∧ c ≠ ']' := by
  cases hd with
  | null => exact ⟨'n', _, by rw [prettyChars]; rfl, by decide, by decide⟩
  | bool b =>
      cases b with
      | true => exact ⟨'t', _, by rw [prettyChars]; rfl, by decide, by decide⟩
      | false => exact ⟨'f', _, by rw [prettyChars]; rfl, by decide, by decide⟩
  | int n =>
      obtain ⟨c, cs, hdecimal, hc⟩ := exists_decimal n
      refine ⟨c, cs, by rw [prettyChars, hdecimal], ?_⟩
      exact ⟨(ne_of_startsNumber hc).1, (ne_of_startsNumber hc).2.1⟩
  | text s => exact ⟨'"', _, by rw [prettyChars, quoted], by decide, by decide⟩
  | @list ds _ =>
      cases ds with
      | nil => exact ⟨'[', _, by rw [prettyChars], by decide, by decide⟩
      | cons d ds => exact ⟨'[', _, by rw [prettyChars], by decide, by decide⟩
  | @table fs _ =>
      cases fs with
      | nil => exact ⟨'\x7b', _, by rw [prettyChars], by decide, by decide⟩
      | cons f fs => exact ⟨'\x7b', _, by rw [prettyChars], by decide, by decide⟩

section Items

variable (level : Nat)

theorem skipSpace_prettyItems_nil (rest : List Char) :
    skipSpace (prettyItems level [] ++ rest) = ']' :: rest := by
  rw [prettyItems, List.append_assoc, skipSpace_newLine_append]
  exact skipSpace_cons (by decide) rest

theorem skipSpace_prettyItems_cons (d : Data) (ds : List Data) (rest : List Char) :
    skipSpace (prettyItems level (d :: ds) ++ rest) =
      ',' :: (newLine (level + 1) ++
        (prettyChars (level + 1) d ++ (prettyItems level ds ++ rest))) := by
  rw [prettyItems, List.cons_append, skipSpace_cons (by decide)]
  simp only [List.append_assoc]

theorem endsNumber_prettyItems (ds : List Data) (rest : List Char) :
    EndsNumber (prettyItems level ds ++ rest) := by
  cases ds with
  | nil => rintro c ⟨⟩; decide
  | cons d ds => rintro c ⟨⟩; decide

/-- The items of a list are read back up to its closing bracket. -/
theorem readItems_prettyItems
    {d : Data}
    {ds : List Data}
    (hall : ∀ e ∈ d :: ds, ReadsBack e)
    (fuel : Nat)
    (rest : List Char)
    (hfuel : (prettyChars (level + 1) d ++ prettyItems level ds).length ≤ fuel) :
    readItems fuel (prettyChars (level + 1) d ++ (prettyItems level ds ++ rest)) =
      some (d :: ds, rest) := by
  induction ds generalizing d fuel with
  | nil =>
      rw [List.length_append, prettyItems, List.length_append, List.length_singleton] at hfuel
      obtain ⟨fuel, rfl⟩ := Nat.exists_eq_succ_of_ne_zero (n := fuel) (by omega)
      have hread := hall d List.mem_cons_self (level + 1) fuel _ (by omega)
        (endsNumber_prettyItems level [] rest)
      rw [readItems, hread]
      simp only [skipSpace_prettyItems_nil]
  | cons e es ih =>
      rw [List.length_append, prettyItems, List.length_cons, List.length_append] at hfuel
      rw [List.length_append] at hfuel
      obtain ⟨fuel, rfl⟩ := Nat.exists_eq_succ_of_ne_zero (n := fuel) (by omega)
      have hread := hall d List.mem_cons_self (level + 1) fuel _ (by omega)
        (endsNumber_prettyItems level (e :: es) rest)
      have htail := ih (d := e) (fun x hx => hall x (List.mem_cons_of_mem _ hx)) fuel
        (by rw [List.length_append]; omega)
      rw [readItems, hread]
      simp only [skipSpace_prettyItems_cons, readItems_newLine_append, htail, Option.map_some]

theorem readsBack_list
    {ds : List Data}
    (hplain : ∀ d ∈ ds, d.IsPlain)
    (hall : ∀ d ∈ ds, ReadsBack d) :
    ReadsBack (.list ds) := by
  intro level fuel rest hfuel _
  cases ds with
  | nil =>
      rw [prettyChars] at hfuel ⊢
      obtain ⟨fuel, rfl⟩ := Nat.exists_eq_succ_of_ne_zero (n := fuel) (by rintro rfl; cases hfuel)
      rfl
  | cons d ds =>
      rw [prettyChars, List.length_cons, List.append_assoc, List.length_append] at hfuel
      obtain ⟨fuel, rfl⟩ := Nat.exists_eq_succ_of_ne_zero (n := fuel) (by omega)
      obtain ⟨c, cs, hchars, hspace, hc⟩ :=
        exists_prettyChars (hplain d List.mem_cons_self) (level + 1)
      have hitems := readItems_prettyItems level hall fuel rest (by omega)
      have hskip : skipSpace (newLine (level + 1) ++ (prettyChars (level + 1) d ++
          (prettyItems level ds ++ rest))) =
          prettyChars (level + 1) d ++ (prettyItems level ds ++ rest) := by
        rw [skipSpace_newLine_append, hchars]
        exact skipSpace_cons hspace _
      rw [prettyChars, List.cons_append, readValue, skipSpace_cons (by decide)]
      simp only [List.append_assoc, hskip]
      rw [hchars, List.cons_append] at hitems ⊢
      split
      · exact absurd (List.cons.inj ‹_›).1 hc
      · rw [hitems, Option.map_some]

end Items

section Fields

variable (level : Nat)

theorem skipSpace_prettyFields_nil (rest : List Char) :
    skipSpace (prettyFields level [] ++ rest) = '\x7d' :: rest := by
  rw [prettyFields, List.append_assoc, skipSpace_newLine_append]
  exact skipSpace_cons (by decide) rest

theorem skipSpace_prettyFields_cons (f : String × Data) (fs : List (String × Data))
    (rest : List Char) :
    skipSpace (prettyFields level (f :: fs) ++ rest) =
      ',' :: (newLine (level + 1) ++ (quoted f.1 ++ ':' :: ' ' ::
        (prettyChars (level + 1) f.2 ++ (prettyFields level fs ++ rest)))) := by
  rw [prettyFields, List.cons_append, skipSpace_cons (by decide)]
  simp only [List.append_assoc, List.cons_append]

theorem endsNumber_prettyFields (fs : List (String × Data)) (rest : List Char) :
    EndsNumber (prettyFields level fs ++ rest) := by
  cases fs with
  | nil => rintro c ⟨⟩; decide
  | cons f fs => rintro c ⟨⟩; decide

/-- One field: its name, the colon and its value are read, and what stands behind decides. -/
theorem readFields_field
    {k : String}
    {d : Data}
    (hd : ReadsBack d)
    {fuel : Nat}
    {rest cs : List Char}
    {c : Char}
    (hfuel : (prettyChars (level + 1) d).length ≤ fuel)
    (hrest : EndsNumber rest)
    (hskip : skipSpace rest = c :: cs)
    (hc : c = '\x7d' ∨ c = ',') :
    readFields (fuel + 1) (quoted k ++ ':' :: ' ' :: (prettyChars (level + 1) d ++ rest)) =
      if c = '\x7d' then some ([(some k, d)], cs)
      else (readFields fuel cs).map fun r => ((some k, d) :: r.1, r.2) := by
  have hvalue : readValue fuel (' ' :: (prettyChars (level + 1) d ++ rest)) = some (d, rest) := by
    rw [readValue_blank, hd (level + 1) fuel rest hfuel hrest]
  rw [quoted_append, readFields, skipSpace_cons (by decide)]
  simp only [readText_flatMap_escape]
  rw [skipSpace_cons (by decide)]
  simp only [hvalue, hskip]
  rcases hc with rfl | rfl <;> rfl

/-- The fields of a table are read back up to its closing brace. -/
theorem readFields_prettyFields
    {f : String × Data}
    {fs : List (String × Data)}
    (hall : ∀ g ∈ f :: fs, ReadsBack g.2)
    (fuel : Nat)
    (rest : List Char)
    (hfuel : (prettyChars (level + 1) f.2 ++ prettyFields level fs).length ≤ fuel) :
    readFields fuel (quoted f.1 ++ ':' :: ' ' ::
      (prettyChars (level + 1) f.2 ++ (prettyFields level fs ++ rest))) =
      some ((f :: fs).map fun g => (some g.1, g.2), rest) := by
  induction fs generalizing f fuel with
  | nil =>
      rw [List.length_append, prettyFields, List.length_append, List.length_singleton] at hfuel
      obtain ⟨fuel, rfl⟩ := Nat.exists_eq_succ_of_ne_zero (n := fuel) (by omega)
      rw [readFields_field level (hall f List.mem_cons_self) (by omega)
        (endsNumber_prettyFields level [] rest) (skipSpace_prettyFields_nil level rest) (.inl rfl),
        if_pos rfl]
      rfl
  | cons g gs ih =>
      rw [List.length_append, prettyFields, List.length_cons, List.length_append,
        List.length_append, List.length_cons, List.length_cons, List.length_append] at hfuel
      obtain ⟨fuel, rfl⟩ := Nat.exists_eq_succ_of_ne_zero (n := fuel) (by omega)
      have htail := ih (f := g) (fun x hx => hall x (List.mem_cons_of_mem _ hx)) fuel
        (by rw [List.length_append]; omega)
      rw [readFields_field level (hall f List.mem_cons_self) (by omega)
        (endsNumber_prettyFields level (g :: gs) rest) (skipSpace_prettyFields_cons level g gs rest)
        (.inr rfl), if_neg (by decide), readFields_newLine_append, htail]
      rfl

/-- A table whose names are texts is one. -/
theorem table?_map_some (fs : List (String × Data)) :
    table? (fs.map fun f => (some f.1, f.2)) = some (.table fs) := by
  have hnamed : (fs.map fun f => (some f.1, f.2)).mapM
      (fun f : Option String × Data => f.1.map fun k => (k, f.2)) = some fs := by
    exact Data.mapM_map_eq_some fun _ _ => rfl
  rw [table?, hnamed, Option.map_some]

theorem readsBack_table
    {fs : List (String × Data)}
    (hall : ∀ f ∈ fs, ReadsBack f.2) :
    ReadsBack (.table fs) := by
  intro level fuel rest hfuel _
  cases fs with
  | nil =>
      rw [prettyChars] at hfuel ⊢
      obtain ⟨fuel, rfl⟩ := Nat.exists_eq_succ_of_ne_zero (n := fuel) (by rintro rfl; cases hfuel)
      rfl
  | cons f fs =>
      rw [prettyChars, List.length_cons, List.length_append, List.length_append,
        List.length_cons, List.length_cons] at hfuel
      obtain ⟨fuel, rfl⟩ := Nat.exists_eq_succ_of_ne_zero (n := fuel) (by omega)
      have hfields := readFields_prettyFields level hall fuel rest (by omega)
      have hskip : skipSpace (newLine (level + 1) ++ (quoted f.1 ++ ':' :: ' ' ::
          (prettyChars (level + 1) f.2 ++ (prettyFields level fs ++ rest)))) =
          quoted f.1 ++ ':' :: ' ' ::
            (prettyChars (level + 1) f.2 ++ (prettyFields level fs ++ rest)) := by
        rw [skipSpace_newLine_append, quoted_append]
        exact skipSpace_cons (by decide) _
      rw [prettyChars, List.cons_append, readValue, skipSpace_cons (by decide)]
      simp only [List.append_assoc, List.cons_append, hskip]
      rw [quoted_append] at hfields ⊢
      change Option.map _ (readFields fuel _) = _
      rw [hfields, Option.map_some, table?_map_some, Option.getD_some]

end Fields

theorem readsBack_int (n : Int) : ReadsBack (.int n) := by
  intro level fuel rest hfuel hrest
  obtain ⟨c, cs, hdecimal, hc⟩ := exists_decimal n
  rw [prettyChars] at hfuel ⊢
  have hread := readNumber_decimal hrest n
  rw [hdecimal, List.length_cons] at hfuel
  obtain ⟨fuel, rfl⟩ := Nat.exists_eq_succ_of_ne_zero (n := fuel) (by omega)
  rw [hdecimal, List.cons_append] at hread ⊢
  rw [readValue_of_startsNumber hc, hread]

theorem readsBack_text (s : String) : ReadsBack (.text s) := by
  intro level fuel rest hfuel _
  rw [prettyChars] at hfuel ⊢
  obtain ⟨fuel, rfl⟩ := Nat.exists_eq_succ_of_ne_zero (n := fuel) (by rintro rfl; cases hfuel)
  rw [quoted_append, readValue, skipSpace_cons (by decide)]
  simp only [readText_flatMap_escape, Option.map_some, Option.getD_some]

/-- A word is read back as what it is written for. -/
theorem readsBack_word
    {d : Data}
    {c : Char}
    {cs : List Char}
    (hchars : ∀ level, prettyChars level d = c :: cs)
    (hread : ∀ fuel rest, readValue (fuel + 1) (c :: (cs ++ rest)) = some (d, rest)) :
    ReadsBack d := by
  intro level fuel rest hfuel _
  rw [hchars, List.length_cons] at hfuel
  obtain ⟨fuel, rfl⟩ := Nat.exists_eq_succ_of_ne_zero (n := fuel) (by omega)
  rw [hchars, List.cons_append]
  exact hread fuel rest

/-- Every plain document is read back, by induction on the document. -/
theorem readsBack
    {d : Data}
    (hd : d.IsPlain) :
    ReadsBack d := by
  induction hd with
  | null => exact readsBack_word (fun level => by rw [prettyChars]; rfl) fun _ _ => rfl
  | bool b =>
      cases b with
      | true => exact readsBack_word (fun level => by rw [prettyChars]; rfl) fun _ _ => rfl
      | false => exact readsBack_word (fun level => by rw [prettyChars]; rfl) fun _ _ => rfl
  | int n => exact readsBack_int n
  | text s => exact readsBack_text s
  | list hplain ih => exact readsBack_list hplain ih
  | table _ ih => exact readsBack_table ih

/-- The indented form of a plain document denotes the document. -/
theorem read?_pretty
    {d : Data}
    (hd : d.IsPlain) :
    read? (pretty d) = some d := by
  have hread := readsBack hd 0 (2 * (prettyChars 0 d).length + 2) [] (by omega) nofun
  rw [List.append_nil] at hread
  rw [read?, pretty, String.toList_ofList, hread]
  rfl

end Values

end Json
end ApiGateway
