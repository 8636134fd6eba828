import ApiGateway.Discovery.Service
import ApiGateway.Exchange.Outbound
import ApiGateway.Proofs.Http.Readable
import ApiGateway.Proofs.Route.Compilation
import Mathlib.Data.List.TakeWhile
import Mathlib.Data.String.Basic

/-!
# Addresses that are read back

A call is addressed by writing a scheme, an endpoint and a path with its query one behind the other
and reading the whole. What was read as a path with a query is read again in the same way behind an
authority, because it begins with a slash or a question mark and these end an authority, whatever
comes after them; so the endpoint alone decides whether there is an address (`read_web`). A plain
host with a port is an authority as it stands.

Main statement: `read_address`.
-/

namespace ApiGateway

namespace PathAndQuery

/-- A path and a query as they can be read: no mark that would end them is part of them. -/
structure WellFormed (pq : PathAndQuery) : Prop where
  path : ∀ c ∈ pq.path.toList, Uri.isPathChar c = true ∧ c ≠ '?' ∧ c ≠ '#'
  query : ∀ q, pq.query = some q → ∀ c ∈ q.toList, Uri.isQueryChar c = true ∧ c ≠ '#'
  rooted : ∃ cs, pq.path.toList = '/' :: cs

/-- A path with a query, or a query alone, as they can be read behind an authority. -/
structure Readable (pq : PathAndQuery) : Prop where
  path : ∀ c ∈ pq.path.toList, Uri.isPathChar c = true ∧ c ≠ '?' ∧ c ≠ '#'
  query : ∀ q, pq.query = some q → ∀ c ∈ q.toList, Uri.isQueryChar c = true ∧ c ≠ '#'
  front : (∃ cs, pq.path.toList = '/' :: cs) ∨ pq.path = "" ∧ pq.query ≠ none

theorem WellFormed.readable
    {pq : PathAndQuery}
    (h : pq.WellFormed) :
    pq.Readable :=
  ⟨h.path, h.query, .inl h.rooted⟩

/-- The characters of the written form. -/
theorem Readable.toList_text
    {pq : PathAndQuery}
    (h : pq.Readable) :
    pq.text.toList = pq.path.toList ++ (pq.query.elim [] fun q => '?' :: q.toList) := by
  obtain ⟨path, query⟩ := pq
  cases query with
  | some q => simp [text, String.toList_append]
  | none =>
      have hne : path.isEmpty = false := by
        rw [String.isEmpty_eq_false_iff]
        rintro rfl
        rcases h.front with ⟨cs, hcs⟩ | ⟨_, hquery⟩
        · cases hcs
        · exact hquery rfl
      simp [text, hne]

/-- The written form begins with a mark that ends an authority. -/
theorem Readable.endsAuthority_text
    {pq : PathAndQuery}
    (h : pq.Readable) :
    ∀ c ∈ pq.text.toList.head?, Uri.endsAuthority c = true := by
  rw [h.toList_text]
  rcases h.front with ⟨cs, hcs⟩ | ⟨hpath, hquery⟩
  · rw [hcs]
    rintro _ ⟨⟩
    rfl
  · obtain ⟨q, hq⟩ := Option.ne_none_iff_exists'.1 hquery
    rw [hpath, hq]
    rintro _ ⟨⟩
    rfl

end PathAndQuery

namespace Uri

section Paths

/-- The end of a path. -/
theorem not_endsPath_iff
    {c : Char} :
    (c != '?' && c != '#') = true ↔ c ≠ '?' ∧ c ≠ '#' := by
  simp

/-- What is read ends at the first mark, and has the characters of a path and a query. -/
theorem of_readPathAndQuery
    {cs : List Char}
    {pq : PathAndQuery}
    (h : readPathAndQuery cs = .ok pq) :
    pq.path.toList = cs.takeWhile (fun c => c != '?' && c != '#') ∧
    (∀ c ∈ pq.path.toList, isPathChar c = true ∧ c ≠ '?' ∧ c ≠ '#') ∧
    ∀ q, pq.query = some q → ∀ c ∈ q.toList, isQueryChar c = true ∧ c ≠ '#' := by
  unfold readPathAndQuery at h
  dsimp only at h
  split at h
  · cases h
  rename_i hpath
  rw [Bool.not_eq_true, Bool.not_eq_false', List.all_eq_true] at hpath
  have hmarks : ∀ c ∈ cs.takeWhile (fun c => c != '?' && c != '#'),
      isPathChar c = true ∧ c ≠ '?' ∧ c ≠ '#' := by
    intro c hc
    have hend := List.mem_takeWhile_imp (p := fun c => c != '?' && c != '#') hc
    exact ⟨hpath c hc, not_endsPath_iff.1 hend⟩
  split at h
  · rename_i rest _
    split at h
    · cases h
    rename_i hquery
    rw [Bool.not_eq_true, Bool.not_eq_false', List.all_eq_true] at hquery
    cases h
    refine ⟨String.toList_ofList, by simpa using hmarks, ?_⟩
    rintro _ ⟨⟩ c hc
    rw [String.toList_ofList] at hc
    have hend := List.mem_takeWhile_imp hc
    exact ⟨hquery c hc, by simpa using hend⟩
  · cases h
    exact ⟨String.toList_ofList, by simpa using hmarks, nofun⟩

/-- What is read behind a slash can be read. -/
theorem wellFormed_of_readPathAndQuery
    {cs : List Char}
    {pq : PathAndQuery}
    (h : readPathAndQuery ('/' :: cs) = .ok pq) :
    pq.WellFormed := by
  obtain ⟨hpath, hchars, hquery⟩ := of_readPathAndQuery h
  exact ⟨hchars, hquery, _, hpath.trans (List.takeWhile_cons_of_pos rfl)⟩

/-- What can be read is read as it is written. -/
theorem readPathAndQuery_text
    {pq : PathAndQuery}
    (h : pq.Readable) :
    readPathAndQuery pq.text.toList = .ok pq := by
  obtain ⟨path, query⟩ := pq
  have hpath : ∀ c ∈ path.toList, (c != '?' && c != '#') = true :=
    fun c hc => not_endsPath_iff.2 (h.path c hc).2
  have hall : path.toList.all isPathChar = true :=
    List.all_eq_true.2 fun c hc => (h.path c hc).1
  rw [h.toList_text]
  unfold readPathAndQuery
  simp only [List.takeWhile_append_of_pos hpath, List.dropWhile_append_of_pos hpath]
  cases query with
  | none => simp [hall]
  | some q =>
      have hquery : ∀ c ∈ q.toList, (c != '#') = true := by
        intro c hc
        simpa using (h.query q rfl c hc).2
      have hqueryAll : q.toList.all isQueryChar = true :=
        List.all_eq_true.2 fun c hc => (h.query q rfl c hc).1
      have hwhole : q.toList.takeWhile (· != '#') = q.toList := List.takeWhile_eq_self_iff.2 hquery
      simp [hall, hwhole, hqueryAll]

/-- A path with a query is a target as it is written. -/
theorem read_text
    {pq : PathAndQuery}
    (h : pq.WellFormed)
    (hlength : pq.text.utf8ByteSize ≤ maxLength) :
    read pq.text = .ok ⟨none, none, some pq⟩ := by
  have hread := readPathAndQuery_text h.readable
  obtain ⟨cs, hcs⟩ : ∃ cs, pq.text.toList = '/' :: cs := by
    obtain ⟨cs, hcs⟩ := h.rooted
    exact ⟨_, by rw [h.readable.toList_text, hcs, List.cons_append]⟩
  rw [hcs] at hread
  unfold read
  rw [if_neg (Nat.not_lt_of_le hlength), hcs]
  cases cs with
  | nil =>
      cases hread
      rfl
  | cons c cs =>
      simp only [hread]
      rfl

/-- A target that begins with a slash is a path with a query, and nothing else. -/
theorem exists_of_read_slash
    {s : String}
    {cs : List Char}
    {u : Uri}
    (hs : s.toList = '/' :: cs)
    (h : read s = .ok u) :
    ∃ pq, u = ⟨none, none, some pq⟩ ∧ pq.WellFormed := by
  unfold read at h
  split at h
  · cases h
  rw [hs] at h
  cases cs with
  | nil =>
      cases h
      refine ⟨⟨"/", none⟩, rfl, ?_, nofun, ⟨[], rfl⟩⟩
      intro c hc
      obtain rfl := List.mem_singleton.1 hc
      decide
  | cons c cs =>
      obtain ⟨pq, hpq, h⟩ := bind_eq_ok.1 h
      cases h
      exact ⟨pq, rfl, wellFormed_of_readPathAndQuery hpq⟩

end Paths

section Authorities

def isHostChar (c : Char) : Bool :=
  c.isAlphanum || c == '.' || c == '-'

theorem isAuthorityChar_of_isHostChar
    {c : Char}
    (h : isHostChar c = true) :
    isAuthorityChar c = true := by
  unfold isHostChar at h
  unfold isAuthorityChar
  rw [Bool.or_eq_true, Bool.or_eq_true, beq_iff_eq, beq_iff_eq] at h
  rcases h with (h | rfl) | rfl
  · rw [h, Bool.true_or]
  · rfl
  · rfl

/-- A character of an authority is none of its marks. -/
theorem step_of_isAuthorityChar
    {c : Char}
    (hc : isAuthorityChar c = true)
    {scan : AuthorityScan}
    (hscan : scan.endsWithAt = false) :
    scan.step c = .ok scan := by
  have hmark : ∀ m : Char, isAuthorityChar m = false → c ≠ m := by
    rintro m hm rfl
    exact absurd (hm.symm.trans hc) nofun
  obtain ⟨colons, opened, closed, percent, endsWithAt⟩ := scan
  obtain rfl : endsWithAt = false := hscan
  unfold AuthorityScan.step
  dsimp only
  rw [if_neg (hmark ':' (by decide)), if_neg (hmark '[' (by decide)),
    if_neg (hmark ']' (by decide)), if_neg (hmark '@' (by decide)),
    if_neg (hmark '%' (by decide)), if_pos hc]

/-- A colon is counted, up to the most that may be. -/
theorem step_colon
    {scan : AuthorityScan}
    (hscan : scan.endsWithAt = false) :
    scan.step ':' =
      if maxColons ≤ scan.colons then .error .invalidAuthority
      else .ok { scan with colons := scan.colons + 1 } := by
  obtain ⟨colons, opened, closed, percent, endsWithAt⟩ := scan
  obtain rfl : endsWithAt = false := hscan
  rfl

/-- Of characters without other marks the colons are counted, up to the most that may be. -/
theorem foldlM_step
    {cs : List Char}
    (hcs : ∀ c ∈ cs, isAuthorityChar c = true ∨ c = ':')
    {scan : AuthorityScan}
    (hscan : scan.endsWithAt = false)
    (hcolons : scan.colons ≤ maxColons) :
    cs.foldlM AuthorityScan.step scan =
      if scan.colons + cs.count ':' ≤ maxColons then
        .ok { scan with colons := scan.colons + cs.count ':' }
      else .error .invalidAuthority := by
  induction cs generalizing scan with
  | nil => rw [List.count_nil, Nat.add_zero, if_pos hcolons]; rfl
  | cons c cs ih =>
      obtain ⟨hc, hrest⟩ := List.forall_mem_cons.1 hcs
      rw [List.foldlM_cons]
      rcases hc with hc | rfl
      · have hne : c ≠ ':' := by
          rintro rfl
          exact absurd hc (by decide)
        rw [step_of_isAuthorityChar hc hscan, List.count_cons_of_ne hne]
        exact ih hrest hscan hcolons
      · rw [step_colon hscan, List.count_cons_self]
        split
        · rw [if_neg (by omega)]
          rfl
        · have hnext : ({ scan with colons := scan.colons + 1 } : AuthorityScan).endsWithAt =
              false :=
            hscan
          refine (ih hrest hnext (by simp only; omega)).trans ?_
          rw [Nat.add_assoc, Nat.add_comm 1]

theorem isHostChar_of_isDigit
    {c : Char}
    (h : c.isDigit = true) :
    isHostChar c = true := by
  simp [isHostChar, Char.isAlphanum, h]

theorem not_endsAuthority_of_isAuthorityChar
    {c : Char}
    (h : isAuthorityChar c = true) :
    endsAuthority c = false := by
  refine eq_false_of_ne_true fun hend => ?_
  unfold endsAuthority at hend
  rw [Bool.or_eq_true, Bool.or_eq_true, beq_iff_eq, beq_iff_eq, beq_iff_eq] at hend
  rcases hend with (rfl | rfl) | rfl <;> exact absurd h (by decide)

/-- A text that is read as an authority, whatever comes behind a mark that ends it. -/
structure IsAuthority (name : List Char) : Prop where
  nonempty : name ≠ []
  inside : ∀ c ∈ name, endsAuthority c = false
  scanned : (name.foldlM AuthorityScan.step {} >>= AuthorityScan.finish) = .ok ()

end Authorities

end Uri

/-- The host of a service is made of letters, digits, dots and hyphens. -/
def Service.HasPlainHost (s : Service) : Prop :=
  s.host.toList.all Uri.isHostChar = true

instance (s : Service) : Decidable s.HasPlainHost :=
  inferInstanceAs (Decidable (_ = true))

namespace Service

variable {s : Service}

theorem HasPlainHost.isHostChar
    (h : s.HasPlainHost) :
    ∀ c ∈ s.host.toList, Uri.isHostChar c = true :=
  List.all_eq_true.1 h

theorem toList_endpoint (s : Service) :
    s.endpoint.toList = s.host.toList ++ ':' :: Nat.toDigits 10 s.port.toNat := by
  simp [endpoint, String.toList_append, toString, Nat.toList_repr]

theorem isHostChar_of_mem_port
    {c : Char}
    (h : c ∈ Nat.toDigits 10 s.port.toNat) :
    Uri.isHostChar c = true :=
  Uri.isHostChar_of_isDigit (Nat.isDigit_of_mem_toDigits (by decide) (by decide) h)

theorem colon_notMem_port (s : Service) : ':' ∉ Nat.toDigits 10 s.port.toNat :=
  fun h => absurd (isHostChar_of_mem_port h) (by decide)

/-- The port adds no colon to that in front of it. -/
theorem count_colon_port (s : Service) :
    (':' :: Nat.toDigits 10 s.port.toNat).count ':' = 1 := by
  rw [List.count_cons_self, List.count_eq_zero.2 (colon_notMem_port s)]

theorem count_colon_endpoint (s : Service) :
    s.endpoint.toList.count ':' = s.host.toList.count ':' + 1 := by
  rw [toList_endpoint, List.count_append, count_colon_port]

/-- What is so of the characters of a host, of colons and of digits is so of the endpoint. -/
theorem forall_mem_endpoint
    {p : Char → Prop}
    (hhost : ∀ c ∈ s.host.toList, p c)
    (hcolon : p ':')
    (hplain : ∀ c, Uri.isHostChar c = true → p c) :
    ∀ c ∈ s.endpoint.toList, p c := by
  intro c hc
  rw [toList_endpoint, List.mem_append, List.mem_cons] at hc
  rcases hc with hc | rfl | hc
  · exact hhost c hc
  · exact hcolon
  · exact hplain c (isHostChar_of_mem_port hc)

theorem endpoint_ne_nil (s : Service) : s.endpoint.toList ≠ [] := by
  rw [toList_endpoint]
  simp

/-- A host without marks and a port are an authority. -/
theorem isAuthority_endpoint
    (h : ∀ c ∈ s.host.toList, Uri.isAuthorityChar c = true) :
    Uri.IsAuthority s.endpoint.toList := by
  have hcolon : s.host.toList.count ':' = 0 :=
    List.count_eq_zero.2 fun hmem => absurd (h ':' hmem) (by decide)
  refine ⟨endpoint_ne_nil s, ?_, ?_⟩
  · exact forall_mem_endpoint (fun c hc => Uri.not_endsAuthority_of_isAuthorityChar (h c hc)) rfl
      fun c hc => Uri.not_endsAuthority_of_isAuthorityChar (Uri.isAuthorityChar_of_isHostChar hc)
  · rw [Uri.foldlM_step (forall_mem_endpoint (fun c hc => .inl (h c hc)) (.inr rfl)
      fun c hc => .inl (Uri.isAuthorityChar_of_isHostChar hc)) rfl (Nat.zero_le _),
      count_colon_endpoint, hcolon]
    rfl

end Service

namespace Uri

/-- The schemes under which backends are called. -/
def IsWebScheme (scheme : String) : Prop :=
  scheme = "http" ∨ scheme = "https"

theorem readScheme_web
    {scheme : String}
    (h : IsWebScheme scheme)
    (cs : List Char) :
    readScheme (scheme.toList ++ "://".toList ++ cs) = .ok (some scheme, cs) := by
  rcases h with rfl | rfl <;> rfl

/--
Behind a web scheme, what stands in front of the first mark that ends an authority is checked as
one, and what begins with the mark is read as a path with a query.
-/
theorem read_web
    {scheme : String}
    (hscheme : IsWebScheme scheme)
    {s : String}
    {name rest : List Char}
    (hs : s.toList = scheme.toList ++ "://".toList ++ (name ++ rest))
    (hlength : s.utf8ByteSize ≤ maxLength)
    (hname : name ≠ [])
    (hinside : ∀ c ∈ name, endsAuthority c = false)
    (hrest : ∀ c ∈ rest.head?, endsAuthority c = true) :
    read s = do
      name.foldlM AuthorityScan.step {} >>= AuthorityScan.finish
      return ⟨some scheme, some (String.ofList name), some (← readPathAndQuery rest)⟩ := by
  have hopen : ∀ c ∈ name, (! endsAuthority c) = true := fun c hc => by rw [hinside c hc]; rfl
  have hends : rest.takeWhile (! endsAuthority ·) = [] ∧
      rest.dropWhile (! endsAuthority ·) = rest := by
    cases rest with
    | nil => exact ⟨rfl, rfl⟩
    | cons c cs =>
        have hc : ¬ (! endsAuthority c) = true := by simp [hrest c rfl]
        exact ⟨List.takeWhile_cons_of_neg hc, List.dropWhile_cons_of_neg hc⟩
  have hsome : (name ++ rest).isEmpty = false := by simp [hname]
  have hauthority : readAuthority (name ++ rest) =
      (name.foldlM AuthorityScan.step {} >>= AuthorityScan.finish) >>= fun _ => .ok (name, rest) := by
    unfold readAuthority
    rw [List.takeWhile_append_of_pos hopen, List.dropWhile_append_of_pos hopen, hsome, hends.1,
      hends.2, List.append_nil, bind_assoc]
    rfl
  have hshown : name.isEmpty = false := by simpa using hname
  have hscheme' := readScheme_web hscheme (name ++ rest)
  unfold read
  rw [if_neg (Nat.not_lt_of_le hlength), hs]
  generalize hscan : (name.foldlM AuthorityScan.step {} >>= AuthorityScan.finish) = scanned
    at hauthority ⊢
  rcases hscheme with rfl | rfl
  all_goals
    simp only [String.reduceToList, List.cons_append, List.nil_append] at hscheme' ⊢
    cases scanned <;>
      simp [hscheme', hauthority, hshown, bind, Except.bind, pure, Except.pure]

/--
What is written behind a web scheme is read as it was written, if it begins with an authority.
-/
theorem read_web_of_isAuthority
    {scheme endpoint : String}
    (hscheme : IsWebScheme scheme)
    (hendpoint : IsAuthority endpoint.toList)
    {pq : PathAndQuery}
    (hpq : pq.Readable)
    (hlength : (scheme ++ "://" ++ endpoint ++ pq.text).utf8ByteSize ≤ maxLength) :
    read (scheme ++ "://" ++ endpoint ++ pq.text) = .ok ⟨some scheme, some endpoint, some pq⟩ := by
  have hlist : (scheme ++ "://" ++ endpoint ++ pq.text).toList =
      scheme.toList ++ "://".toList ++ (endpoint.toList ++ pq.text.toList) := by
    simp only [String.toList_append, List.append_assoc]
  rw [read_web hscheme hlist hlength hendpoint.nonempty hendpoint.inside hpq.endsAuthority_text,
    hendpoint.scanned, readPathAndQuery_text hpq, String.ofList_toList]
  rfl

/-- An address of a plain host is read as it was written. -/
theorem read_address
    {scheme : String}
    (hscheme : IsWebScheme scheme)
    {s : Service}
    (hs : s.HasPlainHost)
    {pq : PathAndQuery}
    (hpq : pq.WellFormed)
    (hlength : (scheme ++ "://" ++ s.endpoint ++ pq.text).utf8ByteSize ≤ maxLength) :
    read (scheme ++ "://" ++ s.endpoint ++ pq.text) =
      .ok ⟨some scheme, some s.endpoint, some pq⟩ :=
  read_web_of_isAuthority hscheme
    (Service.isAuthority_endpoint fun c hc => isAuthorityChar_of_isHostChar (hs.isHostChar c hc))
    hpq.readable hlength

/-- What is left of a target behind its authority begins with a mark that ends authorities. -/
theorem endsAuthority_of_readAuthority
    {cs name rest : List Char}
    (h : readAuthority cs = .ok (name, rest)) :
    ∀ c ∈ rest.head?, endsAuthority c = true := by
  unfold readAuthority at h
  split at h
  · cases h
  obtain ⟨_, _, h⟩ := bind_eq_ok.1 h
  obtain ⟨_, _, h⟩ := bind_eq_ok.1 h
  cases h
  intro c hc
  have hhead := List.head?_dropWhile_not (! endsAuthority ·) cs
  rw [Option.mem_def.1 hc] at hhead
  simpa using hhead

theorem suffix_of_readAuthority
    {cs name rest : List Char}
    (h : readAuthority cs = .ok (name, rest)) :
    rest <:+ cs := by
  unfold readAuthority at h
  split at h
  · cases h
  obtain ⟨_, _, h⟩ := bind_eq_ok.1 h
  obtain ⟨_, _, h⟩ := bind_eq_ok.1 h
  cases h
  exact List.dropWhile_suffix _

theorem suffix_of_readScheme
    {cs rest : List Char}
    {scheme : Option String}
    (h : readScheme cs = .ok (scheme, rest)) :
    rest <:+ cs := by
  unfold readScheme at h
  split at h
  · cases h
    exact List.drop_suffix _ _
  split at h
  · cases h
    exact List.drop_suffix _ _
  dsimp only at h
  split at h
  · rename_i behind hbehind
    split at h
    · cases h
      exact List.suffix_refl _
    split at h
    · cases h
    · cases h
      have hdrop := List.drop_suffix (cs.takeWhile isSchemeChar).length cs
      rw [hbehind] at hdrop
      exact .trans ⟨"://".toList, rfl⟩ hdrop
  · cases h
    exact List.suffix_refl _

/--
A target that is read has a path and a query that were read at its end, or is a star, or has none.
-/
theorem pathAndQuery_of_read
    {s : String}
    {u : Uri}
    (h : read s = .ok u) :
    u.pathAndQuery = none ∨ u.pathAndQuery = some ⟨"*", none⟩ ∨
      ∃ pq cs, u.pathAndQuery = some pq ∧ readPathAndQuery cs = .ok pq ∧ cs <:+ s.toList ∧
        ∀ c ∈ cs.head?, endsAuthority c = true := by
  unfold read at h
  split at h
  · cases h
  split at h
  · cases h
  · rename_i hs
    cases h
    exact .inr (.inr ⟨⟨"/", none⟩, ['/'], rfl, rfl, hs ▸ List.suffix_refl _, by simp [endsAuthority]⟩)
  · cases h
    exact .inr (.inl rfl)
  · rename_i cs _ hs
    obtain ⟨pq, hpq, h⟩ := bind_eq_ok.1 h
    cases h
    exact .inr (.inr
      ⟨pq, '/' :: cs, rfl, hpq, hs ▸ List.suffix_refl _, by simp [endsAuthority]⟩)
  · obtain ⟨⟨name, rest⟩, _, h⟩ := bind_eq_ok.1 h
    dsimp only at h
    split at h
    · cases h
      exact .inl rfl
    · cases h
  · obtain ⟨⟨scheme, rest⟩, hscheme, h⟩ := bind_eq_ok.1 h
    obtain ⟨⟨name, rest'⟩, hauthority, h⟩ := bind_eq_ok.1 h
    dsimp only at hauthority h
    split at h
    · split at h
      · cases h
        exact .inl rfl
      · cases h
    · split at h
      · cases h
      obtain ⟨pq, hpq, h⟩ := bind_eq_ok.1 h
      cases h
      have hrest := (suffix_of_readAuthority hauthority).trans (suffix_of_readScheme hscheme)
      exact .inr (.inr ⟨pq, rest', rfl, hpq, hrest, endsAuthority_of_readAuthority hauthority⟩)

/-- The path of a target that is read has the characters of paths. -/
theorem isPathChar_of_read
    {s : String}
    {u : Uri}
    (h : read s = .ok u) :
    ∀ c ∈ u.path.toList, isPathChar c = true ∧ c ≠ '?' ∧ c ≠ '#' := by
  unfold path
  rcases pathAndQuery_of_read h with hnone | hstar | ⟨pq, cs, hpq, hread, _, _⟩
  · rw [hnone]
    nofun
  · rw [hstar]
    exact List.forall_mem_singleton.2 (by decide)
  · rw [hpq]
    dsimp only
    split
    · exact List.forall_mem_singleton.2 (by decide)
    · exact (of_readPathAndQuery hread).2.1

/--
What is sent of a path and a query that were read behind an authority can be read there again.
-/
theorem exists_readable_of_readPathAndQuery
    {cs : List Char}
    {pq : PathAndQuery}
    (h : readPathAndQuery cs = .ok pq)
    (hcs : ∀ c ∈ cs.head?, endsAuthority c = true) :
    ∃ sent : PathAndQuery, sent.Readable ∧ sent.text = pq.text := by
  obtain ⟨hpath, hchars, hquery⟩ := of_readPathAndQuery h
  by_cases hroot : cs.head? = some '/'
  · obtain ⟨rest, rfl⟩ := List.head?_eq_some_iff.1 hroot
    exact ⟨pq, (wellFormed_of_readPathAndQuery h).readable, rfl⟩
  -- Without a slash in front there is no path, and an empty one is sent as a slash.
  obtain ⟨path, query⟩ := pq
  have hempty : path = "" := by
    refine String.toList_inj.1 (hpath.trans ?_)
    cases cs with
    | nil => rfl
    | cons c rest =>
        have hc := hcs c rfl
        unfold endsAuthority at hc
        rw [Bool.or_eq_true, Bool.or_eq_true, beq_iff_eq, beq_iff_eq, beq_iff_eq] at hc
        rcases hc with (rfl | rfl) | rfl
        · exact absurd rfl hroot
        · rfl
        · rfl
  subst hempty
  cases query with
  | some q => exact ⟨_, ⟨hchars, hquery, .inr ⟨rfl, nofun⟩⟩, rfl⟩
  | none =>
      refine ⟨⟨"/", none⟩, ⟨?_, nofun, .inl ⟨[], rfl⟩⟩, rfl⟩
      intro c hc
      obtain rfl := List.mem_singleton.1 hc
      decide

/-- A text that can be read is not too long. -/
theorem utf8ByteSize_le_of_read
    {s : String}
    {u : Uri}
    (h : read s = .ok u) :
    s.utf8ByteSize ≤ maxLength := by
  unfold read at h
  split at h
  · cases h
  · exact Nat.le_of_not_lt ‹_›

/-- The path of a target that is read is no longer than a target may be. -/
theorem utf8ByteSize_path_le_of_read
    {s : String}
    {u : Uri}
    (h : read s = .ok u) :
    u.path.utf8ByteSize ≤ maxLength := by
  unfold path
  rcases pathAndQuery_of_read h with hnone | hstar | ⟨pq, cs, hpq, hread, hsuffix, _⟩
  · rw [hnone]
    decide
  · rw [hstar]
    decide
  · rw [hpq]
    dsimp only
    split
    · decide
    · have hpart : pq.path.toList.Sublist s.toList := by
        rw [(of_readPathAndQuery hread).1]
        exact (List.takeWhile_sublist _).trans hsuffix.sublist
      rw [← String.utf8Len_toList]
      refine (String.utf8Len_le_of_sublist hpart).trans ?_
      rw [String.utf8Len_toList]
      exact utf8ByteSize_le_of_read h

end Uri

section HostFields

theorem Uri.toNat_of_isHostChar
    {c : Char}
    (h : isHostChar c = true) :
    0x2D ≤ c.toNat ∧ c.toNat ≤ 0x7A := by
  unfold isHostChar at h
  rw [Bool.or_eq_true, Bool.or_eq_true, beq_iff_eq, beq_iff_eq] at h
  rcases h with (h | rfl) | rfl
  · obtain ⟨hlo, hhi⟩ := Text.toNat_of_isAlphanum h
    exact ⟨Nat.le_trans (by decide) hlo, hhi⟩
  · decide
  · decide

theorem HeaderValue.isReadableChar_of_isHostChar
    {c : Char}
    (h : Uri.isHostChar c = true ∨ c = ':') :
    IsReadableChar c := by
  have hall : ∀ n < 0x7B, 0x2D ≤ n → n < 128 ∧ isReadable (UInt8.ofNat n) = true := by decide
  rcases h with h | rfl
  · obtain ⟨hlo, hhi⟩ := Uri.toNat_of_isHostChar h
    exact hall _ (Nat.lt_succ_of_le hhi) hlo
  · decide

/-- A plain host with a port is a header value. -/
theorem Service.ofText?_endpoint
    {s : Service}
    (h : s.HasPlainHost) :
    HeaderValue.ofText? s.endpoint = some (Bytes.ofText s.endpoint) := by
  refine HeaderValue.ofText?_of_isReadableText fun c hc =>
    HeaderValue.isReadableChar_of_isHostChar ?_
  rw [toList_endpoint, List.mem_append, List.mem_cons] at hc
  rcases hc with hc | rfl | hc
  · exact .inl (h.isHostChar c hc)
  · exact .inr rfl
  · exact .inl (isHostChar_of_mem_port hc)

end HostFields

/--
A request that could be addressed to a service with a plain host goes there: with the scheme that
was asked for, to its endpoint, with the path and the query that it had, and the endpoint is its
host.
-/
theorem Request.sendTo_plain
    {q q' : Request}
    {scheme : String}
    {s : Service}
    {pq : PathAndQuery}
    (hscheme : Uri.IsWebScheme scheme)
    (hs : s.HasPlainHost)
    (hq : q.uri.pathAndQuery = some pq)
    (hpq : pq.WellFormed)
    (h : q.sendTo scheme s.endpoint = .ok q') :
    q'.uri = ⟨some scheme, some s.endpoint, some pq⟩ ∧
    q'.headers.getAll .host = [Bytes.ofText s.endpoint] := by
  unfold sendTo sentTarget at h
  rw [hq] at h
  dsimp only at h
  split at h
  · cases h
  rename_i uri hread
  cases h
  have haddress := Uri.read_address hscheme hs hpq (Uri.utf8ByteSize_le_of_read hread)
  refine ⟨Except.ok.inj (hread.symm.trans haddress), ?_⟩
  simp only [Headers.setText, Service.ofText?_endpoint hs, Headers.getAll_set, if_true]

end ApiGateway
