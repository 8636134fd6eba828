import ApiGateway.Proofs.Exchange.PassedClaims

/-!
# What a target is made of

The target of a request to a backend is the downstream path and the pieces of a query: those of the
inbound query that no configured query replaces (`Keeps`), and behind them one for each configured
query. A split at the ampersands finds just these pieces, and of the last ones a split at the equals
sign and the decoding give back the key and the value that was taken from the claims, whatever they
are made of. So a claim cannot make another piece, nor change one.

Main statement: `composition_of_target`.
-/

namespace ApiGateway
namespace Exchange

/-- The split of a piece at its equals signs gives a name and a value, which are read as these. -/
def ReadsAs (p name value : String) : Prop :=
  ∃ n v, Text.splitAtChar '=' p = [n, v] ∧
    Percent.decode? n = some name ∧
    Percent.decode? v = some value

/-- A piece passes on what a configured query takes from the claims. -/
def PassesOn (claims : Claims) (setting : String × String) (p : String) : Prop :=
  ∃ e value, ClaimsExpression.parse setting.1 setting.2 = .ok e ∧
    e.extract claims = .ok value ∧
    ReadsAs p setting.1 value

/--
The pieces of a query that are kept: in their order and as often as they come, those that are not
empty and whose name is none of the keys.
-/
structure Keeps (keys : List String) (query : String) (kept : List String) : Prop where
  order : kept.Sublist (Text.splitAtChar '&' query)
  count : ∀ p, kept.count p =
    if p ≠ "" ∧ pieceName p ∉ keys then (Text.splitAtChar '&' query).count p else 0

/-- A target is a path, with a query just if there are pieces, and the split of it gives these. -/
structure ConsistsOf (target path : String) (pieces : List String) : Prop where
  bare : pieces = [] → target = path
  query : pieces ≠ [] →
    ∃ query, target = path ++ "?" ++ query ∧ Text.splitAtChar '&' query = pieces

section Joined

variable {path : String}
variable {pieces : List String}

theorem consistsOf_joinTarget (h : ∀ p ∈ pieces, IsPiece p) :
    ConsistsOf (joinTarget path pieces) path pieces := by
  refine ⟨fun hnil => ?_, fun hne => ⟨String.intercalate "&" pieces, ?_, ?_⟩⟩
  · subst hnil
    rfl
  · rw [joinTarget, if_neg (by simpa using hne)]
  · exact Text.splitAtChar_intercalate hne fun p hp => (h p hp).2

/-- What a target has is in its path or its pieces, or it is a mark of the query. -/
theorem notMem_joinTarget
    {c : Char}
    (hmark : c ≠ '?' ∧ c ≠ '&')
    (hpath : c ∉ path.toList)
    (hpieces : ∀ p ∈ pieces, c ∉ p.toList) :
    c ∉ (joinTarget path pieces).toList := by
  cases pieces with
  | nil => exact hpath
  | cons p ps =>
      have hchars : (joinTarget path (p :: ps)).toList =
          path.toList ++ '?' :: ['&'].intercalate ((p :: ps).map String.toList) := by
        simp [joinTarget, String.toList_append]
      rw [hchars, List.mem_append, List.mem_cons]
      rintro (hc | hc | hc)
      · exact hpath hc
      · exact hmark.1 hc
      · rcases Text.mem_of_mem_intercalate hc with hc | ⟨row, hrow, hc⟩
        · exact hmark.2 (List.mem_singleton.1 hc)
        · obtain ⟨q, hq, rfl⟩ := List.mem_map.1 hrow
          exact hpieces q hq hc

end Joined

section Kept

variable {query p : String}

theorem notMem_of_mem_queryPieces
    {c : Char}
    (hquery : c ∉ query.toList)
    (h : p ∈ queryPieces query) :
    c ∉ p.toList := by
  obtain ⟨cs, hcs, rfl⟩ := List.mem_map.1 (List.mem_of_mem_filter h)
  rw [String.toList_ofList]
  exact fun hc => hquery (Text.mem_of_mem_splitWhere hcs hc)

/-- The order of the keys does not matter for what is kept. -/
theorem keptPieces_congr
    {keys keys' : List String}
    (h : ∀ key, key ∈ keys ↔ key ∈ keys')
    (query : String) :
    keptPieces keys query = keptPieces keys' query := by
  refine List.filter_congr fun p _ => ?_
  rw [Bool.eq_iff_iff]
  simp [h]

theorem keeps_keptPieces
    (keys : List String)
    (query : String) :
    Keeps keys query (keptPieces keys query) where
  order := List.filter_sublist.trans List.filter_sublist
  count p := by
    by_cases hempty : p = ""
    · subst hempty
      rw [if_neg fun h => h.1 rfl, List.count_eq_zero]
      exact fun hmem => absurd (List.mem_filter.1 (List.mem_filter.1 hmem).1).2 (by decide)
    by_cases hkey : pieceName p ∈ keys
    · rw [if_neg fun h => h.2 hkey, List.count_eq_zero]
      exact fun hmem => (mem_keptPieces_iff.1 hmem).2 hkey
    · rw [if_pos ⟨hempty, hkey⟩, keptPieces, List.count_filter, queryPieces, List.count_filter]
      · simp [hempty]
      · simp [hkey]

end Kept

section Added

variable {claims : Claims}
variable {setting : String × String}
variable {e : ClaimsExpression}
variable {p : String}

theorem readsAs_encoded
    (key value : String) :
    ReadsAs (Percent.encode key ++ "=" ++ Percent.encode value) key value := by
  refine ⟨Percent.encode key, Percent.encode value, ?_, Percent.decode?_encode _,
    Percent.decode?_encode _⟩
  have hsplit : Text.splitAtChar '=' (String.intercalate "="
      [Percent.encode key, Percent.encode value]) = [Percent.encode key, Percent.encode value] := by
    refine Text.splitAtChar_intercalate (List.cons_ne_nil _ _) ?_
    simp [notMem_encode _ (show Percent.isMark '=' = true from rfl)]
  exact hsplit

theorem passesOn_of_claimPiece
    (he : ClaimsExpression.parse setting.1 setting.2 = .ok e)
    (h : claimPiece claims e = .ok p) :
    PassesOn claims setting p := by
  obtain ⟨value, hvalue, rfl⟩ := exists_of_claimPiece h
  refine ⟨e, value, he, hvalue, ?_⟩
  rw [← ClaimsExpression.key_of_parse he]
  exact readsAs_encoded _ _

/-- A claim is passed on in one piece, in which no fragment starts. -/
theorem isPiece_of_claimPiece
    (h : claimPiece claims e = .ok p) :
    IsPiece p ∧ '#' ∉ p.toList := by
  obtain ⟨value, _, rfl⟩ := exists_of_claimPiece h
  refine ⟨isPiece_encoded _ _, ?_⟩
  rw [toList_encoded, List.mem_append, List.mem_cons]
  rintro (hc | hc | hc)
  · exact Percent.hash_notMem_encode _ hc
  · cases hc
  · exact Percent.hash_notMem_encode _ hc

theorem forall₂_passesOn
    {settings : List (String × String)}
    {es : List ClaimsExpression}
    {added : List String}
    (hes : List.Forall₂ (fun p e => ClaimsExpression.parse p.1 p.2 = .ok e) settings es)
    (h : List.Forall₂ (fun e p => claimPiece claims e = .ok p) es added) :
    List.Forall₂ (PassesOn claims) settings added ∧
      ∀ p ∈ added, IsPiece p ∧ '#' ∉ p.toList := by
  induction hes generalizing added with
  | nil =>
      cases h
      exact ⟨.nil, List.forall_mem_nil _⟩
  | cons he _ ih =>
      cases h with
      | cons hp h =>
          obtain ⟨hall, hpieces⟩ := ih h
          exact ⟨.cons (passesOn_of_claimPiece he hp) hall,
            List.forall_mem_cons.2 ⟨isPiece_of_claimPiece hp, hpieces⟩⟩

end Added

/--
The target of a route whose downstream path has neither a query nor a fragment consists of the path,
of the non-empty pieces of the inbound query whose name is no configured key, in their order, and of
one piece for each configured query in the order of the keys, which passes its claim on. These
pieces are the parameters of the target, and no fragment starts in it unless one does in the inbound
query.
-/
theorem composition_of_target
    {generation : Nat}
    {global : Config.Global}
    {c : Config.Route}
    {x : Exchange}
    {found : ResolvedRoute}
    (hroute : Route.compile generation global c = .ok found.route)
    (hfound : x.resolved = some found)
    (hquestion : '?' ∉ found.downstreamPath.toList)
    (hhash : '#' ∉ found.downstreamPath.toList)
    {target : String}
    (h : x.target = .ok target) :
    ∃ settings added,
      settings.Perm c.addQueries.pairs ∧
      (settings.map (·.1)).Pairwise (· < ·) ∧
      List.Forall₂ (PassesOn x.callerClaims) settings added ∧
      ConsistsOf target found.downstreamPath
        (keptPieces (c.addQueries.pairs.map (·.1)) (x.request.uri.query.getD "") ++ added) ∧
      parameters target =
        keptPieces (c.addQueries.pairs.map (·.1)) (x.request.uri.query.getD "") ++ added ∧
      Keeps (c.addQueries.pairs.map (·.1)) (x.request.uri.query.getD "")
        (keptPieces (c.addQueries.pairs.map (·.1)) (x.request.uri.query.getD "")) ∧
      ('#' ∉ (x.request.uri.query.getD "").toList → '#' ∉ target.toList) := by
  obtain ⟨found', hfound', h⟩ := bind_eq_ok.1 h
  obtain rfl := Option.some.inj ((route_eq_ok_iff.1 hfound').symm.trans hfound)
  obtain ⟨added, hadded, h⟩ := bind_eq_ok.1 h
  cases h
  obtain ⟨settings, hperm, hsorted, hparsed⟩ := Route.exists_querySettings_of_compile hroute
  obtain ⟨hpassed, hclaimed⟩ := forall₂_passesOn hparsed (forall₂_of_mapM_eq_ok hadded)
  have hkeys : ∀ key, key ∈ found'.route.queriesFromClaims.map (·.key) ↔
      key ∈ c.addQueries.pairs.map (·.1) :=
    fun _ => (Route.callersFrom_of_compile hroute).queries.mem_iff
  rw [keptPieces_congr hkeys]
  have hpieces : ∀ p ∈ keptPieces (c.addQueries.pairs.map (·.1)) (x.request.uri.query.getD "") ++
      added, IsPiece p := by
    intro p hp
    rcases List.mem_append.1 hp with hp | hp
    · exact isPiece_of_mem_queryPieces (List.mem_of_mem_filter hp)
    · exact (hclaimed p hp).1
  refine ⟨settings, added, hperm, hsorted, hpassed, consistsOf_joinTarget hpieces, ?_,
    keeps_keptPieces _ _, ?_⟩
  · rw [parameters, queryOf_joinTarget hquestion, queryPieces_intercalate hpieces]
  · intro hquery
    refine notMem_joinTarget (by decide) hhash fun p hp => ?_
    rcases List.mem_append.1 hp with hp | hp
    · exact notMem_of_mem_queryPieces hquery (List.mem_of_mem_filter hp)
    · exact (hclaimed p hp).2

section Marks

/-- A route that tells its backend the second part of a size. -/
def tellsSize : Config.Route where
  upstreamPathTemplate := "/a"
  downstreamPathTemplate := "/x"
  downstreamHosts := [⟨"h", 1⟩]
  authentication := some ⟨"key", []⟩
  addQueries := .ofPairs [("Größe", "Claims[size] > value[1] > |")]

/-- A caller in whose size are all marks of a query asks for the route. -/
def markedCall (route : Route) : Exchange where
  request := ⟨.get, ⟨none, none, some ⟨"/a", some "Größe=x&&b=1=2?&Gr%C3%B6%C3%9Fe"⟩⟩, {}, []⟩
  peer := ⟨.v4 10 0 0 9, 1⟩
  requestId := ""
  start := 0
  resolved := some ⟨route, ⟨[], "/a"⟩, "/x"⟩
  claims := some ⟨[("size", "x| 1&user=é?# ")]⟩

/-- The marks in the size are encoded, and the caller's own piece for the size is left out. -/
theorem composition_of_target_marks :
    ∃ route settings added,
      Route.compile 0 {} tellsSize = .ok route ∧
      (markedCall route).target =
        .ok "/x?b=1=2?&Gr%C3%B6%C3%9Fe&Gr%C3%B6%C3%9Fe=1%26user%3D%C3%A9%3F%23" ∧
      settings.Perm tellsSize.addQueries.pairs ∧
      List.Forall₂ (PassesOn (markedCall route).callerClaims) settings added ∧
      ConsistsOf "/x?b=1=2?&Gr%C3%B6%C3%9Fe&Gr%C3%B6%C3%9Fe=1%26user%3D%C3%A9%3F%23" "/x"
        (["b=1=2?", "Gr%C3%B6%C3%9Fe"] ++ added) ∧
      Keeps (tellsSize.addQueries.pairs.map (·.1)) "Größe=x&&b=1=2?&Gr%C3%B6%C3%9Fe"
        ["b=1=2?", "Gr%C3%B6%C3%9Fe"] := by
  have hcompile :
      (Route.compile 0 {} tellsSize).toOption.map
        (fun route => (markedCall route).target.toOption) =
      some (some "/x?b=1=2?&Gr%C3%B6%C3%9Fe&Gr%C3%B6%C3%9Fe=1%26user%3D%C3%A9%3F%23") := by
    decide +kernel
  obtain ⟨route, hroute, htarget⟩ := exists_eq_ok_of_map hcompile
  obtain ⟨target, htarget, rfl⟩ := exists_eq_ok_of_map (f := id) (by simpa using htarget)
  have hkept : keptPieces (tellsSize.addQueries.pairs.map (·.1))
      "Größe=x&&b=1=2?&Gr%C3%B6%C3%9Fe" = ["b=1=2?", "Gr%C3%B6%C3%9Fe"] := by
    decide +kernel
  have hfound : (markedCall route).resolved = some ⟨route, ⟨[], "/a"⟩, "/x"⟩ := rfl
  have hpath : '?' ∉ ("/x" : String).toList ∧ '#' ∉ ("/x" : String).toList := by
    decide
  obtain ⟨settings, added, hperm, _, hpassed, hconsists, _, hkeeps, _⟩ :=
    composition_of_target hroute hfound hpath.1 hpath.2 htarget
  refine ⟨route, settings, added, hroute, htarget, hperm, hpassed, ?_⟩
  rw [← hkept]
  exact ⟨hconsists, hkeeps⟩

end Marks

end Exchange
end ApiGateway
