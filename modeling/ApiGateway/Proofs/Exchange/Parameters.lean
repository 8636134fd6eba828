import ApiGateway.Exchange.Target
import ApiGateway.Proofs.Route.Callers
import ApiGateway.Proofs.Text.Percent
import ApiGateway.Proofs.Text.Pieces

/-!
# The parameters that a backend reads

A backend splits the query of its target at the ampersands and decodes the names and values of the
pieces. It finds the pieces that are kept of the inbound query, and behind them one for each claim
that the route passes on. The inbound pieces are left out by their names as they are written,
though, not by the names that are read from them: so the claims cannot be told from what the caller
wrote just when a name of a claim is written in another way.

Main statement: `tellsClaims_iff`.
-/

namespace ApiGateway
namespace Exchange

/-- What follows the first question mark of a target. -/
def queryOf (target : String) : String :=
  String.ofList ((target.toList.dropWhile (· ≠ '?')).drop 1)

/-- The pieces of the query of a target. -/
def parameters (target : String) : List String :=
  queryPieces (queryOf target)

/-- The value of a piece as it is written: what follows the first equals sign. -/
def pieceValue (piece : String) : String :=
  String.ofList ((piece.toList.dropWhile (· ≠ '=')).drop 1)

/-- The name that is read from a piece. -/
def parameterName? (piece : String) : Option String :=
  Percent.decode? (pieceName piece)

/-- The value that is read from a piece. -/
def parameterValue? (piece : String) : Option String :=
  Percent.decode? (pieceValue piece)

/-- A text between two ampersands: it is not empty and has none itself. -/
def IsPiece (p : String) : Prop :=
  p.isEmpty = false ∧ '&' ∉ p.toList

theorem isPiece_of_mem_queryPieces
    {query p : String}
    (h : p ∈ queryPieces query) :
    IsPiece p := by
  obtain ⟨hsplit, hne⟩ := List.mem_filter.1 h
  exact ⟨by simpa using hne, Text.notMem_of_mem_splitAtChar hsplit⟩

/-- Pieces that are joined by ampersands are found again. -/
theorem queryPieces_intercalate
    {ps : List String}
    (h : ∀ p ∈ ps, IsPiece p) :
    queryPieces (String.intercalate "&" ps) = ps := by
  by_cases hps : ps = []
  · subst hps
    rfl
  · have hsplit : Text.splitAtChar '&' (String.intercalate "&" ps) = ps :=
      Text.splitAtChar_intercalate hps fun p hp => (h p hp).2
    rw [queryPieces, hsplit, List.filter_eq_self]
    intro p hp
    rw [(h p hp).1]
    rfl

/-- The query of a path with pieces, if the path has none of its own. -/
theorem queryOf_joinTarget
    {path : String}
    (hpath : '?' ∉ path.toList)
    (ps : List String) :
    queryOf (joinTarget path ps) = String.intercalate "&" ps := by
  cases ps with
  | nil =>
      have hchars : (joinTarget path []).toList = path.toList := rfl
      rw [queryOf, hchars, Text.dropWhile_of_notMem hpath]
      rfl
  | cons p ps =>
      have hchars : (joinTarget path (p :: ps)).toList =
          path.toList ++ '?' :: (String.intercalate "&" (p :: ps)).toList := by
        simp [joinTarget, String.toList_append]
      rw [queryOf, hchars, Text.dropWhile_append_mark hpath, List.drop_succ_cons, List.drop_zero,
        String.ofList_toList]

section Encoded

variable (key value : String)

theorem toList_encoded :
    (Percent.encode key ++ "=" ++ Percent.encode value).toList =
      (Percent.encode key).toList ++ '=' :: (Percent.encode value).toList := by
  simp [String.toList_append]

/-- An encoded text has neither the mark before a value nor the one between parameters. -/
theorem notMem_encode
    {c : Char}
    (hc : Percent.isMark c = true) :
    c ∉ (Percent.encode key).toList := by
  intro h
  rw [Percent.isMark_of_mem_encode h] at hc
  exact Bool.false_ne_true hc

theorem isPiece_encoded :
    IsPiece (Percent.encode key ++ "=" ++ Percent.encode value) := by
  refine ⟨?_, ?_⟩
  · rw [← Bool.not_eq_true, String.isEmpty_iff, ← String.toList_inj, toList_encoded]
    exact List.append_ne_nil_of_right_ne_nil _ (List.cons_ne_nil _ _)
  · rw [toList_encoded, List.mem_append, List.mem_cons]
    rintro (h | h | h)
    · exact notMem_encode key (by decide) h
    · exact absurd h (by decide)
    · exact notMem_encode value (by decide) h

/-- What is passed on is read as it was. -/
theorem parameterName?_encoded :
    parameterName? (Percent.encode key ++ "=" ++ Percent.encode value) = some key := by
  rw [parameterName?, pieceName, toList_encoded,
    Text.takeWhile_append_mark (notMem_encode key (by decide)),
    String.ofList_toList, Percent.decode?_encode]

theorem parameterValue?_encoded :
    parameterValue? (Percent.encode key ++ "=" ++ Percent.encode value) = some value := by
  rw [parameterValue?, pieceValue, toList_encoded,
    Text.dropWhile_append_mark (notMem_encode key (by decide)), List.drop_succ_cons, List.drop_zero,
    String.ofList_toList, Percent.decode?_encode]

end Encoded

/-- A piece tells the claim of an expression. -/
structure Tells (claims : Claims) (e : ClaimsExpression) (p : String) : Prop where
  name : parameterName? p = some e.key
  value : ∃ value, e.extract claims = .ok value ∧ parameterValue? p = some value

/-- The piece of an expression has its key and the value that it takes, both encoded. -/
theorem exists_of_claimPiece
    {claims : Claims}
    {e : ClaimsExpression}
    {p : String}
    (h : claimPiece claims e = .ok p) :
    ∃ value, e.extract claims = .ok value ∧
      p = Percent.encode e.key ++ "=" ++ Percent.encode value := by
  obtain ⟨value, hvalue, h⟩ := bind_eq_ok.1 h
  cases h
  exact ⟨value, hvalue, rfl⟩

theorem tells_of_claimPiece
    {claims : Claims}
    {e : ClaimsExpression}
    {p : String}
    (h : claimPiece claims e = .ok p) :
    IsPiece p ∧ Tells claims e p := by
  obtain ⟨value, hvalue, rfl⟩ := exists_of_claimPiece h
  exact ⟨isPiece_encoded _ _, parameterName?_encoded _ _, value, hvalue,
    parameterValue?_encoded _ _⟩

/-- The pieces that pass claims on tell each of them. -/
theorem forall₂_tells_of_mapM
    {claims : Claims}
    {es : List ClaimsExpression}
    {added : List String}
    (h : es.mapM (claimPiece claims) = .ok added) :
    (∀ p ∈ added, IsPiece p) ∧ List.Forall₂ (Tells claims) es added := by
  have hall := forall₂_of_mapM_eq_ok h
  clear h
  induction hall with
  | nil => exact ⟨List.forall_mem_nil _, .nil⟩
  | cons hp _ ih =>
      obtain ⟨hpiece, htells⟩ := tells_of_claimPiece hp
      exact ⟨List.forall_mem_cons.2 ⟨hpiece, ih.1⟩, .cons htells ih.2⟩

/-- The parameters of a target: what is kept of the inbound query, and then the claims. -/
theorem parameters_of_targetOf
    {r : ResolvedRoute}
    {query : Option String}
    {claims : Claims}
    {target : String}
    (hpath : '?' ∉ r.downstreamPath.toList)
    (h : targetOf r query claims = .ok target) :
    ∃ added,
      List.Forall₂ (Tells claims) r.route.queriesFromClaims added ∧
      parameters target =
        keptPieces (r.route.queriesFromClaims.map (·.key)) (query.getD "") ++ added := by
  obtain ⟨added, hadded, h⟩ := bind_eq_ok.1 h
  cases h
  obtain ⟨hpieces, htells⟩ := forall₂_tells_of_mapM hadded
  refine ⟨added, htells, ?_⟩
  rw [parameters, queryOf_joinTarget hpath]
  refine queryPieces_intercalate fun p hp => ?_
  rcases List.mem_append.1 hp with hp | hp
  · exact isPiece_of_mem_queryPieces (List.mem_of_mem_filter hp)
  · exact hpieces p hp

section Told

variable {claims : Claims}
variable {es : List ClaimsExpression}
variable {added : List String}

/-- A name that no expression has as its key is not read from what passes them on. -/
theorem filter_eq_nil_of_tells
    (h : List.Forall₂ (Tells claims) es added)
    {key : String}
    (hkey : key ∉ es.map (·.key)) :
    added.filter (parameterName? · = some key) = [] := by
  induction h with
  | nil => rfl
  | @cons e p es added hp _ ih =>
      obtain ⟨hne, hrest⟩ := not_or.1 (mt List.mem_cons.2 hkey)
      rw [List.filter_cons_of_neg, ih hrest]
      rw [hp.name, decide_eq_true_eq, Option.some_inj]
      exact fun heq => hne heq.symm

/-- Of pieces that pass on claims with distinct keys, one is read as each key. -/
theorem exists_filter_eq_of_tells
    (h : List.Forall₂ (Tells claims) es added)
    (hnodup : (es.map (·.key)).Nodup)
    {e : ClaimsExpression}
    (he : e ∈ es) :
    ∃ p, added.filter (parameterName? · = some e.key) = [p] ∧ Tells claims e p := by
  induction h with
  | nil => cases he
  | @cons e' p es added hp hrest ih =>
      obtain ⟨hfresh, hnodup⟩ := List.nodup_cons.1 hnodup
      rcases List.mem_cons.1 he with rfl | he
      · refine ⟨p, ?_, hp⟩
        rw [List.filter_cons_of_pos (by rw [hp.name, decide_eq_true_eq]),
          filter_eq_nil_of_tells hrest hfresh]
      · have hother : e'.key ≠ e.key := fun heq => hfresh (List.mem_map.2 ⟨e, he, heq.symm⟩)
        obtain ⟨q, hq, htells⟩ := ih hnodup he
        refine ⟨q, ?_, htells⟩
        rw [List.filter_cons_of_neg, hq]
        rw [hp.name, decide_eq_true_eq, Option.some_inj]
        exact hother

end Told

/--
Each key is the name of one parameter only, which has the claim; and what is kept of the inbound
query is read as none of the keys.
-/
structure TellsClaims
    (r : Route)
    (query : Option String)
    (claims : Claims)
    (target : String) : Prop where
  once : ∀ e ∈ r.queriesFromClaims, ∃ p,
    (parameters target).filter (parameterName? · = some e.key) = [p] ∧ Tells claims e p
  replaced : ∀ p ∈ keptPieces (r.queriesFromClaims.map (·.key)) (query.getD ""),
    ∀ e ∈ r.queriesFromClaims, parameterName? p ≠ some e.key

/-- A piece is read as one of the keys, though its name is not written as any of them. -/
def Disguised (keys : List String) (p : String) : Prop :=
  pieceName p ∉ keys ∧ ∃ key ∈ keys, parameterName? p = some key

theorem mem_keptPieces_iff
    {keys : List String}
    {query p : String} :
    p ∈ keptPieces keys query ↔ p ∈ queryPieces query ∧ pieceName p ∉ keys := by
  rw [keptPieces, List.mem_filter, Bool.not_eq_true', ← Bool.not_eq_true, List.contains_iff_mem]

/--
A backend gets what is kept of the inbound query and the claims behind it. Each claim is told once
and replaces what the caller wrote under its name just when no piece of the inbound query is
disguised.
-/
theorem tellsClaims_iff
    {generation : Nat}
    {global : Config.Global}
    {c : Config.Route}
    {r : ResolvedRoute}
    (hr : Route.compile generation global c = .ok r.route)
    (hpath : '?' ∉ r.downstreamPath.toList)
    {query : Option String}
    {claims : Claims}
    {target : String}
    (h : targetOf r query claims = .ok target) :
    (∃ added,
      List.Forall₂ (Tells claims) r.route.queriesFromClaims added ∧
      parameters target =
        keptPieces (r.route.queriesFromClaims.map (·.key)) (query.getD "") ++ added) ∧
    (TellsClaims r.route query claims target ↔
      ∀ p ∈ queryPieces (query.getD ""),
        ¬ Disguised (r.route.queriesFromClaims.map (·.key)) p) := by
  obtain ⟨added, htells, hparameters⟩ := parameters_of_targetOf hpath h
  refine ⟨⟨added, htells, hparameters⟩, fun hclaims p hp => ?_, fun hplain => ?_⟩
  · rintro ⟨hwritten, key, hkey, hread⟩
    obtain ⟨e, he, rfl⟩ := List.mem_map.1 hkey
    exact hclaims.replaced p (mem_keptPieces_iff.2 ⟨hp, hwritten⟩) e he hread
  · have hkept : ∀ p ∈ keptPieces (r.route.queriesFromClaims.map (·.key)) (query.getD ""),
        ∀ e ∈ r.route.queriesFromClaims, parameterName? p ≠ some e.key := by
      intro p hp e he hread
      obtain ⟨hpiece, hwritten⟩ := mem_keptPieces_iff.1 hp
      exact hplain p hpiece ⟨hwritten, e.key, List.mem_map_of_mem he, hread⟩
    refine ⟨fun e he => ?_, hkept⟩
    obtain ⟨p, hp, htold⟩ :=
      exists_filter_eq_of_tells htells (Route.callersFrom_of_compile hr).nodup_keys he
    refine ⟨p, ?_, htold⟩
    rw [hparameters, List.filter_append, hp, List.filter_eq_nil_iff.2, List.nil_append]
    exact fun q hq => by simpa using hkept q hq e he

section WrittenAsSent

/-- A route that tells its backend the subject of the caller as the owner. -/
def tellsOwner : Config.Route where
  upstreamPathTemplate := "/a"
  downstreamPathTemplate := "/x"
  downstreamHosts := [⟨"h", 1⟩]
  authentication := some ⟨"key", []⟩
  addQueries := .ofPairs [("filter[owner]", "Claims[sub] > value")]

/-- The caller writes the name as it is written to the backend, which then reads two owners. -/
theorem tellsClaims_iff_writtenAsSent :
    ∃ r target,
      Route.compile 0 {} tellsOwner = .ok r.route ∧
      '?' ∉ r.downstreamPath.toList ∧
      targetOf r (some "filter%5Bowner%5D=mallory") ⟨[("sub", "alice")]⟩ = .ok target ∧
      target = "/x?filter%5Bowner%5D=mallory&filter%5Bowner%5D=alice" ∧
      ¬ TellsClaims r.route (some "filter%5Bowner%5D=mallory") ⟨[("sub", "alice")]⟩ target := by
  have hcompile :
      (Route.compile 0 {} tellsOwner).toOption.map
        (fun route =>
          (route.queriesFromClaims.map (·.key),
            (targetOf ⟨route, ⟨[], "/a"⟩, "/x"⟩ (some "filter%5Bowner%5D=mallory")
              ⟨[("sub", "alice")]⟩).toOption)) =
      some (["filter[owner]"], some "/x?filter%5Bowner%5D=mallory&filter%5Bowner%5D=alice") := by
    decide +kernel
  obtain ⟨route, hroute, hcompile⟩ := exists_eq_ok_of_map hcompile
  obtain ⟨hkeys, htarget⟩ := Prod.mk.inj hcompile
  obtain ⟨target, htarget, rfl⟩ := exists_eq_ok_of_map (f := id) (by simpa using htarget)
  have hpath : '?' ∉ ("/x" : String).toList := by
    decide
  refine ⟨⟨route, ⟨[], "/a"⟩, "/x"⟩, _, hroute, hpath, htarget, rfl, fun htells => ?_⟩
  have hplain := (tellsClaims_iff hroute hpath htarget).2.1 htells
  refine hplain "filter%5Bowner%5D=mallory" (by decide +kernel) ?_
  rw [hkeys]
  exact ⟨by decide +kernel, "filter[owner]", List.mem_singleton_self _, by decide +kernel⟩

end WrittenAsSent

end Exchange
end ApiGateway
