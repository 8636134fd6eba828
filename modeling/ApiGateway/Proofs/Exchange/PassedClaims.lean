import ApiGateway.Exchange.Outbound
import ApiGateway.Proofs.Exchange.Parameters
import ApiGateway.Proofs.Run.Findings

/-!
# Claims that are passed on

The claims that a route passes on in the query stand at the end of its targets, each at its place.
Callers with the same target have therefore the same claims there, and callers with the same claims
there get the same target, whatever else is claimed. What a route passes on in headers has to be
claimed too, or no request is made for a backend.
-/

namespace ApiGateway

theorem ClaimsExpression.extract_whole_iff
    {key claim value : String}
    {c : Claims} :
    extract ⟨key, claim, none⟩ c = .ok value ↔ c.get? claim = some value := by
  unfold extract
  dsimp only
  cases c.get? claim with
  | none => exact ⟨nofun, nofun⟩
  | some v => rw [Except.ok.injEq, Option.some.injEq]

/-- The value that is taken does not depend on the key under which it is passed on. -/
theorem ClaimsExpression.extract_eq_ok_iff_of_eq
    {e e' : ClaimsExpression}
    (hclaim : e.claim = e'.claim)
    (hpiece : e.piece = e'.piece)
    {c : Claims}
    {value : String} :
    e.extract c = .ok value ↔ e'.extract c = .ok value := by
  unfold extract
  rw [hclaim, hpiece]
  cases c.get? e'.claim with
  | none => exact ⟨nofun, nofun⟩
  | some v =>
      cases e'.piece with
      | none => exact Iff.rfl
      | some p =>
          dsimp only
          cases (Text.splitAtText p.delimiter v)[p.index]? with
          | none => exact ⟨nofun, nofun⟩
          | some s => exact Iff.rfl

/-- Two callers have values for all expressions, and the same ones. -/
def Claims.SameOn (es : List ClaimsExpression) (c c' : Claims) : Prop :=
  ∀ e ∈ es, ∃ value, e.extract c = .ok value ∧ e.extract c' = .ok value

/-- The headers for which the query shows the same piece of the same claim. -/
def Route.shownHeaders (r : Route) : List ClaimsExpression :=
  r.headersFromClaims.filter fun e =>
    r.queriesFromClaims.any fun q => q.claim = e.claim ∧ q.piece = e.piece

/-- Callers with the same claims in the query have the same in the headers that pass these on. -/
theorem Claims.SameOn.shownHeaders
    {r : Route}
    {c c' : Claims}
    (h : c.SameOn r.queriesFromClaims c') :
    c.SameOn r.shownHeaders c' := by
  intro e he
  obtain ⟨q, hq, hsame⟩ := List.any_eq_true.1 (List.mem_filter.1 he).2
  obtain ⟨hclaim, hpiece⟩ := of_decide_eq_true hsame
  obtain ⟨value, hvalue, hvalue'⟩ := h q hq
  exact ⟨value, (ClaimsExpression.extract_eq_ok_iff_of_eq hclaim hpiece).1 hvalue,
    (ClaimsExpression.extract_eq_ok_iff_of_eq hclaim hpiece).1 hvalue'⟩

/-- Two readings of a list that give the same results give the same for each member. -/
theorem exists_common_of_mapM_eq_ok
    {ε α β : Type}
    {f f' : α → Except ε β}
    {xs : List α}
    {ys : List β}
    (h : xs.mapM f = .ok ys)
    (h' : xs.mapM f' = .ok ys)
    {x : α}
    (hx : x ∈ xs) :
    ∃ y, f x = .ok y ∧ f' x = .ok y := by
  have hall := forall₂_of_mapM_eq_ok h
  have hall' := forall₂_of_mapM_eq_ok h'
  clear h h'
  induction hall with
  | nil => cases hx
  | cons hy _ ih =>
      cases hall' with
      | cons hy' hrest' =>
          rcases List.mem_cons.1 hx with rfl | hx
          · exact ⟨_, hy, hy'⟩
          · exact ih hx hrest'

namespace Exchange

/-- A mark in front of a parameter. -/
def separates (c : Char) : Bool :=
  c == '?' || c == '&'

/-- The parts between the marks of a target: those of the path, then those of the pieces. -/
theorem splitWhere_joinTarget
    (path : String)
    {ps : List String}
    (hne : ps ≠ []) :
    Text.splitWhere separates (joinTarget path ps).toList =
      Text.splitWhere separates path.toList ++
        (ps.map String.toList).flatMap (Text.splitWhere separates) := by
  have hchars : (joinTarget path ps).toList =
      path.toList ++ '?' :: ['&'].intercalate (ps.map String.toList) := by
    simp [joinTarget, hne, String.toList_append]
  rw [hchars, Text.splitWhere_append_mark (by decide),
    Text.splitWhere_intercalate (by decide) (by simpa using hne)]

theorem isMark_of_separates
    {c : Char}
    (h : separates c = true) :
    Percent.isMark c = true := by
  rw [separates, Bool.or_eq_true, beq_iff_eq, beq_iff_eq] at h
  rcases h with rfl | rfl <;> rfl

/-- A piece that passes a claim on has no mark in front of a parameter. -/
theorem not_separates_of_claimPiece
    {claims : Claims}
    {e : ClaimsExpression}
    {p : String}
    (h : claimPiece claims e = .ok p) :
    ∀ c ∈ p.toList, separates c = false := by
  obtain ⟨value, _, rfl⟩ := exists_of_claimPiece h
  intro c hc
  refine eq_false_of_ne_true fun hsep => ?_
  rw [toList_encoded, List.mem_append, List.mem_cons] at hc
  rcases hc with hc | rfl | hc
  · exact notMem_encode e.key (isMark_of_separates hsep) hc
  · cases hsep
  · exact notMem_encode value (isMark_of_separates hsep) hc

section

variable {es : List ClaimsExpression}
variable {c c' : Claims}

theorem not_separates_of_mapM
    {added : List String}
    (h : es.mapM (claimPiece c) = .ok added) :
    ∀ cs ∈ added.map String.toList, ∀ c ∈ cs, separates c = false := by
  have hall := forall₂_of_mapM_eq_ok h
  clear h
  induction hall with
  | nil => exact List.forall_mem_nil _
  | cons hp _ ih => exact List.forall_mem_cons.2 ⟨not_separates_of_claimPiece hp, ih⟩

/-- A target shows at its end what was added to it. -/
theorem added_eq_of_joinTarget_eq
    {path path' : String}
    {kept kept' added added' : List String}
    (h : es.mapM (claimPiece c) = .ok added)
    (h' : es.mapM (claimPiece c') = .ok added')
    (htarget : joinTarget path (kept ++ added) = joinTarget path' (kept' ++ added')) :
    added = added' := by
  have hlength : added.length = added'.length :=
    (forall₂_of_mapM_eq_ok h).length_eq.symm.trans (forall₂_of_mapM_eq_ok h').length_eq
  rcases eq_or_ne added [] with rfl | hne
  · exact (List.eq_nil_of_length_eq_zero hlength.symm).symm
  have hne' : added' ≠ [] := List.ne_nil_of_length_pos (hlength ▸ List.length_pos_of_ne_nil hne)
  have hsplit := congrArg (Text.splitWhere separates ·.toList) htarget
  simp only [splitWhere_joinTarget _ (List.append_ne_nil_of_right_ne_nil _ hne),
    splitWhere_joinTarget _ (List.append_ne_nil_of_right_ne_nil _ hne'), List.map_append,
    List.flatMap_append, Text.flatMap_splitWhere_eq_self (not_separates_of_mapM h),
    Text.flatMap_splitWhere_eq_self (not_separates_of_mapM h'), ← List.append_assoc] at hsplit
  have hchars := List.append_inj_right' hsplit (by simpa using hlength)
  exact List.map_injective_iff.2 (fun _ _ => String.toList_injective) hchars

/-- Callers who get one target on one route have the same claims in it. -/
theorem sameOn_of_targetOf_eq
    {r r' : ResolvedRoute}
    {query query' : Option String}
    {target : String}
    (hroute : r.route.queriesFromClaims = r'.route.queriesFromClaims)
    (h : targetOf r query c = .ok target)
    (h' : targetOf r' query' c' = .ok target) :
    c.SameOn r'.route.queriesFromClaims c' := by
  obtain ⟨added, hadded, h⟩ := bind_eq_ok.1 h
  obtain ⟨added', hadded', h'⟩ := bind_eq_ok.1 h'
  rw [hroute] at hadded
  obtain rfl := added_eq_of_joinTarget_eq hadded hadded'
    ((Except.ok.inj h).trans (Except.ok.inj h').symm)
  intro e he
  obtain ⟨p, hp, hp'⟩ := exists_common_of_mapM_eq_ok hadded hadded' he
  obtain ⟨value, hvalue, hp⟩ := bind_eq_ok.1 hp
  obtain ⟨value', hvalue', hp'⟩ := bind_eq_ok.1 hp'
  cases hp
  have hencoded := congrArg String.toList (Except.ok.inj hp')
  rw [toList_encoded, toList_encoded] at hencoded
  obtain ⟨_, hencoded⟩ := Text.append_mark_inj (notMem_encode _ (by decide))
    (notMem_encode _ (by decide)) hencoded
  obtain rfl := Percent.encode_injective (String.toList_injective hencoded)
  exact ⟨value', hvalue, hvalue'⟩

/-- A target depends on the claims that it shows and on no others. -/
theorem targetOf_congr
    {r : ResolvedRoute}
    (h : c.SameOn r.route.queriesFromClaims c')
    (query : Option String) :
    targetOf r query c' = targetOf r query c := by
  have hpieces : r.route.queriesFromClaims.mapM (claimPiece c') =
      r.route.queriesFromClaims.mapM (claimPiece c) := by
    generalize r.route.queriesFromClaims = es at h
    induction es with
    | nil => rfl
    | cons e es ih =>
        obtain ⟨⟨value, hvalue, hvalue'⟩, hes⟩ := List.forall_mem_cons.1 h
        have hpiece : claimPiece c' e = claimPiece c e := by
          rw [claimPiece, claimPiece, hvalue, hvalue']
        rw [List.mapM_cons, List.mapM_cons, hpiece, ih hes]
  rw [targetOf, targetOf, hpieces]

end

section Headers

theorem route_eq_ok_iff
    {x : Exchange}
    {found : ResolvedRoute} :
    x.route = .ok found ↔ x.resolved = some found := by
  unfold route
  cases x.resolved with
  | none => exact ⟨nofun, nofun⟩
  | some r => exact ⟨fun h => congrArg some (Except.ok.inj h), fun h => h ▸ rfl⟩

/-- The route of an exchange has values for all headers that it makes of claims. -/
def HasHeaders (x : Exchange) : Prop :=
  ∀ found, x.resolved = some found →
    ∀ e ∈ found.route.headersFromClaims, ∃ value, e.extract x.callerClaims = .ok value

theorem HasHeaders.congr
    {x y : Exchange}
    (h : x.HasHeaders)
    (hy : y.inquiry = x.inquiry) :
    y.HasHeaders := by
  unfold HasHeaders
  rw [(inquiry_eq_iff.1 hy).2.1, callerClaims_congr hy]
  exact h

/-- Headers that could all be added have their values. -/
theorem exists_extract_of_addClaims
    {claims : Claims}
    {es : List ClaimsExpression}
    {h h' : Headers}
    (hadd : es.foldlM (Headers.addClaim claims) h = .ok h') :
    ∀ e ∈ es, ∃ value, e.extract claims = .ok value := by
  induction es generalizing h with
  | nil => exact List.forall_mem_nil _
  | cons e es ih =>
      rw [List.foldlM_cons] at hadd
      obtain ⟨next, hnext, hadd⟩ := bind_eq_ok.1 hadd
      obtain ⟨value, hvalue, _⟩ := bind_eq_ok.1 hnext
      exact List.forall_mem_cons.2 ⟨⟨value, hvalue⟩, ih hadd⟩

/-- A request to a backend is made only where the claims have all its headers. -/
theorem hasHeaders_of_buildOutbound
    {x : Exchange}
    {q : Request}
    (h : x.buildOutbound = .ok q) :
    x.HasHeaders := by
  obtain ⟨found, hfound, h⟩ := bind_eq_ok.1 h
  obtain ⟨_, _, h⟩ := bind_eq_ok.1 h
  obtain ⟨headers, hheaders, _⟩ := bind_eq_ok.1 h
  obtain ⟨_, hadd, _⟩ := bind_eq_ok.1 hheaders
  intro found' hfound'
  obtain rfl := Option.some.inj ((route_eq_ok_iff.1 hfound).symm.trans hfound')
  exact exists_extract_of_addClaims hadd

end Headers

end Exchange
end ApiGateway
