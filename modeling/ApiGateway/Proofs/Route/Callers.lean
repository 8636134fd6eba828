import ApiGateway.Proofs.Route.Compilation
import Mathlib.Data.List.Perm.Basic
import Mathlib.Data.String.Basic

/-!
# What a compiled route has to do with its callers

Whom a compiled route asks about its callers, what it requires of them, and which of their claims it
passes on to its backends, all as the settings have it. The expressions of a route have distinct
keys, since they come from a dictionary, and they are in the order of their keys.
-/

namespace ApiGateway

/-- Reading a list in which each member is read on its own. -/
theorem forall₂_of_mapM_eq_ok
    {ε α β : Type}
    {f : α → Except ε β}
    {xs : List α}
    {ys : List β}
    (h : xs.mapM f = .ok ys) :
    List.Forall₂ (fun x y => f x = .ok y) xs ys := by
  induction xs generalizing ys with
  | nil =>
      cases h
      exact .nil
  | cons x xs ih =>
      rw [List.mapM_cons] at h
      obtain ⟨y, hy, h⟩ := bind_eq_ok.1 h
      obtain ⟨ys', hys, h⟩ := bind_eq_ok.1 h
      cases h
      exact .cons hy (ih hys)

/-- Whatever is in a list has its counterpart in one that corresponds to it. -/
theorem exists_of_mem_of_forall₂
    {α β : Type}
    {R : α → β → Prop}
    {xs : List α}
    {ys : List β}
    (h : List.Forall₂ R xs ys)
    {x : α}
    (hx : x ∈ xs) :
    ∃ y ∈ ys, R x y := by
  induction h with
  | nil => cases hx
  | cons hxy _ ih =>
      rcases List.mem_cons.1 hx with rfl | hx
      · exact ⟨_, List.mem_cons_self, hxy⟩
      · obtain ⟨y, hy, hxy⟩ := ih hx
        exact ⟨y, List.mem_cons_of_mem _ hy, hxy⟩

/-- An expression has the key that it was read for. -/
theorem ClaimsExpression.key_of_parse
    {key expression : String}
    {e : ClaimsExpression}
    (h : ClaimsExpression.parse key expression = .ok e) :
    e.key = key := by
  unfold parse at h
  split at h
  · rename_i e' hread
    cases h
    unfold read? at hread
    simp only [bind, Option.bind_eq_some_iff] at hread
    obtain ⟨claim, -, second, -, index, -, hread⟩ := hread
    split at hread <;> cases hread <;> rfl
  · cases h

namespace Route

/-- What a compiled route has to do with its callers. -/
structure CallersFrom (c : Config.Route) (r : Route) : Prop where
  authentication :
    r.authentication = c.authentication.map fun a => ⟨a.providerKey, a.allowedScopes⟩
  requirement : ∀ q, q ∈ r.claimsRequirement ↔ q ∈ c.claimsRequirement.pairs
  /-- One expression for each key that is configured, in the order of the keys. -/
  queries : (r.queriesFromClaims.map (·.key)).Perm (c.addQueries.pairs.map (·.1))

section Settings

variable {f : String × String → Except GatewayError ClaimsExpression}
variable {pairs : List (String × String)}
variable {es : List ClaimsExpression}

theorem keys_of_forall₂
    (hkey : ∀ p e, f p = .ok e → e.key = p.1)
    (h : List.Forall₂ (fun p e => f p = .ok e) pairs es) :
    es.map (·.key) = pairs.map (·.1) := by
  induction h with
  | nil => rfl
  | cons hp _ ih => rw [List.map_cons, List.map_cons, ih, hkey _ _ hp]

theorem pairwise_keys_sortByKey
    (es : List ClaimsExpression) :
    ((sortByKey es).map (·.key)).Pairwise (· ≤ ·) := by
  have hsorted : (sortByKey es).Pairwise fun a b => decide (a.key ≤ b.key) = true :=
    List.pairwise_mergeSort
      (fun _ _ _ hab hbc => decide_eq_true ((of_decide_eq_true hab).trans (of_decide_eq_true hbc)))
      (fun a b => by simpa using le_total a.key b.key) es
  exact List.pairwise_map.2 (hsorted.imp of_decide_eq_true)

/-- Expressions that are read from a dictionary and sorted are those of its pairs by their keys. -/
theorem exists_settings_of_mapM
    (hkey : ∀ p e, f p = .ok e → e.key = p.1)
    (hdistinct : (pairs.map (·.1)).Nodup)
    (h : pairs.mapM f = .ok es) :
    ∃ settings : List (String × String),
      settings.Perm pairs ∧
      (settings.map (·.1)).Pairwise (· < ·) ∧
      List.Forall₂ (fun p e => f p = .ok e) settings (sortByKey es) := by
  obtain ⟨settings, hall, hperm⟩ :=
    List.perm_comp_forall₂ (List.mergeSort_perm es _) (forall₂_of_mapM_eq_ok h).flip
  refine ⟨settings, hperm, ?_, hall.flip⟩
  have hkeys := keys_of_forall₂ hkey hall.flip
  have hnodup : (settings.map (·.1)).Nodup := (hperm.map (·.1)).nodup_iff.2 hdistinct
  exact List.Pairwise.imp₂ (fun _ _ hle hne => lt_of_le_of_ne hle hne)
    (hkeys ▸ pairwise_keys_sortByKey es) hnodup

end Settings

theorem callersFrom_of_compile
    {generation : Nat}
    {global : Config.Global}
    {c : Config.Route}
    {r : Route}
    (h : Route.compile generation global c = .ok r) :
    r.CallersFrom c := by
  obtain ⟨_, _, _, _, _, _, queries, _, _, _, ⟨_, hqueries, _⟩, rfl⟩ := exists_of_compile h
  refine ⟨rfl, fun q => List.mem_mergeSort, ?_⟩
  have hkeys := keys_of_forall₂ (fun _ _ => ClaimsExpression.key_of_parse)
    (forall₂_of_mapM_eq_ok hqueries)
  exact ((List.mergeSort_perm queries _).map _).trans (.of_eq hkeys)

/-- The expressions for queries are those of the settings, in the order of their keys. -/
theorem exists_querySettings_of_compile
    {generation : Nat}
    {global : Config.Global}
    {c : Config.Route}
    {r : Route}
    (h : Route.compile generation global c = .ok r) :
    ∃ settings : List (String × String),
      settings.Perm c.addQueries.pairs ∧
      (settings.map (·.1)).Pairwise (· < ·) ∧
      List.Forall₂ (fun p e => ClaimsExpression.parse p.1 p.2 = .ok e) settings
        r.queriesFromClaims := by
  obtain ⟨_, _, _, _, _, _, _, _, _, _, ⟨_, hqueries, _⟩, rfl⟩ := exists_of_compile h
  exact exists_settings_of_mapM (fun _ _ => ClaimsExpression.key_of_parse) c.addQueries.distinct
    hqueries

/-- The expressions of a compiled route have distinct keys. -/
theorem CallersFrom.nodup_keys
    {c : Config.Route}
    {r : Route}
    (h : r.CallersFrom c) :
    (r.queriesFromClaims.map (·.key)).Nodup :=
  h.queries.nodup_iff.2 c.addQueries.distinct

theorem exists_headerName_of_parseHeader
    {setting : String × String}
    {e : ClaimsExpression}
    (h : (do
      let _ ← parseHeaderName setting.1
      ClaimsExpression.parse setting.1 setting.2) = .ok e) :
    ∃ n, HeaderName.ofText? setting.1 = some n ∧
      ClaimsExpression.parse setting.1 setting.2 = .ok e := by
  obtain ⟨n, hname, hparse⟩ := bind_eq_ok.1 h
  unfold parseHeaderName at hname
  split at hname
  · exact ⟨_, ‹_›, hparse⟩
  · cases hname

/-- The expressions for headers are those of the settings, and each has the name of a header. -/
theorem headerSettings_of_compile
    {generation : Nat}
    {global : Config.Global}
    {c : Config.Route}
    {r : Route}
    (h : Route.compile generation global c = .ok r) :
    (∀ setting ∈ c.addHeaders.pairs, ∃ n, ∃ e ∈ r.headersFromClaims,
      HeaderName.ofText? setting.1 = some n ∧
      ClaimsExpression.parse setting.1 setting.2 = .ok e) ∧
    ∀ e ∈ r.headersFromClaims, ∃ n, ∃ setting ∈ c.addHeaders.pairs,
      HeaderName.ofText? setting.1 = some n ∧
      ClaimsExpression.parse setting.1 setting.2 = .ok e := by
  obtain ⟨_, _, _, _, _, headers, _, _, _, _, ⟨hheaders, _⟩, rfl⟩ := exists_of_compile h
  have hall := forall₂_of_mapM_eq_ok hheaders
  refine ⟨fun setting hsetting => ?_, fun e he => ?_⟩
  · obtain ⟨e, he, hread⟩ := exists_of_mem_of_forall₂ hall hsetting
    obtain ⟨n, hn, hparse⟩ := exists_headerName_of_parseHeader hread
    exact ⟨n, e, List.mem_mergeSort.2 he, hn, hparse⟩
  · obtain ⟨setting, hsetting, hread⟩ :=
      exists_of_mem_of_forall₂ (List.Forall₂.flip (R := flip _) hall) (List.mem_mergeSort.1 he)
    obtain ⟨n, hn, hparse⟩ := exists_headerName_of_parseHeader hread
    exact ⟨n, setting, hsetting, hn, hparse⟩

end Route
end ApiGateway
