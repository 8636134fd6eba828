import ApiGateway.Proofs.Route.Cuts
import ApiGateway.Route.Table
import Mathlib.Data.List.Nodup

/-!
# How routes are tried

A table tries its routes one after another. Each one that does not serve a request is passed over,
and adds its methods to those that are allowed if it covers the path. So either the first route that
serves the request is taken, or the request is refused with the methods of all routes that cover its
path (`Tried`), and what is asked about the outcome is read off this.

Main statement: `RouteTable.tried_resolve`.
-/

namespace ApiGateway

section Distinct

variable {α β : Type}
variable [BEq β] [LawfulBEq β]
variable {f : α → β}
variable {xs : List α}
variable {ys : List β}

/-- What is in a row that takes on what is new to it. -/
theorem mem_foldl_new_iff
    {b : β} :
    b ∈ xs.foldl (fun ys x => if ys.contains (f x) then ys else ys ++ [f x]) ys ↔
      b ∈ ys ∨ ∃ x ∈ xs, f x = b := by
  induction xs generalizing ys with
  | nil => simp
  | cons x xs ih =>
      rw [List.foldl_cons, ih, List.exists_mem_cons_iff, ← or_assoc]
      refine or_congr_left ?_
      split
      · rename_i hold
        rw [List.contains_iff_mem] at hold
        exact ⟨.inl, fun h => h.elim id fun heq => heq ▸ hold⟩
      · rw [List.mem_append, List.mem_singleton, eq_comm]

/-- Nothing is twice in a row that takes on what is new to it. -/
theorem nodup_foldl_new
    (h : ys.Nodup) :
    (xs.foldl (fun ys x => if ys.contains (f x) then ys else ys ++ [f x]) ys).Nodup := by
  induction xs generalizing ys with
  | nil => exact h
  | cons x xs ih =>
      rw [List.foldl_cons]
      refine ih ?_
      split
      · exact h
      · rename_i hnew
        rw [List.contains_iff_mem] at hnew
        exact List.nodup_append.2 ⟨h, List.nodup_singleton _, fun b hb _ hx heq =>
          hnew (List.mem_singleton.1 hx ▸ heq ▸ hb)⟩

end Distinct

namespace Route

/-- The upstream template of a route matches a path. -/
def Covers (r : Route) (path : String) : Prop :=
  r.upstream.isMatch path = true

/-- A route takes all methods, or it names this one, in any case. -/
def Takes (r : Route) (m : Method) : Prop :=
  r.methods = [] ∨ ∃ n ∈ r.methods, Text.asciiLower n.text = Text.asciiLower m.text

/-- A request of a method and a path can take a route. -/
def Serves (r : Route) (m : Method) (path : String) : Prop :=
  r.Covers path ∧ r.Takes m

section

variable {r : Route}
variable {path : String}

theorem allows_iff {m : Method} : r.allows m = true ↔ r.Takes m := by
  simp [allows, Takes, Text.sameIgnoringCase]

theorem covers_iff : r.Covers path ↔ ∃ m, r.upstream.match? path = some m := by
  rw [Covers, Template.isMatch_eq_isSome, Option.isSome_iff_exists]

end

end Route

namespace RouteTable

/-- The methods for a path: those that are there, and those of all routes that cover it. -/
def allowedFor (path : String) (allowed : List String) (rs : List Route) : List String :=
  (rs.filter (·.upstream.isMatch path)).foldl addAllowed allowed

/-- The refusal of a request that no route serves. -/
def refusal (allowed : List String) : GatewayError :=
  if allowed.isEmpty then .routeNotFound else .methodNotAllowed allowed

/-- What may come of trying routes one by one, given the methods that are allowed already. -/
inductive Tried (method : Method) (path : String) (allowed : List String) (rs : List Route) :
    Except GatewayError ResolvedRoute → Prop
  | taken {before after : List Route} {r : Route} {m : PathMatch} :
      rs = before ++ r :: after →
      (∀ r' ∈ before, ¬ r'.Serves method path) →
      r.Takes method →
      r.upstream.match? path = some m →
      Tried method path allowed rs
        ((Template.substitute r.downstreamTemplate m).map fun out => ⟨r, m, out⟩)
  | refused :
      (∀ r ∈ rs, ¬ r.Serves method path) →
      Tried method path allowed rs (.error (refusal (allowedFor path allowed rs)))

section Scan

variable {method : Method}
variable {path : String}
variable {allowed allowed' : List String}
variable {r : Route}
variable {rs : List Route}
variable {result : Except GatewayError ResolvedRoute}

@[simp] theorem allowedFor_nil (path : String) (allowed : List String) :
    allowedFor path allowed [] = allowed :=
  rfl

/-- A route that covers the path adds its methods. -/
theorem allowedFor_cons_of_covers (h : r.Covers path) :
    allowedFor path allowed (r :: rs) = allowedFor path (addAllowed allowed r) rs := by
  have hcovers : r.upstream.isMatch path = true := h
  simp only [allowedFor, List.filter_cons, hcovers, if_true, List.foldl_cons]

/-- A route that does not cover the path adds nothing. -/
theorem allowedFor_cons_of_not_covers (h : ¬ r.Covers path) :
    allowedFor path allowed (r :: rs) = allowedFor path allowed rs := by
  have hcovers : ¬ r.upstream.isMatch path = true := h
  simp only [allowedFor, List.filter_cons, if_neg hcovers]

/-- A route that does not serve the request is passed over. -/
theorem Tried.cons
    (hr : ¬ r.Serves method path)
    (hallowed : allowedFor path allowed (r :: rs) = allowedFor path allowed' rs)
    (h : Tried method path allowed' rs result) :
    Tried method path allowed (r :: rs) result := by
  cases h with
  | taken hrs hbefore htakes hm =>
      exact .taken (congrArg (r :: ·) hrs) (List.forall_mem_cons.2 ⟨hr, hbefore⟩) htakes hm
  | refused hnone =>
      rw [← hallowed]
      exact .refused (List.forall_mem_cons.2 ⟨hr, hnone⟩)

/-- The first route that serves a request is taken; if there is none, the request is refused. -/
theorem tried_resolveFrom : Tried method path allowed rs (resolveFrom method path allowed rs) := by
  induction rs generalizing allowed with
  | nil =>
      have hrefused : resolveFrom method path allowed [] = .error (refusal allowed) := by
        rw [resolveFrom, refusal]
        split <;> rfl
      rw [hrefused]
      exact .refused (List.forall_mem_nil _)
  | cons r rs ih =>
      cases hm : r.upstream.match? path with
      | none =>
          have hnext : resolveFrom method path allowed (r :: rs) =
              resolveFrom method path allowed rs := by
            rw [resolveFrom, hm]
          have hcovers : ¬ r.Covers path := by
            rw [Route.covers_iff, hm]
            exact nofun
          rw [hnext]
          exact .cons (fun h => hcovers h.1) (allowedFor_cons_of_not_covers hcovers) ih
      | some m =>
          by_cases htakes : r.allows method = true
          · have hfound : resolveFrom method path allowed (r :: rs) =
                (Template.substitute r.downstreamTemplate m).map fun out => ⟨r, m, out⟩ := by
              rw [resolveFrom, hm]
              exact if_pos htakes
            rw [hfound]
            exact .taken (List.nil_append _).symm (List.forall_mem_nil _)
              (Route.allows_iff.1 htakes) hm
          · have hnext : resolveFrom method path allowed (r :: rs) =
                resolveFrom method path (addAllowed allowed r) rs := by
              rw [resolveFrom, hm]
              exact if_neg htakes
            rw [hnext]
            exact .cons (fun h => htakes (Route.allows_iff.2 h.2))
              (allowedFor_cons_of_covers (Route.covers_iff.2 ⟨m, hm⟩)) ih

/-- The methods for a path are those that the covering routes name. -/
theorem mem_allowedFor_iff {a : String} :
    a ∈ allowedFor path allowed rs ↔
      a ∈ allowed ∨ ∃ r ∈ rs, r.Covers path ∧ ∃ m ∈ r.methods, m.text = a := by
  induction rs generalizing allowed with
  | nil => simp
  | cons r rs ih =>
      rw [List.exists_mem_cons_iff]
      by_cases hcovers : r.Covers path
      · rw [allowedFor_cons_of_covers hcovers, ih, addAllowed, mem_foldl_new_iff, or_assoc,
          and_iff_right hcovers]
      · rw [allowedFor_cons_of_not_covers hcovers, ih,
          or_iff_right (a := _ ∧ _) fun h => hcovers h.1]

theorem nodup_allowedFor (h : allowed.Nodup) : (allowedFor path allowed rs).Nodup := by
  unfold allowedFor
  generalize rs.filter _ = covering
  induction covering generalizing allowed with
  | nil => exact h
  | cons r covering ih => exact ih (nodup_foldl_new h)

end Scan

section Outcome

variable {t : RouteTable}
variable {method : Method}
variable {path : String}
variable {found : ResolvedRoute}

/-- A table takes the first route that serves a request, or refuses the request. -/
theorem tried_resolve
    (t : RouteTable)
    (method : Method)
    (path : String) :
    Tried method path [] t.routes (t.resolve method path) :=
  tried_resolveFrom

/-- What is found is the first route that serves the request, and what it makes of the path. -/
theorem exists_taken_of_resolve
    (h : t.resolve method path = .ok found) :
    ∃ before after,
      t.routes = before ++ found.route :: after ∧
      (∀ r' ∈ before, ¬ r'.Serves method path) ∧
      found.route.Takes method ∧
      found.route.upstream.match? path = some found.pathMatch ∧
      Template.substitute found.route.downstreamTemplate found.pathMatch =
        .ok found.downstreamPath := by
  have htried := t.tried_resolve method path
  rw [h] at htried
  generalize hresult : Except.ok found = result at htried
  cases htried with
  | @taken before after r m hrs hbefore htakes hm =>
      obtain ⟨out, hout, rfl⟩ := map_eq_ok.1 hresult.symm
      exact ⟨before, after, hrs, hbefore, htakes, hm, hout⟩
  | refused => cases hresult

/-- A route that is found is one of the table. -/
theorem mem_of_resolve (h : t.resolve method path = .ok found) : found.route ∈ t.routes := by
  obtain ⟨before, _, hroutes, _⟩ := exists_taken_of_resolve h
  rw [hroutes]
  exact List.mem_append_right before List.mem_cons_self

/-- A downstream path is what the values of the request make of the template of its route. -/
theorem substitute_of_resolve
    (h : t.resolve method path = .ok found) :
    Template.substitute found.route.downstreamTemplate found.pathMatch =
      .ok found.downstreamPath := by
  obtain ⟨_, _, _, _, _, _, hout⟩ := exists_taken_of_resolve h
  exact hout

end Outcome

end RouteTable
end ApiGateway
