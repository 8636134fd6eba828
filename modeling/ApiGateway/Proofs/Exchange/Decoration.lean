import ApiGateway.Exchange.Outbound
import ApiGateway.Proofs.Http.Fields

/-!
# What is added to an answer

An answer of a backend loses the fields that belong to one connection, and nothing else
(`Response.StripsTo`). What is then added to a response for a caller are the request identifier,
under the name that the route has for it, and the advice of the rate limiter; the status, the body
and the fields of all other names stay as they are (`Exchange.Decorates`).
-/

namespace ApiGateway

/-- A response without the fields that belong to one connection. -/
def Response.withoutHops (r : Response) : Response :=
  { r with headers := r.headers.withoutHops }

/-- The fields that belong to one connection are gone, and all others are left. -/
theorem Headers.getAll_withoutHops (h : Headers) (n : HeaderName) :
    h.withoutHops.getAll n = if n ∈ HeaderName.hopByHop then [] else h.getAll n :=
  h.getAll_foldl_erase n HeaderName.hopByHop

/--
An answer is left as it is apart from the fields that belong to one connection, which are gone.
-/
structure Response.StripsTo (answer stripped : Response) : Prop where
  status : stripped.status = answer.status
  body : stripped.body = answer.body
  headers : ∀ n, stripped.headers.getAll n =
    if n ∈ HeaderName.hopByHop then [] else answer.headers.getAll n

theorem Response.stripsTo_withoutHops (answer : Response) : answer.StripsTo answer.withoutHops :=
  ⟨rfl, rfl, answer.headers.getAll_withoutHops⟩

namespace Exchange

variable (x : Exchange)

/-- The rate limiter tells the caller something under a name. -/
def Advises (n : HeaderName) : Prop :=
  ∃ f ∈ x.advice.fields, f.1 = n

/-- The route has the name for the request identifier, which a response tells there. -/
def Echoes (n : HeaderName) : Prop :=
  x.resolved.bind (·.route.requestIdKey) = some n

/-- A name under which nothing is added for the caller of an exchange. -/
def Leaves (n : HeaderName) : Prop :=
  ¬ x.Advises n ∧ ¬ x.Echoes n

instance (n : HeaderName) : Decidable (x.Advises n) :=
  inferInstanceAs (Decidable (∃ f ∈ x.advice.fields, f.1 = n))

instance (n : HeaderName) : Decidable (x.Echoes n) :=
  inferInstanceAs (Decidable (_ = _))

instance (n : HeaderName) : Decidable (x.Leaves n) :=
  inferInstanceAs (Decidable (_ ∧ _))

/-- The request identifier as a value, under its name. -/
def identifier? (n : HeaderName) : Option HeaderValue :=
  if x.Echoes n then HeaderValue.ofText? x.requestId else none

/--
A response is what it was before anything was added to it, apart from the request identifier and the
advice: these are the only values of their names, and the identifier comes first.
-/
structure Decorates (base response : Response) : Prop where
  status : response.status = base.status
  body : response.body = base.body
  identifier : ∀ n v, x.identifier? n = some v → response.headers.getAll n = [v]
  advice : ∀ n v, x.identifier? n = none → x.advice.getAll n = [v] →
    response.headers.getAll n = [v]
  others : ∀ n, x.identifier? n = none → x.advice.getAll n = [] →
    response.headers.getAll n = base.headers.getAll n

variable {x}
variable {n : HeaderName}

theorem advises_iff : x.Advises n ↔ x.advice.getAll n ≠ [] := by
  simp [Advises, Headers.getAll_eq_nil_iff]

/-- Nothing is added to the answer to a request that has come to no route. -/
theorem leaves_of_unresolved
    (hresolved : x.resolved = none)
    (hadvice : x.advice = {})
    (n : HeaderName) :
    x.Leaves n := by
  refine ⟨fun hadvises => ?_, fun hechoes => ?_⟩
  · rw [advises_iff, hadvice] at hadvises
    exact hadvises rfl
  · rw [Echoes, hresolved] at hechoes
    exact Option.some_ne_none n hechoes.symm

theorem identifier?_of_not_echoes (h : ¬ x.Echoes n) : x.identifier? n = none :=
  if_neg h

theorem identifier?_of_echoes
    (h : x.Echoes n)
    (hid : (HeaderValue.ofText? x.requestId).isSome) :
    x.identifier? n = some (Bytes.ofText x.requestId) := by
  obtain ⟨v, hv⟩ := Option.isSome_iff_exists.1 hid
  rw [identifier?, if_pos h, hv, HeaderValue.eq_ofText_of_ofText? hv]

variable (x)

theorem status_decorate (r : Response) : (x.decorate r).status = r.status := by
  unfold decorate
  dsimp only
  split <;> rfl

theorem body_decorate (r : Response) : (x.decorate r).body = r.body := by
  unfold decorate
  dsimp only
  split <;> rfl

/-- The request identifier takes the place of what is under its name, and the advice elsewhere. -/
theorem getAll_decorate (r : Response) (n : HeaderName) :
    (x.decorate r).headers.getAll n =
      match x.identifier? n with
      | some v => [v]
      | none => (overwrite r.headers x.advice).getAll n := by
  cases hroute : x.resolved.bind (·.route.requestIdKey) with
  | none =>
      have hnot : ¬ x.Echoes n := fun h => Option.some_ne_none n (h.symm.trans hroute)
      rw [identifier?_of_not_echoes hnot, decorate, hroute]
  | some key =>
      have hechoes : x.Echoes n ↔ key = n := by rw [Echoes, hroute, Option.some.injEq]
      rw [decorate, hroute]
      dsimp only
      by_cases hkey : key = n
      · subst hkey
        rw [identifier?, if_pos (hechoes.2 rfl)]
        cases hid : HeaderValue.ofText? x.requestId with
        | none => rw [Headers.setText_of_ofText?_eq_none _ _ hid]
        | some v =>
            rw [Headers.getAll_setText _ _ _ (by rw [hid]; rfl), if_pos rfl,
              HeaderValue.eq_ofText_of_ofText? hid]
      · rw [identifier?_of_not_echoes (fun h => hkey (hechoes.1 h)),
          Headers.getAll_setText_of_ne _ hkey]

/-- What is added to a response is the request identifier and the advice, and nothing else. -/
theorem decorates_decorate (r : Response) : x.Decorates r (x.decorate r) where
  status := x.status_decorate r
  body := x.body_decorate r
  identifier n v hid := by rw [getAll_decorate, hid]
  advice n v hid hadvice := by
    rw [getAll_decorate, hid]
    refine (r.headers.getAll_foldl_set n x.advice.fields).trans ?_
    rw [hadvice]
    rfl
  others n hid hadvice := by
    rw [getAll_decorate, hid]
    refine (r.headers.getAll_foldl_set n x.advice.fields).trans ?_
    rw [hadvice]
    rfl

variable {x}

/-- Under other names there is what was there before. -/
theorem Decorates.getAll_of_leaves
    {base response : Response}
    (h : x.Decorates base response)
    (hn : x.Leaves n) :
    response.headers.getAll n = base.headers.getAll n :=
  h.others n (identifier?_of_not_echoes hn.2)
    (Classical.byContradiction fun hne => hn.1 (advises_iff.2 hne))

end Exchange
end ApiGateway
