import ApiGateway.Proofs.Run.Passages

/-!
# What stages leave alone

The stages of the entry, in front of the first one that has to do with a backend, change nothing
that requests share but counters and metrics. And only three stages have to do with leases: the one
that takes them, the one that calls the backend, and the one that gives them back.
-/

namespace ApiGateway

/-- The stages that decide whether a request goes on to a backend. -/
def Stage.entry : List Stage :=
  [routeResolution, rateLimit, authentication, authorisation, cacheLookup]

/-- The stages that deal with a backend and its answer. -/
def Stage.service : List Stage :=
  [requestConstruction, lease, backendCall, responseMapping, cacheStore, release]

/-- What a run in the entry does not change: everything but counters and metrics. -/
structure Gateway.Untouched (g g' : Gateway) : Prop where
  table : g'.table = g.table
  cache : g'.cache = g.cache
  balancers : g'.balancers = g.balancers
  breakers : g'.breakers = g.breakers

namespace Gateway.Untouched

theorem refl (g : Gateway) : g.Untouched g :=
  ⟨rfl, rfl, rfl, rfl⟩

theorem trans
    {g g' g'' : Gateway}
    (h : g.Untouched g')
    (h' : g'.Untouched g'') :
    g.Untouched g'' :=
  ⟨h'.table.trans h.table, h'.cache.trans h.cache, h'.balancers.trans h.balancers,
    h'.breakers.trans h.breakers⟩

end Gateway.Untouched

namespace Stage

theorem standard_eq : standard = entry ++ service :=
  rfl

/-- What a stage of the entry leaves as it was, whatever comes of it. -/
structure EntryFrame (stage : Stage) (g : Gateway) (x : Exchange) (p : Passage) : Prop where
  untouched : g.Untouched p.gateway
  limiter : stage ≠ .rateLimit → p.gateway.limiter = g.limiter
  resolved : stage ≠ .routeResolution → p.exchange.resolved = x.resolved
  request : p.exchange.request = x.request
  lease : p.exchange.lease = x.lease
  answers : ∀ c, p.verdict ≠ .await c

section Frame

variable (s : Surroundings)
variable (g : Gateway)
variable (x : Exchange)

theorem entryFrame_resolveRoute :
    EntryFrame .routeResolution g x (resolveRoute g x) := by
  rcases resolveRoute_cases g x with ⟨e, _, h⟩ | ⟨r, _, h⟩ <;> rw [h]
  · exact ⟨.refl g, fun _ => rfl, fun _ => rfl, rfl, rfl, fun _ hc => Verdict.noConfusion hc⟩
  · exact ⟨.refl g, fun _ => rfl, fun hs => absurd rfl hs, rfl, rfl,
      fun _ hc => Verdict.noConfusion hc⟩

theorem entryFrame_limitRate :
    EntryFrame .rateLimit g x (limitRate s g x) := by
  rcases limitRate_cases s g x with
    ⟨_, h⟩ | ⟨r, _, _, h⟩ | ⟨r, p, l, d, _, _, _, _, ⟨_, h⟩ | ⟨_, h⟩⟩ <;>
    rw [h]
  · exact ⟨.refl g, fun _ => rfl, fun _ => rfl, rfl, rfl, fun _ hc => Verdict.noConfusion hc⟩
  · exact ⟨.refl g, fun _ => rfl, fun _ => rfl, rfl, rfl, fun _ hc => Verdict.noConfusion hc⟩
  · exact ⟨⟨rfl, rfl, rfl, rfl⟩, fun hs => absurd rfl hs, fun _ => rfl, rfl, rfl,
      fun _ hc => Verdict.noConfusion hc⟩
  · exact ⟨⟨rfl, rfl, rfl, rfl⟩, fun hs => absurd rfl hs, fun _ => rfl, rfl, rfl,
      fun _ hc => Verdict.noConfusion hc⟩

theorem entryFrame_authenticate :
    EntryFrame .authentication g x (authenticate s g x) := by
  rcases authenticate_cases s g x with
    ⟨_, h⟩ | ⟨r, _, _, h⟩ | ⟨r, p, claims, _, _, _, h⟩ | ⟨r, p, e, _, _, _, h⟩ <;>
    rw [h] <;>
    exact ⟨.refl g, fun _ => rfl, fun _ => rfl, rfl, rfl, fun _ hc => Verdict.noConfusion hc⟩

theorem entryFrame_authorise :
    EntryFrame .authorisation g x (authorise g x) := by
  rcases authorise_cases g x with
    ⟨_, h⟩ | ⟨r, _, _, h⟩ | ⟨r, p, _, _, _, h⟩ | ⟨r, p, claims, _, _, _, _, h⟩ |
      ⟨r, p, claims, e, _, _, _, _, h⟩ <;>
    rw [h] <;>
    exact ⟨.refl g, fun _ => rfl, fun _ => rfl, rfl, rfl, fun _ hc => Verdict.noConfusion hc⟩

theorem entryFrame_lookUp :
    EntryFrame .cacheLookup g x (lookUp s g x) := by
  rcases lookUp_cases s g x with
    ⟨_, h⟩ | ⟨r, _, _, h⟩ | ⟨r, p, e, _, _, _, _, h⟩ | ⟨r, p, key, hit, _, _, _, _, _, h⟩ |
      ⟨r, p, key, _, _, _, _, _, h⟩ <;>
    rw [h] <;>
    exact ⟨⟨rfl, rfl, rfl, rfl⟩, fun _ => rfl, fun _ => rfl, rfl, rfl,
      fun _ hc => Verdict.noConfusion hc⟩

/-- Every stage of the entry keeps to its frame. -/
theorem entryFrame_pass
    {stage : Stage}
    (hstage : stage ∈ entry) :
    EntryFrame stage g x (stage.pass s g x) := by
  cases stage with
  | routeResolution => exact entryFrame_resolveRoute g x
  | rateLimit => exact entryFrame_limitRate s g x
  | authentication => exact entryFrame_authenticate s g x
  | authorisation => exact entryFrame_authorise g x
  | cacheLookup => exact entryFrame_lookUp s g x
  | requestConstruction | lease | backendCall | responseMapping | cacheStore | release =>
      exact absurd hstage (by decide)

end Frame

/-- What a stage that has nothing to do with leases leaves as it was. -/
structure Aloof (g : Gateway) (x : Exchange) (p : Passage) : Prop where
  balancers : p.gateway.balancers = g.balancers
  lease : p.exchange.lease = x.lease
  answers : ∀ c, p.verdict ≠ .await c

/-- All stages but three have nothing to do with leases. -/
theorem aloof_pass
    (s : Surroundings)
    (g : Gateway)
    (x : Exchange)
    {stage : Stage}
    (hstage : stage ∉ [lease, backendCall, release]) :
    Aloof g x (stage.pass s g x) := by
  have hentry : ∀ {t : Stage}, t ∈ entry → Aloof g x (t.pass s g x) := by
    intro t ht
    have hframe := entryFrame_pass s g x ht
    exact ⟨hframe.untouched.balancers, hframe.lease, hframe.answers⟩
  cases stage with
  | routeResolution => exact hentry (by decide)
  | rateLimit => exact hentry (by decide)
  | authentication => exact hentry (by decide)
  | authorisation => exact hentry (by decide)
  | cacheLookup => exact hentry (by decide)
  | requestConstruction =>
      rcases construct_cases s g x with ⟨q, _, h⟩ | ⟨e, _, h⟩ <;> rw [h] <;>
        exact ⟨rfl, rfl, fun _ hc => Verdict.noConfusion hc⟩
  | responseMapping =>
      rcases mapResponse_cases g x with ⟨e, h⟩ | ⟨r, _, h⟩ <;> rw [pass, h] <;>
        exact ⟨rfl, rfl, fun _ hc => Verdict.noConfusion hc⟩
  | cacheStore =>
      rcases store_cases s g x with ⟨_, h⟩ | ⟨r, _, h⟩ | ⟨r, p, key, response, _, _, _, _, _, h⟩ <;>
        rw [pass, h] <;>
        exact ⟨rfl, rfl, fun _ hc => Verdict.noConfusion hc⟩
  | lease | backendCall | release => exact absurd (by decide) hstage

end Stage
end ApiGateway
