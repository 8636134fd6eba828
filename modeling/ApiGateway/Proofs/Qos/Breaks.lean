import ApiGateway.Proofs.Route.Compilation
import ApiGateway.Proofs.Run.BreakerUse

/-!
# How long breaks are

A breaker has its settings from the policy of a route, and breaks are configured as milliseconds in
64 bits. So no breaker of a gateway opens for longer than that.

Main statements: `Used.breaksWithin` and `breakDuration_le_of_compile`.
-/

namespace ApiGateway

def BreakerSettings.longestBreak : Duration := Duration.ofMillis 18446744073709551615

/-- No breaker opens for longer. -/
def BreakerRegistry.BreaksWithin (r : BreakerRegistry) (d : Duration) : Prop :=
  ∀ (i : Nat) (b : Breaker), r.breakers[i]? = some b → b.settings.breakDuration ≤ d

/-- A breaker that is asked for is one of those that are there, or is new. -/
theorem BreakerRegistry.BreaksWithin.getOrCreate
    {r : BreakerRegistry}
    {d : Duration}
    (h : r.BreaksWithin d)
    (scope : String)
    {settings : BreakerSettings}
    (hsettings : settings.breakDuration ≤ d) :
    (r.getOrCreate scope settings).1.BreaksWithin d := by
  intro j b hb
  rcases r.getOrCreate_cases scope settings with ⟨i, _, hr⟩ | ⟨_, hr⟩
  · rw [hr] at hb
    exact h j b hb
  · rw [hr, Array.getElem?_push] at hb
    split at hb
    · cases hb
      exact hsettings
    · exact h j b hb

/-- Who uses a breaker makes none that opens for longer than its policy says. -/
theorem Used.breaksWithin
    {r r' : BreakerRegistry}
    {use : Option BreakerUse}
    {d : Duration}
    (h : Used r use r')
    (hr : r.BreaksWithin d)
    (huse : ∀ u, use = some u → u.call.policy.breaker.breakDuration ≤ d) :
    r'.BreaksWithin d := by
  cases h with
  | nothing => exact hr
  | asked c now =>
      have hnext := hr.getOrCreate c.scope (huse _ rfl)
      intro j b' hb'
      rw [BreakerRegistry.getElem?_check] at hb'
      split at hb'
      · obtain ⟨b, hb, rfl⟩ := Option.map_eq_some_iff.1 hb'
        rw [Breaker.settings_check]
        exact hnext j b hb
      · exact hnext j b' hb'
  | told c guard succeeded now =>
      intro j b' hb'
      rw [Qos.getElem?_leave] at hb'
      split at hb'
      · obtain ⟨b, hb, rfl⟩ := Option.map_eq_some_iff.1 hb'
        rw [Breaker.settings_record]
        exact hr j b hb
      · exact hr j b' hb'

/-- The routes of a compiled table have breaks of the configured length. -/
theorem RouteTable.breakDuration_le_of_compile
    {generation : Nat}
    {config : Config.Gateway}
    {t : RouteTable}
    (h : compile generation config = .ok t)
    {r : Route}
    (hr : r ∈ t.routes)
    {p : Qos.Policy}
    (hp : r.qos = some p) :
    p.breaker.breakDuration ≤ BreakerSettings.longestBreak := by
  obtain ⟨c, _, hc⟩ := exists_of_mem_compile h hr
  obtain ⟨_, _, _, _, _, _, _, _, _, _, _, rfl⟩ := Route.exists_of_compile hc
  obtain ⟨q, _, rfl⟩ := Option.map_eq_some_iff.1 hp
  exact Nat.mul_le_mul_right 1000000 (Nat.le_of_lt_succ q.breakMs.toNat_lt)

end ApiGateway
