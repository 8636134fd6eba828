import ApiGateway.Proofs.Config.RoundTrip
import ApiGateway.Proofs.Succession.Tickets
import ApiGateway.Proofs.Text.Bytes

/-!
# The configuration that operators are shown

However configurations and requests overlap, the page about the configuration tells the one at the
gateway, which is one that was put in force, and the latest one while no other is being put in
force. What it tells is read back as this configuration, except that three stars stand for a token
of the registry. So the page is the same for configurations that differ in a token only, and where
their dictionaries list the same pairs in other orders, it differs in the order of fields only.

Main statement: `tells_configuration`.
-/

namespace ApiGateway

namespace Config

/-- Two settings of a registry are the same, except that two tokens may differ. -/
structure ServiceDiscovery.AlikeButToken (s s' : ServiceDiscovery) : Prop where
  others : s' = { s with token := s'.token }
  token : s'.token.isSome = s.token.isSome

/-- Two routes are the same, except that their dictionaries may list pairs in other orders. -/
structure Route.AlikeButOrder (r r' : Route) : Prop where
  others : r' =
    { r with
      claimsRequirement := r'.claimsRequirement
      addHeaders := r'.addHeaders
      addQueries := r'.addQueries }
  claims : r.claimsRequirement.pairs.Perm r'.claimsRequirement.pairs
  headers : r.addHeaders.pairs.Perm r'.addHeaders.pairs
  queries : r.addQueries.pairs.Perm r'.addQueries.pairs

namespace Gateway

/-- Two configurations have routes that are related, and are the same but for two tokens. -/
structure AlikeButToken (R : Route → Route → Prop) (c c' : Gateway) : Prop where
  routes : List.Forall₂ R c.routes c'.routes
  others : c'.global = { c.global with serviceDiscovery := c'.global.serviceDiscovery }
  discovery :
    Option.Rel ServiceDiscovery.AlikeButToken c.global.serviceDiscovery c'.global.serviceDiscovery

/-- A configuration is shown as another one, which is the same without the token. -/
structure IsShownAs (c shown : Gateway) : Prop where
  alike : c.AlikeButToken (· = ·) shown
  hidden : ∀ s ∈ shown.global.serviceDiscovery, ∀ t ∈ s.token, t = "***"

/-- The configuration that a response tells, read as that of a file in JSON is. -/
def told? (r : Response) : Option Gateway :=
  (r.body.text?.bind Json.read?).bind (ofData? ·)

/-- A response tells a configuration. -/
structure IsToldBy (c : Gateway) (r : Response) : Prop where
  status : r.status = 200
  contentType : r.headers.text? .contentType = some "application/json"
  shown : ∃ shown, told? r = some shown ∧ c.IsShownAs shown

end Gateway
end Config

/-- Documents that are the same up to the order of the fields of their tables. -/
inductive Data.Reordered : Data → Data → Prop
  | refl (d : Data) : Reordered d d
  | list {ds ds' : List Data} :
      List.Forall₂ Reordered ds ds' →
      Reordered (.list ds) (.list ds')
  | table {fs fs' fs'' : List (String × Data)} :
      fs.map (·.1) = fs'.map (·.1) →
      List.Forall₂ Reordered (fs.map (·.2)) (fs'.map (·.2)) →
      fs'.Perm fs'' →
      Reordered (.table fs) (.table fs'')

namespace Data

instance : Std.Refl Reordered := ⟨.refl⟩

/-- Tables with the same fields are the same up to the order of their fields. -/
theorem Reordered.of_perm
    {fs fs' : List (String × Data)}
    (h : fs.Perm fs') :
    Reordered (.table fs) (.table fs') :=
  .table rfl (List.forall₂_refl _) h

/-- Tables with the same names are the same up to order if their values are. -/
theorem Reordered.of_values
    {fs fs' : List (String × Data)}
    (hnames : fs.map (·.1) = fs'.map (·.1))
    (hvalues : List.Forall₂ Reordered (fs.map (·.2)) (fs'.map (·.2))) :
    Reordered (.table fs) (.table fs') :=
  .table hnames hvalues (.refl _)

end Data

/-- Responses that are the same up to the order of the fields in a document. -/
structure Response.AlikeButOrder (r r' : Response) : Prop where
  status : r'.status = r.status
  headers : r'.headers = r.headers
  body : ∃ d d', r.body = Bytes.ofText (Json.pretty d) ∧ r'.body = Bytes.ofText (Json.pretty d') ∧
    d.Reordered d'

namespace Config

section Redaction

variable {R : Route → Route → Prop}
variable {c c' : Gateway}

/-- The settings of a registry as they are shown. -/
def ServiceDiscovery.redacted (s : ServiceDiscovery) : ServiceDiscovery :=
  { s with token := s.token.map fun _ => "***" }

theorem ServiceDiscovery.AlikeButToken.redacted_eq
    {s s' : ServiceDiscovery}
    (h : s.AlikeButToken s') :
    s'.redacted = s.redacted := by
  have htoken : (s'.token.map fun _ => "***") = s.token.map fun _ => "***" := by
    have hsome := h.token
    cases hs : s.token <;> cases hs' : s'.token <;> simp_all
  rw [h.others]
  exact congrArg (fun t => { s with token := t }) htoken

/-- No settings for the whole gateway but the token make a difference. -/
theorem Gateway.AlikeButToken.global_redacted
    (h : c.AlikeButToken R c') :
    c'.redacted.global = c.redacted.global := by
  have hdiscovery :
      c'.global.serviceDiscovery.map ServiceDiscovery.redacted =
        c.global.serviceDiscovery.map ServiceDiscovery.redacted := by
    have hrel := h.discovery
    generalize c.global.serviceDiscovery = o, c'.global.serviceDiscovery = o' at hrel
    cases hrel with
    | none => rfl
    | some hs => exact congrArg some hs.redacted_eq
  unfold Gateway.redacted
  rw [h.others]
  exact congrArg (fun s => { c.global with serviceDiscovery := s }) hdiscovery

theorem Gateway.AlikeButToken.redacted_eq
    (h : c.AlikeButToken (· = ·) c') :
    c'.redacted = c.redacted := by
  have hroutes : c.routes = c'.routes := List.forall₂_eq_eq_eq ▸ h.routes
  calc c'.redacted
    _ = ⟨c'.redacted.global, c'.routes⟩ := rfl
    _ = ⟨c.redacted.global, c.routes⟩ := by rw [h.global_redacted, hroutes]
    _ = c.redacted := rfl

/-- What is shown is the configuration without the token. -/
theorem Gateway.isShownAs_redacted (c : Gateway) : c.IsShownAs c.redacted where
  alike := by
    refine ⟨List.forall₂_refl _, rfl, ?_⟩
    unfold Gateway.redacted
    cases c.global.serviceDiscovery with
    | none => exact .none
    | some s => exact .some ⟨rfl, Option.isSome_map⟩
  hidden s hs t ht := by
    obtain ⟨s₀, _, rfl⟩ := Option.map_eq_some_iff.1 hs
    obtain ⟨_, _, rfl⟩ := Option.map_eq_some_iff.1 ht
    rfl

/-- What is shown is determined by the configuration. -/
theorem Gateway.IsShownAs.eq_redacted
    {shown : Gateway}
    (h : c.IsShownAs shown) :
    shown = c.redacted := by
  have hstars : shown.global.serviceDiscovery.map ServiceDiscovery.redacted =
      shown.global.serviceDiscovery := by
    refine (Option.map_congr fun s hs => ?_).trans Option.map_id'
    have htoken : (s.token.map fun _ => "***") = s.token :=
      (Option.map_congr fun t ht => (h.hidden s hs t ht).symm).trans Option.map_id'
    rw [ServiceDiscovery.redacted, htoken]
  calc shown
    _ = { shown with global := { shown.global with
            serviceDiscovery := shown.global.serviceDiscovery.map ServiceDiscovery.redacted } } := by
      rw [hstars]
    _ = shown.redacted := rfl
    _ = c.redacted := h.alike.redacted_eq

end Redaction

section Order

/-- Dictionaries with the same pairs are written with the same fields. -/
theorem reordered_dictionaryData
    {d d' : Dictionary}
    (h : d.pairs.Perm d'.pairs) :
    (dictionaryData d).Reordered (dictionaryData d') :=
  .of_perm (h.map _)

theorem Route.AlikeButOrder.reordered_toData
    {r r' : Route}
    (h : r.AlikeButOrder r') :
    r.toData.Reordered r'.toData := by
  rw [h.others]
  refine .of_values rfl ?_
  simp only [List.map_cons, List.map_nil, List.forall₂_cons]
  simp [Data.Reordered.refl, reordered_dictionaryData h.claims, reordered_dictionaryData h.headers,
    reordered_dictionaryData h.queries]

theorem Gateway.AlikeButToken.reordered_toData
    {c c' : Gateway}
    (h : c.AlikeButToken Route.AlikeButOrder c') :
    c.redacted.toData.Reordered c'.redacted.toData := by
  have hroutes :
      List.Forall₂ Data.Reordered (c.routes.map Route.toData) (c'.routes.map Route.toData) := by
    rw [List.forall₂_map_left_iff, List.forall₂_map_right_iff]
    exact h.routes.imp fun _ _ hr => hr.reordered_toData
  refine .of_values rfl (.cons ?_ (.cons (.list hroutes) .nil))
  rw [h.global_redacted]
  exact .refl _

end Order

end Config

namespace Gateway

/-- The page about the configuration. -/
theorem administer_configuration (g : Gateway) (exposition : String) (method : Method) :
    g.administer exposition method "/configuration" =
      (g, .ofText 200 "application/json" (Json.pretty g.config.redacted.toData)) := by
  simp [administer]

/-- The page tells the configuration in force. -/
theorem isToldBy_administer (g : Gateway) (exposition : String) (method : Method) :
    g.config.IsToldBy (g.administer exposition method "/configuration").2 := by
  rw [administer_configuration]
  have htype : (⟨[(.contentType, Bytes.ofText "application/json")]⟩ : Headers).text? .contentType =
      some "application/json" := by
    decide +kernel
  refine ⟨rfl, htype, g.config.redacted, ?_, g.config.isShownAs_redacted⟩
  rw [Config.Gateway.told?, Response.ofText, Bytes.text?_ofText, Option.bind_some,
    Json.read?_pretty g.config.redacted.isPlain_toData, Option.bind_some]
  exact (Config.Gateway.recovers .refused).read_write _

end Gateway

/--
A response tells a configuration, and every gateway whose configuration differs in the token only
answers with it, up to order if the dictionaries list their pairs in other orders.
-/
structure Config.Gateway.IsAnsweredBy (c : Config.Gateway) (r : Response) : Prop where
  told : c.IsToldBy r
  same : ∀ (g : ApiGateway.Gateway) exposition method,
    c.AlikeButToken (· = ·) g.config →
    (g.administer exposition method "/configuration").2 = r
  reordered : ∀ (g : ApiGateway.Gateway) exposition method,
    c.AlikeButToken Route.AlikeButOrder g.config →
    r.AlikeButOrder (g.administer exposition method "/configuration").2

theorem Gateway.isAnsweredBy_administer (g : Gateway) (exposition : String) (method : Method) :
    g.config.IsAnsweredBy (g.administer exposition method "/configuration").2 where
  told := g.isToldBy_administer exposition method
  same g' exposition' method' h := by
    rw [administer_configuration, administer_configuration, h.redacted_eq]
  reordered g' exposition' method' h := by
    rw [administer_configuration, administer_configuration]
    exact ⟨rfl, rfl, _, _, rfl, rfl, h.reordered_toData⟩

namespace Succession

/-- The configuration at the gateway is one that was put in force. -/
def ShowsInstalled (o : Succession) : Prop :=
  ∃ k ∈ o.installed, o.gateway.config = k.config

/-- Only a part of a configuration whose turn it is takes the place of the configuration. -/
theorem ShowsInstalled.of_met
    {o o' : Succession}
    (h : o.ShowsInstalled)
    (harrives : o.Arrives)
    (hmet : Met o o') :
    o'.ShowsInstalled := by
  obtain ⟨k, hk, hconfig⟩ := h
  cases hmet with
  | idle => exact ⟨k, hk, hconfig⟩
  | @request e he =>
      have hsame : (o.request e).gateway.config = o.gateway.config :=
        congrArg Gateway.Setup.config (setup_request (o := o) he)
      exact ⟨k, hk, hsame.trans hconfig⟩
  | refused => exact ⟨k, hk, hconfig⟩
  | ready _ _ => exact ⟨k, hk, hconfig⟩
  | calledUp _ _ => exact ⟨k, List.mem_cons_of_mem _ hk, hconfig⟩
  | @changed c rest hturn =>
      obtain ⟨latest, before, hinstalled, harriving⟩ := harrives
      have hc : c ∈ latest.changes := harriving.suffix.subset (hturn ▸ List.mem_cons_self)
      simp only [Ticket.changes, List.mem_cons, List.not_mem_nil, or_false] at hc
      rcases hc with rfl | rfl | rfl | rfl | rfl | rfl
      case inr.inl =>
        have hlatest : latest ∈ o.installed := hinstalled ▸ List.mem_cons_self
        exact ⟨latest, hlatest, rfl⟩
      all_goals exact ⟨k, hk, hconfig⟩

section Runs

variable {config : Config.Gateway}
variable {g : Gateway}
variable (hg : Gateway.ofConfig config = .ok g)
include hg

theorem showsInstalled_after (events : List Event) : ((new g).after events).ShowsInstalled := by
  have hboth : ((new g).after events).Arrives ∧ ((new g).after events).ShowsInstalled :=
    after_of_met (P := fun o => o.Arrives ∧ o.ShowsInstalled)
      (fun _ _ h hmet => ⟨h.1.of_met hmet, h.2.of_met h.1 hmet⟩)
      ⟨arrives_new hg, first g, List.mem_singleton_self _, rfl⟩ events
  exact hboth.2

/--
Whatever has happened, the page about the configuration tells the one at the gateway to whoever asks
for it; this one was put in force, and is the latest one while no other is being put in force.
-/
theorem tells_configuration (events : List Event) (exposition : String) (method : Method) :
    ∃ answer,
      ((new g).after events).gateway.administer exposition method "/configuration" =
        (((new g).after events).gateway, answer) ∧
      ∃ k ∈ ((new g).after events).installed,
        ((new g).after events).gateway.config = k.config ∧
        (((new g).after events).turn = [] → ((new g).after events).installed.head? = some k) ∧
        k.config.IsAnsweredBy answer := by
  have hinstalled := showsInstalled_after hg events
  have harrives := arrives_after hg events
  generalize (new g).after events = o at hinstalled harrives ⊢
  have hanswer : ∀ c, o.gateway.config = c →
      c.IsAnsweredBy (o.gateway.administer exposition method "/configuration").2 := by
    rintro _ rfl
    exact o.gateway.isAnsweredBy_administer exposition method
  refine ⟨_, Prod.ext (by rw [Gateway.administer_configuration]) rfl, ?_⟩
  by_cases hturn : o.turn = []
  · obtain ⟨k, before, hlatest, hinForce⟩ := harrives.inForce hturn
    rw [hlatest]
    exact ⟨k, List.mem_cons_self, hinForce.config, fun _ => rfl, hanswer _ hinForce.config⟩
  · obtain ⟨k, hk, hconfig⟩ := hinstalled
    exact ⟨k, hk, hconfig, fun h => absurd h hturn, hanswer _ hconfig⟩

end Runs

/-- A configuration with a registry that asks for a token. -/
def registered : Config.Gateway :=
  { servedBy "one" with
    global := { serviceDiscovery := some { token := some "secret" } } }

/-- The token of a configuration that was taken is not told, and that there is one is. -/
theorem tells_configuration_registered :
    ∃ g answer shown,
      Gateway.ofConfig (servedBy "zero") = .ok g ∧
      (((new g).after (reload (fun _ => .ok ()) registered)).gateway.administer "" .get
        "/configuration").2 = answer ∧
      Config.Gateway.told? answer = some shown ∧
      shown.routes = registered.routes ∧
      shown.global.serviceDiscovery.bind (·.token) = some "***" := by
  have hrun :
      ((Gateway.ofConfig (servedBy "zero")).toOption.map fun g =>
        let o := (new g).after (reload (fun _ => .ok ()) registered)
        (o.turn.isEmpty, o.installed.head?.map (·.config))) =
      some (true, some registered) := by
    decide +kernel
  obtain ⟨g, hg, hrun⟩ := exists_eq_ok_of_map hrun
  obtain ⟨hempty, hlatest⟩ := Prod.mk.inj hrun
  obtain ⟨answer, hanswer, k, _, _, hhead, hk⟩ :=
    tells_configuration hg (reload (fun _ => .ok ()) registered) "" .get
  rw [hhead (List.isEmpty_iff.1 hempty)] at hlatest
  obtain ⟨shown, htold, hshown⟩ := hk.told.shown
  have hconfig : k.config = registered := Option.some.inj hlatest
  rw [hconfig] at hshown
  refine ⟨g, answer, shown, hg, congrArg Prod.snd hanswer, htold, ?_⟩
  rw [hshown.eq_redacted]
  exact ⟨rfl, rfl⟩

end Succession
end ApiGateway
