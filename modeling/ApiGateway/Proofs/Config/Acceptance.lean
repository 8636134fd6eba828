import ApiGateway.Proofs.Route.Callers
import ApiGateway.Proofs.Route.Services
import ApiGateway.Proofs.Text.Bytes

/-!
# Valid configurations and their tables

The rules for configurations and the reader of routes are two walks over the same settings. A
configuration that keeps the rules is made into a table unless one of four things stands in the way:
two routes share a key, a downstream template has more placeholders than its upstream template, a
header that is to carry a claim has no valid name, or callers are to be told apart by a header
without one. The table then has one route for each configured one, in the same order.

Main statement: `RouteTable.compile_iff_of_validate`.
-/

namespace ApiGateway

section Success

variable {ε α β : Type}

/-- A sequence of two steps succeeds if the first does, and the second with what the first gives. -/
theorem exists_bind_ok_iff
    {x : Except ε α}
    {f : α → Except ε β} :
    (∃ b, (x >>= f) = .ok b) ↔ ∃ a, x = .ok a ∧ ∃ b, f a = .ok b := by
  constructor
  · rintro ⟨b, h⟩
    obtain ⟨a, ha, hb⟩ := bind_eq_ok.1 h
    exact ⟨a, ha, b, hb⟩
  · rintro ⟨a, ha, b, hb⟩
    exact ⟨b, bind_eq_ok.2 ⟨a, ha, hb⟩⟩

/-- A sequence of two steps fails if the first does, or the second with what the first gives. -/
theorem bind_eq_error
    {x : Except ε α}
    {f : α → Except ε β}
    {e : ε} :
    (x >>= f) = .error e ↔ x = .error e ∨ ∃ a, x = .ok a ∧ f a = .error e := by
  cases x with
  | error e' =>
      constructor
      · intro h
        cases h
        exact .inl rfl
      · rintro (h | ⟨a, h, _⟩)
        · cases h
          rfl
        · cases h
  | ok a =>
      constructor
      · exact fun h => .inr ⟨a, rfl, h⟩
      · rintro (h | ⟨a', h, hf⟩)
        · cases h
        · cases h
          exact hf

/-- A list is read if each member is. -/
theorem exists_mapM_ok_iff
    {f : α → Except ε β}
    {xs : List α} :
    (∃ ys, xs.mapM f = .ok ys) ↔ ∀ x ∈ xs, ∃ y, f x = .ok y := by
  induction xs with
  | nil => exact iff_of_true ⟨[], rfl⟩ nofun
  | cons x xs ih =>
      rw [List.mapM_cons, exists_bind_ok_iff, List.forall_mem_cons, ← ih]
      constructor
      · rintro ⟨y, hy, ys, h⟩
        obtain ⟨ys', hys, _⟩ := bind_eq_ok.1 h
        exact ⟨⟨y, hy⟩, ys', hys⟩
      · rintro ⟨⟨y, hy⟩, ys, hys⟩
        exact ⟨y, hy, exists_bind_ok_iff.2 ⟨ys, hys, _, rfl⟩⟩

/-- What may be there is read if it can be wherever it is there. -/
theorem exists_option_mapM_ok_iff
    {f : α → Except ε β}
    {o : Option α} :
    (∃ b, o.mapM f = .ok b) ↔ ∀ a, o = some a → ∃ b, f a = .ok b := by
  cases o with
  | none => exact iff_of_true ⟨none, rfl⟩ nofun
  | some a =>
      rw [Option.mapM_some, map_eq_pure_bind, exists_bind_ok_iff]
      constructor
      · rintro ⟨b, hb, _⟩ _ ha
        cases ha
        exact ⟨b, hb⟩
      · intro h
        obtain ⟨b, hb⟩ := h a rfl
        exact ⟨b, hb, _, rfl⟩

/-- A check of what may be there succeeds if it does wherever it is there. -/
theorem option_forM_eq_ok
    {f : α → Except ε Unit}
    {o : Option α} :
    o.forM f = .ok () ↔ ∀ a, o = some a → f a = .ok () := by
  cases o with
  | none => exact iff_of_true rfl nofun
  | some a =>
      constructor
      · rintro h _ ha
        cases ha
        exact h
      · exact fun h => h a rfl

end Success

namespace Text

theorem not_isBlank_of_isTokenChar
    {c : Char}
    (h : isTokenChar c = true) :
    isBlank c = false := by
  rw [isTokenChar, Bool.or_eq_true] at h
  rcases h with h | h
  · have hclass := toNat_of_isAlphanum h
    refine Bool.eq_false_iff.2 fun hblank => ?_
    simp only [isBlank, Bool.or_eq_true, Bool.and_eq_true, decide_eq_true_eq, beq_iff_eq] at hblank
    omega
  · have hsigns : ("!#$%&'*+-.^_`|~".toList.all fun c => ! isBlank c) = true := by
      decide
    rw [List.all_eq_true] at hsigns
    simpa using hsigns c (List.contains_iff_mem.1 h)

theorem toUpper_of_isBlank
    {c : Char}
    (h : isBlank c = true) :
    c.toUpper = c := by
  refine dif_neg fun hlower => ?_
  simp only [UInt32.le_iff_toNat_le] at hlower
  simp only [isBlank, Char.toNat] at h
  simp at h hlower
  omega

/-- A text without blanks has none at its ends. -/
theorem trimChars_of_forall
    {cs : List Char}
    (h : ∀ c ∈ cs, isBlank c = false) :
    trimChars cs = cs := by
  have hdrop : ∀ {cs : List Char}, (∀ c ∈ cs, isBlank c = false) → cs.dropWhile isBlank = cs := by
    intro cs h
    cases cs with
    | nil => rfl
    | cons c cs => rw [List.dropWhile_cons, if_neg (by simp [h c List.mem_cons_self])]
  rw [trimChars, hdrop h, hdrop fun c hc => h c (List.mem_reverse.1 hc), List.reverse_reverse]

end Text

/-- The text of a method is what was read, and made of the characters of methods. -/
theorem Method.of_ofText?
    {s : String}
    {m : Method}
    (h : Method.ofText? s = some m) :
    m.text = s ∧ ∀ c ∈ s.toList, isTokenChar c = true := by
  unfold ofText? at h
  split at h
  · cases h
  · rename_i hs
    cases h
    simp only [Bool.or_eq_true, Bool.not_eq_true', not_or, Bool.not_eq_false] at hs
    exact ⟨rfl, List.all_eq_true.1 hs.2⟩

namespace Config

/-- What is a method without its blanks being dropped is one when they are. -/
theorem exists_parseMethod_of_isMethod
    {s : String}
    (h : isMethod s = true) :
    ∃ m, ApiGateway.Route.parseMethod s = .ok m := by
  obtain ⟨m, hm⟩ := Option.isSome_iff_exists.1 h
  have hplain : Text.trim s = s := by
    rw [Text.trim, Text.trimChars_of_forall, String.ofList_toList]
    intro c hc
    by_contra hblank
    have hupper := Text.toUpper_of_isBlank (Bool.not_eq_false _ ▸ hblank)
    have htoken := (Method.of_ofText? hm).2 c.toUpper
      (by simpa [Text.asciiUpper] using ⟨c, hc, rfl⟩)
    exact hblank (Text.not_isBlank_of_isTokenChar (hupper ▸ htoken))
  refine ⟨m, ?_⟩
  delta ApiGateway.Route.parseMethod
  rw [hplain, hm]

theorem requireOk_eq_ok
    {ε α : Type}
    {r : Except GatewayError α}
    {violation : GatewayError → ε}
    (h : requireOk r violation = .ok ()) :
    ∃ a, r = .ok a := by
  cases r with
  | error e => cases h
  | ok a => exact ⟨a, rfl⟩

/-- What the rules say about the parts of a route that are read when it is made. -/
structure Route.IsReadable (c : Route) : Prop where
  upstream : ∃ t, Template.compile c.upstreamPathTemplate = .ok t
  downstream : ∃ t, Template.compile c.downstreamPathTemplate = .ok t
  methods : ∀ m ∈ c.upstreamHttpMethod, isMethod m = true
  downstreamMethod : ∀ m, c.downstreamHttpMethod = some m → isMethod m = true
  balancer : (Balancer.Kind.ofName? c.loadBalancer).isSome = true
  rateLimit : ∀ l, c.rateLimit = some l → l.enabled = true →
    (∃ d, RateLimit.parsePeriod l.period = .ok d) ∧ l.limit ≠ 0
  claims : ∀ p ∈ c.addHeaders.pairs ++ c.addQueries.pairs,
    ∃ e, ClaimsExpression.parse p.1 p.2 = .ok e
  requestIdKey : ∀ k, c.requestIdKey = some k → (HeaderName.ofText? k).isSome = true

theorem Route.isReadable_of_validate
    {c : Route}
    {hasDiscovery : Bool}
    (h : c.validate hasDiscovery = .ok ()) :
    c.IsReadable := by
  obtain ⟨_, haddressing, hpolicies⟩ := bind_eq_ok.1 h
  unfold validateAddressing at haddressing
  obtain ⟨_, _, h⟩ := bind_eq_ok.1 haddressing
  obtain ⟨_, _, h⟩ := bind_eq_ok.1 h
  obtain ⟨_, _, h⟩ := bind_eq_ok.1 h
  obtain ⟨_, hupstream, h⟩ := bind_eq_ok.1 h
  obtain ⟨_, hdownstream, h⟩ := bind_eq_ok.1 h
  obtain ⟨_, hmethods, h⟩ := bind_eq_ok.1 h
  obtain ⟨_, hmethod, h⟩ := bind_eq_ok.1 h
  obtain ⟨_, _, h⟩ := bind_eq_ok.1 h
  have hbalancer : require (Balancer.Kind.ofName? c.loadBalancer).isSome
      (RouteViolation.unknownLoadBalancer c.loadBalancer) = .ok () := by
    cases hname : c.serviceName <;>
      simp only [hname] at h <;>
      exact (bind_eq_ok.1 h).choose_spec.2
  unfold validatePolicies at hpolicies
  obtain ⟨_, hlimit, h⟩ := bind_eq_ok.1 hpolicies
  obtain ⟨_, _, h⟩ := bind_eq_ok.1 h
  obtain ⟨_, _, h⟩ := bind_eq_ok.1 h
  obtain ⟨_, _, h⟩ := bind_eq_ok.1 h
  obtain ⟨_, hclaims, hkey⟩ := bind_eq_ok.1 h
  refine {
    upstream := requireOk_eq_ok hupstream
    downstream := requireOk_eq_ok hdownstream
    methods := fun m hm => require_eq_ok (forM_eq_ok.1 hmethods m hm)
    downstreamMethod := fun m hm => require_eq_ok (option_forM_eq_ok.1 hmethod m hm)
    balancer := require_eq_ok hbalancer
    rateLimit := fun l hl henabled => ?_
    claims := fun p hp => requireOk_eq_ok (forM_eq_ok.1 hclaims p hp)
    requestIdKey := fun k hk => require_eq_ok (option_forM_eq_ok.1 hkey k hk) }
  have hl := option_forM_eq_ok.1 hlimit l hl
  rw [if_pos henabled] at hl
  obtain ⟨_, hperiod, hzero⟩ := bind_eq_ok.1 hl
  exact ⟨requireOk_eq_ok hperiod, by simpa using require_eq_ok hzero⟩

/-- What the rules for the whole gateway say about the parts that are read with every route. -/
theorem Gateway.isReadable_of_validate
    {c : Gateway}
    (h : c.validate = .ok ()) :
    (∀ k, c.global.requestIdKey = some k → (HeaderName.ofText? k).isSome = true) ∧
      ∀ s ∈ c.routes, s.IsReadable := by
  obtain ⟨_, _, h⟩ := bind_eq_ok.1 h
  obtain ⟨_, _, h⟩ := bind_eq_ok.1 h
  obtain ⟨_, hkey, h⟩ := bind_eq_ok.1 h
  exact ⟨fun k hk => require_eq_ok (option_forM_eq_ok.1 hkey k hk), fun s hs =>
    Route.isReadable_of_validate (mapError_eq_ok (forM_eq_ok.1 h s hs))⟩

/-- The methods of a route, each once. -/
def Route.methods (c : Route) : List Method :=
  ApiGateway.Route.distinctMethods
    (c.upstreamHttpMethod.filterMap fun s => (ApiGateway.Route.parseMethod s).toOption)

/-- The key under which a route is known. -/
def Route.key (c : Route) : String :=
  ApiGateway.Route.keyOf c.methods c.upstreamPathTemplate

/-- The downstream template of a route has more placeholders than its upstream template. -/
def Route.Overdraws (c : Route) : Prop :=
  ∃ upstream downstream,
    Template.compile c.upstreamPathTemplate = .ok upstream ∧
    Template.compile c.downstreamPathTemplate = .ok downstream ∧
    upstream.placeholders.length < downstream.placeholders.length

/-- A claim is to be passed on in a header whose name is not valid. -/
def Route.MisnamesHeader (c : Route) : Prop :=
  ∃ p ∈ c.addHeaders.pairs, HeaderName.ofText? p.1 = none

def Route.LimitsCallers (c : Route) : Prop :=
  ∃ l, c.rateLimit = some l ∧ l.enabled = true

end Config

namespace Route

variable {generation : Nat}
variable {global : Config.Global}
variable {c : Config.Route}

theorem filterMap_toOption_of_mapM
    {ε α β : Type}
    {f : α → Except ε β}
    {xs : List α}
    {ys : List β}
    (h : xs.mapM f = .ok ys) :
    xs.filterMap (fun x => (f x).toOption) = ys := by
  have hall := forall₂_of_mapM_eq_ok h
  clear h
  induction hall with
  | nil => rfl
  | cons hx _ ih => rw [List.filterMap_cons, hx, Except.toOption, ih]

/-- A compiled route has the key that its settings tell. -/
theorem key_of_compile
    {r : Route}
    (h : Route.compile generation global c = .ok r) :
    r.key = c.key := by
  obtain ⟨_, _, _, _, _, _, _, _, _, _, ⟨_, _, _, told, htold, rfl⟩, rfl⟩ := exists_of_compile h
  rw [Config.Route.key, Config.Route.methods, filterMap_toOption_of_mapM htold]

theorem exists_parseHeaderName_ok_iff
    {s : String} :
    (∃ n, parseHeaderName s = .ok n) ↔ (HeaderName.ofText? s).isSome = true := by
  unfold parseHeaderName
  cases HeaderName.ofText? s <;> simp

theorem checkPlaceholders_eq_ok_iff
    {upstream downstream : Template} :
    checkPlaceholders upstream downstream = .ok () ↔
      ¬ upstream.placeholders.length < downstream.placeholders.length := by
  simp only [checkPlaceholders]
  split <;> simp_all

/-- The limit on the callers of a route is read if the header that tells them apart has a name. -/
theorem exists_rateLimit_ok_iff
    (hreadable : c.IsReadable) :
    (∃ p, (match c.rateLimit with
      | some l => RateLimit.Policy.ofConfig l global.rateLimit
      | none => .ok none) = .ok p) ↔
      ¬ (c.LimitsCallers ∧ HeaderName.ofText? global.rateLimit.clientIdHeader = none) := by
  have hrules := hreadable.rateLimit
  unfold Config.Route.LimitsCallers
  cases hl : c.rateLimit with
  | none => exact iff_of_true ⟨none, rfl⟩ fun h => by simpa using h.1
  | some l =>
      cases henabled : l.enabled with
      | false =>
          refine iff_of_true ⟨none, by simp [RateLimit.Policy.ofConfig, henabled]⟩ fun h => ?_
          obtain ⟨⟨_, hl', hl''⟩, _⟩ := h
          cases hl'
          rw [henabled] at hl''
          cases hl''
      | true =>
          obtain ⟨⟨d, hd⟩, hzero⟩ := hrules l hl henabled
          cases hname : HeaderName.ofText? global.rateLimit.clientIdHeader with
          | none =>
              refine iff_of_false ?_ fun h => h ⟨⟨l, rfl, henabled⟩, rfl⟩
              simp [RateLimit.Policy.ofConfig, henabled, hzero, hname]
          | some n =>
              refine iff_of_true ?_ nofun
              simp only [RateLimit.Policy.ofConfig, henabled, hzero, hname, hd]
              exact ⟨_, rfl⟩

/-- The headers that are to carry claims are read if they have names. -/
theorem exists_headers_ok_iff
    (hreadable : c.IsReadable) :
    (∃ es, (c.addHeaders.pairs.mapM fun p => do
      let _ ← parseHeaderName p.1
      ClaimsExpression.parse p.1 p.2) = .ok es) ↔ ¬ c.MisnamesHeader := by
  rw [exists_mapM_ok_iff, Config.Route.MisnamesHeader, not_exists]
  refine forall_congr' fun p => ?_
  rw [not_and]
  refine forall_congr' fun hp => ?_
  obtain ⟨e, he⟩ := hreadable.claims p (List.mem_append_left _ hp)
  rw [exists_bind_ok_iff, ← Ne, ← Option.isSome_iff_ne_none, ← exists_parseHeaderName_ok_iff]
  exact exists_congr fun n => and_iff_left ⟨e, he⟩

/-- What can be read of a route is made into one unless its names or placeholders do not fit. -/
theorem exists_compile_iff
    (hreadable : c.IsReadable)
    (hkey : ∀ k, global.requestIdKey = some k → (HeaderName.ofText? k).isSome = true) :
    (∃ r, Route.compile generation global c = .ok r) ↔
      ¬ c.Overdraws ∧ ¬ c.MisnamesHeader ∧
        ¬ (c.LimitsCallers ∧ HeaderName.ofText? global.rateLimit.clientIdHeader = none) := by
  rw [← exists_headers_ok_iff hreadable, ← exists_rateLimit_ok_iff hreadable]
  obtain ⟨upstream, hupstream⟩ := hreadable.upstream
  obtain ⟨downstream, hdownstream⟩ := hreadable.downstream
  have hoverdraws : ¬ c.Overdraws ↔ checkPlaceholders upstream downstream = .ok () := by
    rw [checkPlaceholders_eq_ok_iff, Config.Route.Overdraws, hupstream, hdownstream]
    simp
  rw [hoverdraws]
  unfold Route.compile
  constructor
  · rintro ⟨r, h⟩
    obtain ⟨_, hu, h⟩ := bind_eq_ok.1 h
    cases hupstream.symm.trans hu
    obtain ⟨_, hd, h⟩ := bind_eq_ok.1 h
    cases hdownstream.symm.trans hd
    obtain ⟨_, hcheck, h⟩ := bind_eq_ok.1 h
    obtain ⟨_, _, h⟩ := bind_eq_ok.1 h
    obtain ⟨_, _, h⟩ := bind_eq_ok.1 h
    obtain ⟨_, _, h⟩ := bind_eq_ok.1 h
    refine ⟨hcheck, ?_⟩
    cases hc : c.rateLimit <;>
      simp only [hc] at h ⊢ <;>
      obtain ⟨limit, hlimit, h⟩ := bind_eq_ok.1 h <;>
      obtain ⟨headers, hheaders, _⟩ := bind_eq_ok.1 h <;>
      exact ⟨⟨headers, hheaders⟩, ⟨limit, hlimit⟩⟩
  · rintro ⟨hcheck, ⟨headers, hheaders⟩, limit, hlimit⟩
    obtain ⟨methods, hmethods⟩ := exists_mapM_ok_iff.2 fun m hm =>
      Config.exists_parseMethod_of_isMethod (hreadable.methods m hm)
    obtain ⟨kind, hkind⟩ := Option.isSome_iff_exists.1 hreadable.balancer
    obtain ⟨method, hmethod⟩ := exists_option_mapM_ok_iff.2 fun m hm =>
      Config.exists_parseMethod_of_isMethod (hreadable.downstreamMethod m hm)
    obtain ⟨queries, hqueries⟩ := exists_mapM_ok_iff.2 fun p hp =>
      hreadable.claims p (List.mem_append_right _ hp)
    have hid : ∀ k, c.requestIdKey.or global.requestIdKey = some k →
        ∃ n, parseHeaderName k = .ok n := by
      intro k hk
      rw [exists_parseHeaderName_ok_iff]
      rcases Option.or_eq_some_iff.1 hk with hk | ⟨_, hk⟩
      · exact hreadable.requestIdKey k hk
      · exact hkey k hk
    obtain ⟨id, hid⟩ := exists_option_mapM_ok_iff.2 hid
    refine exists_bind_ok_iff.2 ⟨upstream, hupstream, ?_⟩
    refine exists_bind_ok_iff.2 ⟨downstream, hdownstream, ?_⟩
    refine exists_bind_ok_iff.2 ⟨(), hcheck, ?_⟩
    refine exists_bind_ok_iff.2 ⟨methods, hmethods, ?_⟩
    refine exists_bind_ok_iff.2 ⟨kind, by rw [parseKind, hkind], ?_⟩
    refine exists_bind_ok_iff.2 ⟨method, hmethod, ?_⟩
    cases hc : c.rateLimit <;>
      simp only [hc] at hlimit ⊢ <;>
      refine exists_bind_ok_iff.2 ⟨limit, hlimit, ?_⟩ <;>
      refine exists_bind_ok_iff.2 ⟨headers, hheaders, ?_⟩ <;>
      refine exists_bind_ok_iff.2 ⟨queries, hqueries, ?_⟩ <;>
      exact exists_bind_ok_iff.2 ⟨id, hid, _, rfl⟩

end Route

namespace RouteTable

variable {generation : Nat}
variable {global : Config.Global}

/-- A list of routes is made one by one and in order, and no key occurs twice. -/
theorem compileFrom_eq_ok_iff
    {seen : List String}
    {cs : List Config.Route}
    {rs : List Route} :
    compileFrom generation global seen cs = .ok rs ↔
      List.Forall₂ (fun c r => Route.compile generation global c = .ok r) cs rs ∧
        (cs.map Config.Route.key).Nodup ∧ ∀ c ∈ cs, c.key ∉ seen := by
  induction cs generalizing seen rs with
  | nil =>
      rw [List.forall₂_nil_left_iff]
      constructor
      · intro h
        cases h
        exact ⟨rfl, List.nodup_nil, List.forall_mem_nil _⟩
      · rintro ⟨rfl, _⟩
        rfl
  | cons c cs ih =>
      rw [compileFrom, bind_eq_ok, List.forall₂_cons_left_iff, List.map_cons, List.nodup_cons,
        List.forall_mem_cons]
      constructor
      · rintro ⟨r, hr, h⟩
        split at h
        · cases h
        rename_i hseen
        obtain ⟨rs', hrest, h⟩ := bind_eq_ok.1 h
        cases h
        obtain ⟨hall, hnodup, hnew⟩ := ih.1 hrest
        have hkey := Route.key_of_compile hr
        refine ⟨⟨r, rs', hr, hall, rfl⟩, ⟨?_, hnodup⟩, by simpa [hkey] using hseen, ?_⟩
        · rw [List.mem_map]
          rintro ⟨c', hc', heq⟩
          exact hnew c' hc' (by rw [heq, hkey]; exact List.mem_cons_self)
        · exact fun c' hc' hold => hnew c' hc' (List.mem_cons_of_mem _ hold)
      · rintro ⟨⟨r, rs', hr, hall, rfl⟩, ⟨hhead, hnodup⟩, hfresh, hnew⟩
        have hkey := Route.key_of_compile hr
        refine ⟨r, hr, ?_⟩
        rw [if_neg (by simpa [hkey] using hfresh)]
        refine bind_eq_ok.2 ⟨rs', ih.2 ⟨hall, hnodup, fun c' hc' hold => ?_⟩, rfl⟩
        rcases List.mem_cons.1 hold with heq | hold
        · exact hhead (List.mem_map.2 ⟨c', hc', heq.trans hkey⟩)
        · exact hnew c' hc' hold

/-- A table is made if every route is, and no two have the same key. -/
theorem exists_compile_iff
    {c : Config.Gateway} :
    (∃ t, compile generation c = .ok t) ↔
      (∀ s ∈ c.routes, ∃ r, Route.compile generation c.global s = .ok r) ∧
        (c.routes.map Config.Route.key).Nodup := by
  have hmake : (∃ t, compile generation c = .ok t) ↔
      ∃ rs, compileFrom generation c.global [] c.routes = .ok rs := by
    rw [compile, exists_bind_ok_iff]
    exact exists_congr fun rs => and_iff_left ⟨⟨rs⟩, rfl⟩
  rw [hmake, ← exists_mapM_ok_iff]
  constructor
  · rintro ⟨rs, h⟩
    obtain ⟨hall, hnodup, _⟩ := compileFrom_eq_ok_iff.1 h
    refine ⟨exists_mapM_ok_iff.2 fun s hs => ?_, hnodup⟩
    obtain ⟨i, hi, rfl⟩ := List.getElem_of_mem hs
    exact ⟨_, (List.forall₂_iff_get.1 hall).2 i hi ((List.forall₂_iff_get.1 hall).1 ▸ hi)⟩
  · rintro ⟨⟨rs, h⟩, hnodup⟩
    exact ⟨rs, compileFrom_eq_ok_iff.2
      ⟨forall₂_of_mapM_eq_ok h, hnodup, fun _ _ => List.not_mem_nil⟩⟩

/--
A valid configuration is made into a table unless two routes have the same key, a downstream
template has too many placeholders, a header for a claim has no valid name, or callers are limited
and the header that tells them apart has none. The table holds the routes in their order.
-/
theorem compile_iff_of_validate
    {c : Config.Gateway}
    (hvalid : c.validate = .ok ())
    (generation : Nat) :
    ((∃ t, compile generation c = .ok t) ↔
      ¬ (¬ (c.routes.map Config.Route.key).Nodup ∨
        (∃ s ∈ c.routes, s.Overdraws) ∨
        (∃ s ∈ c.routes, s.MisnamesHeader) ∨
        ((∃ s ∈ c.routes, s.LimitsCallers) ∧
          HeaderName.ofText? c.global.rateLimit.clientIdHeader = none))) ∧
      ∀ t, compile generation c = .ok t →
        List.Forall₂ (fun s r => Route.compile generation c.global s = .ok r ∧ r.key = s.key)
          c.routes t.routes := by
  obtain ⟨hid, hreadable⟩ := Config.Gateway.isReadable_of_validate hvalid
  constructor
  · rw [exists_compile_iff, not_or, not_or, not_or, not_not, and_comm]
    refine and_congr_right fun _ => ?_
    have hroute : ∀ s ∈ c.routes,
        (∃ r, Route.compile generation c.global s = .ok r) ↔ _ :=
      fun s hs => Route.exists_compile_iff (hreadable s hs) hid
    rw [forall₂_congr hroute]
    constructor
    · intro h
      exact ⟨fun ⟨s, hs, hbad⟩ => (h s hs).1 hbad, fun ⟨s, hs, hbad⟩ => (h s hs).2.1 hbad,
        fun ⟨⟨s, hs, hlimits⟩, hname⟩ => (h s hs).2.2 ⟨hlimits, hname⟩⟩
    · rintro ⟨hplaceholders, hheaders, hlimits⟩ s hs
      exact ⟨fun h => hplaceholders ⟨s, hs, h⟩, fun h => hheaders ⟨s, hs, h⟩,
        fun ⟨h, hname⟩ => hlimits ⟨⟨s, hs, h⟩, hname⟩⟩
  · intro t h
    obtain ⟨rs, hrs, h⟩ := bind_eq_ok.1 h
    cases h
    exact (compileFrom_eq_ok_iff.1 hrs).1.imp fun _ _ hr => ⟨hr, Route.key_of_compile hr⟩

section Orders

/-- A route for orders that takes some methods and has the settings of its callers. -/
def ordersBy (methods : List String) (headers : List (String × String)) : Config.Route :=
  { upstreamPathTemplate := "/orders/{id}"
    upstreamHttpMethod := methods
    downstreamPathTemplate := "/v2/{id}"
    downstreamHosts := [⟨"one.example", 8080⟩]
    rateLimit := some { period := "10s", limit := 5 }
    addHeaders := .ofPairs headers }

/-- Orders are read by one route and written by another. -/
def orders : Config.Gateway :=
  { routes := [ordersBy ["get"] [("X-Caller", "Claims[sub] > value")], ordersBy ["POST"] []] }

/-- Two routes for orders that take the same method, which one of them tells twice. -/
def ordersTwice : Config.Gateway :=
  { routes := [ordersBy ["get", "GET"] [], ordersBy ["Get"] []] }

/-- A route for orders that is to pass on a claim in a header that has a blank in its name. -/
def ordersMisnamed : Config.Gateway :=
  { routes := [ordersBy ["get"] [("X Caller", "Claims[sub] > value")]] }

/-- All three keep the rules; the first is made into a table, and the others are not. -/
theorem compile_orders :
    (orders.validate = .ok () ∧ ¬ (∃ s ∈ orders.routes, s.Overdraws) ∧
      ¬ (∃ s ∈ orders.routes, s.MisnamesHeader) ∧ (orders.routes.map Config.Route.key).Nodup) ∧
    (ordersTwice.validate = .ok () ∧ ¬ ∃ t, compile 0 ordersTwice = .ok t) ∧
    (ordersMisnamed.validate = .ok () ∧ ¬ ∃ t, compile 0 ordersMisnamed = .ok t) := by
  have hvalid : ∀ {c : Config.Gateway}, c.validate.toOption.map id = some () →
      c.validate = .ok () := by
    intro c h
    obtain ⟨_, h, _⟩ := exists_eq_ok_of_map h
    exact h
  have horders : orders.validate = .ok () := hvalid (by decide +kernel)
  have htwice : ordersTwice.validate = .ok () := hvalid (by decide +kernel)
  have hmisnamed : ordersMisnamed.validate = .ok () := hvalid (by decide +kernel)
  have hmade : (compile 0 orders).toOption.map (·.routes.length) = some 2 := by decide +kernel
  obtain ⟨t, ht, _⟩ := exists_eq_ok_of_map hmade
  have hfree := (compile_iff_of_validate horders 0).1.1 ⟨t, ht⟩
  rw [not_or, not_or, not_or, not_not] at hfree
  refine ⟨⟨horders, hfree.2.1, hfree.2.2.1, hfree.1⟩, ⟨htwice, fun h => ?_⟩, hmisnamed, fun h => ?_⟩
  · exact (compile_iff_of_validate htwice 0).1.1 h (.inl (by decide +kernel))
  · exact (compile_iff_of_validate hmisnamed 0).1.1 h
      (.inr (.inr (.inl ⟨_, List.mem_singleton_self _, _, List.mem_singleton_self _,
        by decide +kernel⟩)))

end Orders

end RouteTable
end ApiGateway
