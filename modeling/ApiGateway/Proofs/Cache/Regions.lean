import ApiGateway.Gateway.Administration
import ApiGateway.Proofs.Config.Acceptance
import ApiGateway.Proofs.Http.Addresses
import ApiGateway.Proofs.Run.CacheUse

/-!
# Regions that operators can clear

An operator clears a region of the cache by a path that ends with its name: the entries of the
region are dropped, no others are, and their number is told. The name is compared as it is written,
so a region can be cleared just when it has a name, all characters of the name may stand in a path,
and the path is no longer than a target may be (`Gateway.IsNamed`). The name that is made for a
region without one has letters and digits only, so of such a region it matters whether there was
something to make a name of; a name that was given may have a blank.

Main statement: `Gateway.clears_region_of_compile`.
-/

namespace ApiGateway

namespace Uri

/-- A character that may stand in the path of a target: no mark ends the path there. -/
def MayBeInPath (c : Char) : Prop := isPathChar c = true ∧ c ≠ '?' ∧ c ≠ '#'

instance (c : Char) : Decidable (MayBeInPath c) :=
  inferInstanceAs (Decidable (_ ∧ _))

theorem mayBeInPath_of_isAlphanum
    {c : Char}
    (h : c.isAlphanum = true) :
    MayBeInPath c := by
  have hclass := Text.toNat_cases_of_isAlphanum h
  refine ⟨?_, ?_, ?_⟩
  · simp only [isPathChar, Bool.or_eq_true, Bool.and_eq_true, decide_eq_true_eq]
    omega
  · rintro rfl
    exact absurd h (by decide)
  · rintro rfl
    exact absurd h (by decide)

/-- A target carries a path whose characters may stand in one. -/
theorem exists_target
    {path : String}
    (hrooted : ∃ cs, path.toList = '/' :: cs)
    (hpath : ∀ c ∈ path.toList, MayBeInPath c)
    (hlength : path.utf8ByteSize ≤ maxLength) :
    ∃ target u, read target = .ok u ∧ u.path = path := by
  have hne : path.isEmpty = false := by
    rw [String.isEmpty_eq_false_iff]
    rintro rfl
    obtain ⟨cs, hcs⟩ := hrooted
    cases hcs
  have htext : (⟨path, none⟩ : PathAndQuery).text = path := by
    simp [PathAndQuery.text, hne]
  have hwell : (⟨path, none⟩ : PathAndQuery).WellFormed :=
    ⟨hpath, fun q hq => absurd hq.symm (Option.some_ne_none q), hrooted⟩
  refine ⟨_, _, read_text hwell (htext.symm ▸ hlength), ?_⟩
  simp [Uri.path, hne]

end Uri

namespace Cache

/-- The name that is made for a region has letters and digits. -/
theorem isAlphanum_of_mem_derivedRegion
    {methods : List Method}
    {template : String}
    {c : Char}
    (h : c ∈ (derivedRegion methods template).toList) :
    c.isAlphanum = true := by
  rw [derivedRegion, String.toList_ofList, List.mem_filter] at h
  exact h.2

/-- The characters of a region may stand in a path just when those of the configured name may. -/
theorem Policy.mayBeInPath_region_iff
    {k : Config.Cache}
    {methods : List Method}
    {template : String} :
    (∀ c ∈ (Policy.ofConfig k methods template).region.toList, Uri.MayBeInPath c) ↔
      ∀ c ∈ (Text.trim (k.region.getD "")).toList, Uri.MayBeInPath c := by
  unfold ofConfig
  dsimp only
  split
  · rename_i hblank
    rw [String.isEmpty_iff.1 hblank]
    exact iff_of_true
      (fun c hc => Uri.mayBeInPath_of_isAlphanum (isAlphanum_of_mem_derivedRegion hc))
      (List.forall_mem_nil _)
  · exact Iff.rfl

end Cache

namespace Gateway

variable {g : Gateway}
variable {exposition path region : String}

/--
By a DELETE of a path an operator drops the entries of a region, no others and nothing else, and is
told how many they were.
-/
structure Clears (g : Gateway) (exposition path region : String) : Prop where
  dropped : ∀ key : String, (g.administer exposition .delete path).1.cache.entries[key]? =
    g.cache.entries[key]?.filter fun e => e.region ≠ region
  capacity : (g.administer exposition .delete path).1.cache.capacity = g.cache.capacity
  rest : (g.administer exposition .delete path).1 =
    { g with cache := (g.administer exposition .delete path).1.cache }
  answer : (g.administer exposition .delete path).2 =
    Response.ofData 200 (.table
      [("region", .text region),
        ("removed", .nat (g.cache.entries.toList.countP fun p => p.2.region = region))])

theorem mayBeInPath_of_mem_regionPath : ∀ c ∈ regionPath.toList, Uri.MayBeInPath c := by
  simp [regionPath, Uri.MayBeInPath, Uri.isPathChar]

/-- A path names a region by what is behind the front. -/
theorem regionOfPath?_eq_some_iff :
    regionOfPath? path = some region ↔ path = regionPath ++ region ∧ region ≠ "" := by
  unfold regionOfPath?
  dsimp only
  constructor
  · intro h
    split at h
    · rename_i hfront
      obtain ⟨rest, hrest⟩ := List.isPrefixOf_iff_prefix.1 hfront.1
      rw [← hrest, List.drop_left] at h hfront
      obtain rfl := Option.some.inj h
      refine ⟨String.toList_inj.1 ?_, ?_⟩
      · rw [String.toList_append, String.toList_ofList, hrest]
      · rw [Ne, String.ofList_eq_empty_iff]
        exact hfront.2
    · cases h
  · rintro ⟨rfl, hname⟩
    have hne : region.toList ≠ [] := by simpa using hname
    rw [String.toList_append, List.drop_left,
      if_pos ⟨List.isPrefixOf_iff_prefix.2 (List.prefix_append _ _), hne⟩, String.ofList_toList]

/-- No other page for operators has the name of a region. -/
theorem regionOfPath?_eq_none
    (h : path ∈ ["/health", "/healthz", "/ready", "/readyz", "/metrics", "/configuration"]) :
    regionOfPath? path = none := by
  simp only [List.mem_cons, List.not_mem_nil, or_false] at h
  rcases h with rfl | rfl | rfl | rfl | rfl | rfl <;> decide

/-- A request about the page of a region is answered as one about the region. -/
theorem administer_of_regionOfPath?
    (h : regionOfPath? path = some region)
    (g : Gateway)
    (exposition : String)
    (method : Method) :
    g.administer exposition method path = g.administerRegion method region := by
  have hpage : path ∉ ["/health", "/healthz", "/ready", "/readyz", "/metrics", "/configuration"] :=
    fun hpage => nomatch h.symm.trans (regionOfPath?_eq_none hpage)
  simp only [List.mem_cons, List.not_mem_nil, or_false, not_or] at hpage
  unfold administer
  simp only [hpage, or_self, if_false, h]

theorem cache_administerRegion (g : Gateway) (method : Method) (region : String) :
    (g.administerRegion method region).1.cache =
      g.cache.cleared (if method = .delete then some region else none) := by
  unfold administerRegion
  split <;> rfl

/-- Operators change the cache by clearing regions and in no other way. -/
theorem cache_administer
    (g : Gateway)
    (exposition : String)
    (method : Method)
    (path : String) :
    (g.administer exposition method path).1.cache =
      g.cache.cleared (if method = .delete then regionOfPath? path else none) := by
  cases hregion : regionOfPath? path with
  | some region =>
      rw [administer_of_regionOfPath? hregion]
      exact cache_administerRegion g method region
  | none =>
      rw [ite_self]
      unfold administer
      simp only [hregion]
      repeat' split
      all_goals rfl

/-- The path with the name of a region clears it. -/
theorem clears_regionPath
    (hname : region ≠ "")
    (g : Gateway)
    (exposition : String) :
    g.Clears exposition (regionPath ++ region) region := by
  have hadminister := administer_of_regionOfPath? (regionOfPath?_eq_some_iff.2 ⟨rfl, hname⟩) g
    exposition .delete
  refine ⟨fun key => ?_, ?_, ?_, ?_⟩
  all_goals rw [hadminister, administerRegion, if_pos rfl]
  · exact g.cache.getElem?_clearRegion region key
  · rfl
  · dsimp only
    rw [g.cache.clearRegion_snd region]

/-- A name that an operator can ask for: a target has room for it, and its path may hold it. -/
structure IsNamed (region : String) : Prop where
  nonempty : region ≠ ""
  inPath : ∀ c ∈ region.toList, Uri.MayBeInPath c
  fits : (regionPath ++ region).utf8ByteSize ≤ Uri.maxLength

/-- The region that the path of a target names has a name that can be asked for. -/
theorem isNamed_of_regionOfPath?
    {target : String}
    {u : Uri}
    (hread : Uri.read target = .ok u)
    (hregion : regionOfPath? u.path = some region) :
    IsNamed region := by
  obtain ⟨hpath, hname⟩ := regionOfPath?_eq_some_iff.1 hregion
  refine ⟨hname, fun c hc => Uri.isPathChar_of_read hread c ?_, ?_⟩
  · rw [hpath, String.toList_append]
    exact List.mem_append_right _ hc
  · rw [← hpath]
    exact Uri.utf8ByteSize_path_le_of_read hread

/-- A name that can be asked for stands in the path of a target. -/
theorem IsNamed.exists_target (h : IsNamed region) :
    ∃ target u, Uri.read target = .ok u ∧ u.path = regionPath ++ region := by
  refine Uri.exists_target ⟨_, by rw [String.toList_append]; rfl⟩ ?_ h.fits
  exact Text.forall_mem_append mayBeInPath_of_mem_regionPath h.inPath

/-- An entry of a region without such a name stays, whatever path an operator asks for. -/
theorem not_clears_of_not_isNamed
    {target : String}
    {u : Uri}
    (hname : ¬ IsNamed region)
    (hread : Uri.read target = .ok u)
    {key : String}
    {e : Cache.Entry}
    (he : g.cache.entries[key]? = some e)
    (hregion : e.region = region)
    (exposition : String) :
    ¬ g.Clears exposition u.path region := by
  intro hclears
  have hother : regionOfPath? u.path ≠ some e.region :=
    fun h => hname (isNamed_of_regionOfPath? hread (hregion ▸ h))
  have hkept : (g.administer exposition .delete u.path).1.cache.entries[key]? = some e := by
    rw [cache_administer, if_pos rfl]
    exact Cache.Store.getElem?_cleared_iff.2 ⟨hother, he⟩
  rw [hclears.dropped, he] at hkept
  simp [Option.filter_some, hregion] at hkept

/-- A target carries a path that clears a region, whatever is stored. -/
def CanBeCleared (region : String) : Prop :=
  ∃ target u, Uri.read target = .ok u ∧ ∀ (g : Gateway) (exposition : String),
    g.Clears exposition u.path region

/-- Just the regions with names that can be asked for can be cleared. -/
theorem canBeCleared_iff : CanBeCleared region ↔ IsNamed region := by
  constructor
  · rintro ⟨target, u, hread, hclears⟩
    have hgateway : (Gateway.ofConfig {}).toOption.map (fun _ => ()) = some () := by
      decide +kernel
    obtain ⟨g, _, _⟩ := exists_eq_ok_of_map hgateway
    have hstored : (g.cache.put "0a" ⟨200, {}, []⟩ 0 region 0).entries["0a"]? =
        some ⟨⟨200, {}, []⟩, region, 0 + 0⟩ := by
      rw [Cache.Store.getElem?_put, if_pos rfl]
    by_contra hname
    exact not_clears_of_not_isNamed (g := { g with cache := g.cache.put "0a" ⟨200, {}, []⟩ 0 region 0 })
      hname hread hstored rfl "" (hclears _ "")
  · intro h
    obtain ⟨target, u, hread, hu⟩ := h.exists_target
    refine ⟨target, u, hread, fun g exposition => ?_⟩
    rw [hu]
    exact clears_regionPath h.nonempty g exposition

/--
The region of a route with a cache can be cleared, whatever is stored, just when it has a name, the
characters of the configured name, if there is one, may stand in a path, and the path with the name
is no longer than a target may be. Then the entries of the region are dropped, no others are, and
their number is told.
-/
theorem clears_region_of_compile
    {c : Config.Gateway}
    {generation : Nat}
    {t : RouteTable}
    (htable : RouteTable.compile generation c = .ok t)
    {r : Route}
    (hr : r ∈ t.routes)
    {p : Cache.Policy}
    (hp : r.cache = some p) :
    ∃ s ∈ c.routes, ∃ k,
      Route.compile generation c.global s = .ok r ∧
      s.cache = some k ∧
      (CanBeCleared p.region ↔
        p.region ≠ "" ∧
        (∀ ch ∈ (Text.trim (k.region.getD "")).toList, Uri.MayBeInPath ch) ∧
        (regionPath ++ p.region).utf8ByteSize ≤ Uri.maxLength) := by
  obtain ⟨s, hs, hroute⟩ := RouteTable.exists_of_mem_compile htable hr
  have hcache : r.cache = s.cache.map fun k =>
      Cache.Policy.ofConfig k r.methods s.upstreamPathTemplate := by
    obtain ⟨_, _, _, _, _, _, _, _, _, _, _, rfl⟩ := Route.exists_of_compile hroute
    rfl
  obtain ⟨k, hk, rfl⟩ := Option.map_eq_some_iff.1 (hcache.symm.trans hp)
  refine ⟨s, hs, k, hroute, hk, ?_⟩
  rw [canBeCleared_iff, ← Cache.Policy.mayBeInPath_region_iff]
  exact ⟨fun h => ⟨h.nonempty, h.inPath, h.fits⟩, fun h => ⟨h.1, h.2.1, h.2.2⟩⟩

section Kept

/-- A route whose answers are kept in a region, which may have a name. -/
def keptIn (methods : List String) (template : String) (region : Option String) : Config.Gateway where
  routes := [{
    upstreamPathTemplate := template
    upstreamHttpMethod := methods
    downstreamPathTemplate := "/"
    downstreamHosts := [⟨"h", 1⟩]
    cache := some { ttlSeconds := 60, region } }]

/-- A region that gets its name from its route can be cleared. -/
theorem clears_region_of_compile_products :
    ∃ t r p,
      RouteTable.compile 0 (keptIn ["get"] "/products" none) = .ok t ∧
      r ∈ t.routes ∧
      r.cache = some p ∧
      p.region = "GETproducts" ∧
      CanBeCleared "GETproducts" := by
  have hrun : (RouteTable.compile 0 (keptIn ["get"] "/products" none)).toOption.map
      (·.routes.map fun r => r.cache.map (·.region)) = some [some "GETproducts"] := by
    decide +kernel
  obtain ⟨t, ht, hrun⟩ := exists_eq_ok_of_map hrun
  obtain ⟨r, hr, hregion⟩ := List.mem_map.1 (hrun ▸ List.mem_singleton_self _)
  obtain ⟨p, hp, hregion⟩ := Option.map_eq_some_iff.1 hregion
  obtain ⟨s, hs, k, _, hk, hclears⟩ := clears_region_of_compile ht hr hp
  obtain rfl := List.mem_singleton.1 hs
  obtain rfl := Option.some.inj hk
  rw [hregion] at hclears
  exact ⟨t, r, p, ht, hr, hp, hregion,
    hclears.2 ⟨by decide, List.forall_mem_nil _, by decide⟩⟩

/-- With an answer of a route in the cache, no path that a target carries clears the region. -/
def HasUnclearable (c : Config.Gateway) (region : String) : Prop :=
  c.validate = .ok () ∧ ∃ g r p,
    Gateway.ofConfig c = .ok g ∧
    r ∈ g.table.routes ∧
    r.cache = some p ∧
    p.region = region ∧
    ∀ target u exposition, Uri.read target = .ok u →
      ¬ Clears { g with cache := g.cache.put "0a" ⟨200, {}, []⟩ p.ttl p.region 0 } exposition u.path
        p.region

theorem hasUnclearable_of_not_isNamed
    {c : Config.Gateway}
    (hvalid : c.validate.toOption.map id = some ())
    (hrun : (Gateway.ofConfig c).toOption.map
      (·.table.routes.map fun r => r.cache.map (·.region)) = some [some region])
    (hname : ¬ IsNamed region) :
    HasUnclearable c region := by
  obtain ⟨_, hvalid, _⟩ := exists_eq_ok_of_map hvalid
  obtain ⟨g, hg, hrun⟩ := exists_eq_ok_of_map hrun
  obtain ⟨r, hr, hregion⟩ := List.mem_map.1 (hrun ▸ List.mem_singleton_self _)
  obtain ⟨p, hp, rfl⟩ := Option.map_eq_some_iff.1 hregion
  refine ⟨hvalid, g, r, p, hg, hr, hp, rfl, fun target u exposition hread => ?_⟩
  have hstored : (g.cache.put "0a" ⟨200, {}, []⟩ p.ttl p.region 0).entries["0a"]? =
      some ⟨⟨200, {}, []⟩, p.region, 0 + p.ttl⟩ := by
    rw [Cache.Store.getElem?_put, if_pos rfl]
  exact not_clears_of_not_isNamed hname hread hstored rfl exposition

/--
A route for all methods of the root has a region without a name, and a region may have been given a
name with a blank: no path clears either.
-/
theorem not_every_region_can_be_cleared :
    HasUnclearable (keptIn [] "/" none) "" ∧
      HasUnclearable (keptIn [] "/" (some "my region")) "my region" :=
  ⟨hasUnclearable_of_not_isNamed (by decide +kernel) (by decide +kernel)
      fun h => h.nonempty rfl,
    hasUnclearable_of_not_isNamed (by decide +kernel) (by decide +kernel)
      fun h => absurd (h.inPath ' ' (by decide +kernel)) (by decide)⟩

end Kept

end Gateway
end ApiGateway
