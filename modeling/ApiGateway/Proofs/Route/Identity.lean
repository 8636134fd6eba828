import ApiGateway.Proofs.Route.Keys
import Mathlib.Data.List.Sort
import Mathlib.Data.Set.Insert

/-!
# What the key of a route tells

A key tells the upstream template of a route and its methods: no method has a slash, a template
begins with one, and methods have no commas, so each part is read back from the key. The order of
the methods is not told. Only a route for all methods has the key of another one: that of the route
which takes the single method written as a star (`SameMethods`).

So a table refuses a route as a duplicate just when its template is that of an earlier route and its
methods are those of the earlier one, in whatever order and case they were written (`Resembles`).

Main statement: `RouteTable.keys_tell_routes_apart`.
-/

namespace ApiGateway

/-- The method that is written as all methods are in a key. -/
def Method.star : Method := ⟨"*"⟩

def Method.IsToken (m : Method) : Prop := ofText? m.text = some m

instance : DecidablePred Method.IsToken :=
  fun m => inferInstanceAs (Decidable (Method.ofText? m.text = some m))

/-- Methods that can be read, each of them once. -/
structure AreMethods (ms : List Method) : Prop where
  nodup : ms.Nodup
  isToken : ∀ m ∈ ms, m.IsToken

/-- The methods are the same, or they are none, which stands for all, and the star alone. -/
def SameMethods (ms ms' : Set Method) : Prop :=
  ms = ms' ∨ (ms = ∅ ∧ ms' = {Method.star}) ∨ (ms = {Method.star} ∧ ms' = ∅)

namespace Route

/-- The methods that a key tells: a star where there are none. -/
def toldMethods (ms : List Method) : List Method :=
  if ms.isEmpty then [Method.star] else ms

def sortedTexts (ms : List Method) : List String :=
  (ms.map (·.text)).mergeSort fun a b => decide (a ≤ b)

theorem keyOf_eq
    (ms : List Method)
    (template : String) :
    keyOf ms template =
      String.intercalate "," (sortedTexts (toldMethods ms)) ++ "|" ++ template := by
  unfold keyOf toldMethods
  split
  · simp [sortedTexts, Method.star, String.intercalate_singleton]
  · rfl

theorem isToken_of_parseMethod
    {w : String}
    {m : Method}
    (h : parseMethod w = .ok m) :
    m.IsToken := by
  delta parseMethod at h
  cases hm : Method.ofText? (Text.asciiUpper (Text.trim w)) with
  | none =>
      rw [hm] at h
      cases h
  | some m' =>
      rw [hm] at h
      obtain rfl := Except.ok.inj h
      rw [Method.IsToken, (Method.of_ofText? hm).1, hm]

section Methods

variable {ms ms' : List Method}

theorem sortedTexts_perm (ms : List Method) : (sortedTexts ms).Perm (ms.map (·.text)) :=
  List.mergeSort_perm _ _

/-- The order of the texts does not depend on the order of the methods. -/
theorem sortedTexts_eq_iff : sortedTexts ms = sortedTexts ms' ↔ ms.Perm ms' := by
  have hinj : Function.Injective Method.text := by
    rintro ⟨_⟩ ⟨_⟩ rfl
    rfl
  constructor
  · intro h
    refine List.map_perm_map_iff hinj |>.1 ?_
    exact (sortedTexts_perm ms).symm.trans (h ▸ sortedTexts_perm ms')
  · intro h
    have hsorted : ∀ ms, (sortedTexts ms).Pairwise (· ≤ ·) := fun ms =>
      List.pairwise_mergeSort' (· ≤ ·) _
    refine List.Perm.eq_of_pairwise' (hsorted ms) (hsorted ms') ?_
    exact (sortedTexts_perm ms).trans ((h.map _).trans (sortedTexts_perm ms').symm)

theorem toldMethods_nil : toldMethods [] = [Method.star] :=
  rfl

theorem toldMethods_of_ne_nil (h : ms ≠ []) : toldMethods ms = ms :=
  if_neg (by simpa using h)

theorem toldMethods_ne_nil (ms : List Method) : toldMethods ms ≠ [] := by
  rcases eq_or_ne ms [] with rfl | hne
  · exact List.cons_ne_nil _ _
  · rwa [toldMethods_of_ne_nil hne]

theorem areMethods_toldMethods (h : AreMethods ms) : AreMethods (toldMethods ms) := by
  rcases eq_or_ne ms [] with rfl | hne
  · refine ⟨List.nodup_singleton _, fun m hm => ?_⟩
    obtain rfl := List.mem_singleton.1 hm
    decide
  · rwa [toldMethods_of_ne_nil hne]

/-- Two rows are told alike if they have the same methods. -/
theorem toldMethods_perm_iff
    (h : AreMethods ms)
    (h' : AreMethods ms') :
    (toldMethods ms).Perm (toldMethods ms') ↔ SameMethods {m | m ∈ ms} {m | m ∈ ms'} := by
  have hset : ∀ {ms : List Method}, ms ≠ [] → {m | m ∈ ms} ≠ ∅ := by
    intro ms hne
    obtain ⟨m, hm⟩ := List.exists_mem_of_ne_nil ms hne
    exact Set.nonempty_iff_ne_empty.1 ⟨m, hm⟩
  rw [List.perm_ext_iff_of_nodup (areMethods_toldMethods h).nodup
    (areMethods_toldMethods h').nodup, SameMethods]
  change (∀ m, m ∈ {m | m ∈ toldMethods ms} ↔ m ∈ {m | m ∈ toldMethods ms'}) ↔ _
  rw [← Set.ext_iff]
  have hempty : {m | m ∈ ([] : List Method)} = (∅ : Set Method) := by simp
  have hstar : {m | m ∈ [Method.star]} = ({Method.star} : Set Method) := by simp
  have hne : (∅ : Set Method) ≠ {Method.star} := (Set.singleton_ne_empty _).symm
  rcases eq_or_ne ms [] with rfl | hms <;> rcases eq_or_ne ms' [] with rfl | hms'
  · simp
  · rw [hempty, toldMethods_nil, toldMethods_of_ne_nil hms', hstar]
    simp [hne, (hset hms').symm, eq_comm]
  · rw [hempty, toldMethods_nil, toldMethods_of_ne_nil hms, hstar]
    simp [hne, hset hms]
  · rw [toldMethods_of_ne_nil hms, toldMethods_of_ne_nil hms']
    simp [hset hms, hset hms']

/-- Between the commas of what is told are the methods. -/
theorem splitAtChar_told (h : AreMethods ms) :
    Text.splitAtChar ',' (String.intercalate "," (sortedTexts (toldMethods ms))) =
      sortedTexts (toldMethods ms) := by
  refine Text.splitAtChar_intercalate ?_ fun w hw hcomma => ?_
  · intro hnil
    have hperm := sortedTexts_perm (toldMethods ms)
    rw [hnil, List.nil_perm, List.map_eq_nil_iff] at hperm
    exact toldMethods_ne_nil ms hperm
  · obtain ⟨m, hm, rfl⟩ := List.mem_map.1 ((sortedTexts_perm _).mem_iff.1 hw)
    have htoken := (Method.of_ofText? ((areMethods_toldMethods h).isToken m hm)).2 _ hcomma
    exact absurd htoken (by decide)

/-- No slash is in front of the template. -/
theorem slash_notMem_told (h : AreMethods ms) :
    '/' ∉ (String.intercalate "," (sortedTexts (toldMethods ms))).toList ++ "|".toList := by
  rw [List.mem_append, not_or]
  refine ⟨fun hslash => ?_, by decide⟩
  rcases isTokenChar_of_mem_intercalate
    (fun m hm => (Method.of_ofText? ((areMethods_toldMethods h).isToken m hm)).2) hslash with h | h
  · exact absurd h (by decide)
  · exact absurd h (by decide)

/-- A key tells the template of a route and, but for all methods and the star, its methods. -/
theorem keyOf_eq_iff
    {template template' : String}
    (h : AreMethods ms)
    (h' : AreMethods ms')
    (hrooted : IsRooted template)
    (hrooted' : IsRooted template') :
    keyOf ms template = keyOf ms' template' ↔
      template = template' ∧ SameMethods {m | m ∈ ms} {m | m ∈ ms'} := by
  rw [keyOf_eq, keyOf_eq, ← toldMethods_perm_iff h h', ← sortedTexts_eq_iff]
  constructor
  · intro hkey
    obtain ⟨cs, hcs⟩ := hrooted
    obtain ⟨cs', hcs'⟩ := hrooted'
    have hchars := congrArg String.toList hkey
    simp only [String.toList_append, hcs, hcs'] at hchars
    obtain ⟨hfront, rfl⟩ := Text.append_mark_inj (slash_notMem_told h) (slash_notMem_told h') hchars
    refine ⟨String.toList_inj.1 (hcs.trans hcs'.symm), ?_⟩
    rw [← splitAtChar_told h, ← splitAtChar_told h',
      String.toList_inj.1 (List.append_cancel_right hfront)]
  · rintro ⟨rfl, htold⟩
    rw [htold]

end Methods

end Route

namespace Config.Route

variable {generation : Nat}
variable {global : Config.Global}
variable {c c' : Config.Route}

/-- The methods of a route as they were written, but for their case and the blanks around them. -/
def writtenMethods (c : Config.Route) : Set Method :=
  {m | m ∈ c.upstreamHttpMethod.map fun w => Method.mk (Text.asciiUpper (Text.trim w))}

/-- Two routes have the same upstream template and the same methods. -/
def Resembles (c c' : Config.Route) : Prop :=
  c.upstreamPathTemplate = c'.upstreamPathTemplate ∧
    SameMethods c.writtenMethods c'.writtenMethods

/-- The settings of a route are such that it can be made. -/
def IsMade (generation : Nat) (global : Config.Global) (c : Config.Route) : Prop :=
  ∃ r, ApiGateway.Route.compile generation global c = .ok r

theorem methods_eq_of_isMade
    (h : c.IsMade generation global) :
    {m | m ∈ c.methods} = c.writtenMethods := by
  obtain ⟨_, h⟩ := h
  obtain ⟨_, _, _, _, _, _, _, _, _, _, ⟨_, _, _, told, htold, _⟩, _⟩ :=
    ApiGateway.Route.exists_of_compile h
  have hread : ∀ w ∈ c.upstreamHttpMethod, ApiGateway.Route.parseMethod w =
      .ok ⟨Text.asciiUpper (Text.trim w)⟩ := by
    intro w hw
    obtain ⟨⟨text⟩, hm⟩ := exists_mapM_ok_iff.1 ⟨told, htold⟩ w hw
    obtain rfl : text = _ := (ApiGateway.Route.of_parseMethod hm).1
    exact hm
  ext m
  rw [Set.mem_ofPred_eq, methods, ApiGateway.Route.mem_distinctMethods_iff, List.mem_filterMap,
    writtenMethods, Set.mem_ofPred_eq, List.mem_map]
  refine exists_congr fun w => and_congr_right fun hw => ?_
  rw [hread w hw]
  exact Option.some_inj

theorem areMethods (c : Config.Route) : AreMethods c.methods := by
  refine ⟨nodup_foldl_new List.nodup_nil, fun m hm => ?_⟩
  obtain ⟨w, hw⟩ := ApiGateway.Route.exists_parseMethod_of_mem hm
  exact ApiGateway.Route.isToken_of_parseMethod hw

/-- Of two routes that can be made, the key is the same just when they resemble each other. -/
theorem key_eq_iff_resembles
    (h : c.IsMade generation global)
    (h' : c'.IsMade generation global)
    (hrooted : IsRooted c.upstreamPathTemplate)
    (hrooted' : IsRooted c'.upstreamPathTemplate) :
    c.key = c'.key ↔ c.Resembles c' := by
  rw [key, key, ApiGateway.Route.keyOf_eq_iff (areMethods c) (areMethods c') hrooted hrooted',
    methods_eq_of_isMade h, methods_eq_of_isMade h', Resembles]

end Config.Route

namespace RouteTable

variable {generation : Nat}
variable {global : Config.Global}

section Making

variable {seen : List String}
variable {c : Config.Route}
variable {cs : List Config.Route}
variable {rs : List Route}
variable {e : GatewayError}

/-- The first route of a list is made, its key is new, and the others are made after it. -/
theorem compileFrom_cons_eq_ok_iff :
    compileFrom generation global seen (c :: cs) = .ok rs ↔
      ∃ r, Route.compile generation global c = .ok r ∧ r.key ∉ seen ∧
        ∃ rs', compileFrom generation global (r.key :: seen) cs = .ok rs' ∧ r :: rs' = rs := by
  rw [compileFrom, bind_eq_ok]
  refine exists_congr fun r => and_congr_right fun _ => ?_
  rw [← List.contains_iff_mem]
  split
  · rename_i hseen
    exact iff_of_false (by simp) fun h => h.1 hseen
  · rename_i hseen
    rw [bind_eq_ok, and_iff_right hseen]
    exact exists_congr fun rs' => and_congr_right fun _ => ⟨Except.ok.inj, congrArg Except.ok⟩

/-- The first route of a list cannot be made, or its key is not new, or another one fails. -/
theorem compileFrom_cons_eq_error_iff :
    compileFrom generation global seen (c :: cs) = .error e ↔
      Route.compile generation global c = .error e ∨
        ∃ r, Route.compile generation global c = .ok r ∧
          (r.key ∈ seen ∧ e = .config s!"duplicate route '{r.key}'" ∨
            r.key ∉ seen ∧ compileFrom generation global (r.key :: seen) cs = .error e) := by
  rw [compileFrom, bind_eq_error]
  refine or_congr_right (exists_congr fun r => and_congr_right fun _ => ?_)
  rw [← List.contains_iff_mem]
  split
  · rename_i hseen
    rw [and_iff_right hseen, or_iff_left fun h => h.1 hseen, Except.error.injEq, eq_comm]
  · rename_i hseen
    rw [and_iff_right hseen, or_iff_right fun h => hseen h.1, bind_eq_error]
    refine or_iff_left ?_
    rintro ⟨rs, _, h⟩
    cases h

/-- The making of routes stops at the first that cannot be made or has the key of an earlier one. -/
theorem compileFrom_eq_error_iff :
    compileFrom generation global seen cs = .error e ↔
      ∃ before s after, cs = before ++ s :: after ∧
        (∃ rs, compileFrom generation global seen before = .ok rs) ∧
        (Route.compile generation global s = .error e ∨
          ∃ r, Route.compile generation global s = .ok r ∧
            (r.key ∈ seen ∨ ∃ s' ∈ before, s'.key = r.key) ∧
            e = .config s!"duplicate route '{r.key}'") := by
  induction cs generalizing seen with
  | nil =>
      refine iff_of_false nofun ?_
      rintro ⟨before, s, after, h, _⟩
      exact List.append_ne_nil_of_right_ne_nil before (List.cons_ne_nil s after) h.symm
  | cons c cs ih =>
      -- The key of the first route is among those that were there when the others are made.
      have hkeys : ∀ {r before} key, Route.compile generation global c = .ok r →
          ((key ∈ r.key :: seen ∨ ∃ s' ∈ before, s'.key = key) ↔
            (key ∈ seen ∨ ∃ s' ∈ c :: before, s'.key = key)) := by
        intro r before key hr
        rw [List.mem_cons, List.exists_mem_cons_iff, Route.key_of_compile hr, or_assoc,
          or_left_comm, eq_comm]
      rw [compileFrom_cons_eq_error_iff]
      constructor
      · rintro (hc | ⟨r, hr, ⟨hseen, rfl⟩ | ⟨hnew, hrest⟩⟩)
        · exact ⟨[], c, cs, rfl, ⟨[], rfl⟩, .inl hc⟩
        · exact ⟨[], c, cs, rfl, ⟨[], rfl⟩, .inr ⟨r, hr, .inl hseen, rfl⟩⟩
        · obtain ⟨before, s, after, rfl, ⟨rs, hrs⟩, hstop⟩ := ih.1 hrest
          have hmade := compileFrom_cons_eq_ok_iff.2 ⟨r, hr, hnew, rs, hrs, rfl⟩
          refine ⟨c :: before, s, after, rfl, ⟨r :: rs, hmade⟩, ?_⟩
          exact hstop.imp_right fun ⟨r', hr', hold, he⟩ => ⟨r', hr', (hkeys _ hr).1 hold, he⟩
      · rintro ⟨before, s, after, heq, ⟨rs, hrs⟩, hstop⟩
        cases before with
        | nil =>
            obtain ⟨rfl, rfl⟩ := List.cons.inj heq
            refine hstop.imp_right fun ⟨r, hr, hold, he⟩ => ⟨r, hr, .inl ⟨?_, he⟩⟩
            exact hold.resolve_right fun ⟨s', hs', _⟩ => List.not_mem_nil hs'
        | cons b before =>
            obtain ⟨rfl, rfl⟩ := List.cons.inj heq
            obtain ⟨r, hr, hnew, rs', hrs', _⟩ := compileFrom_cons_eq_ok_iff.1 hrs
            refine .inr ⟨r, hr, .inr ⟨hnew, ih.2 ⟨before, s, after, rfl, ⟨rs', hrs'⟩, ?_⟩⟩⟩
            exact hstop.imp_right fun ⟨r', hr', hold, he⟩ => ⟨r', hr', (hkeys _ hr).2 hold, he⟩

end Making

section Table

variable {c : Config.Gateway}

/-- Routes that can be made have keys of their own if no two of them resemble each other. -/
theorem nodup_keys_iff
    {cs : List Config.Route}
    (hmade : ∀ s ∈ cs, s.IsMade generation global)
    (hrooted : ∀ s ∈ cs, IsRooted s.upstreamPathTemplate) :
    (cs.map Config.Route.key).Nodup ↔ cs.Pairwise fun s s' => ¬ s.Resembles s' := by
  rw [List.Nodup, List.pairwise_map]
  refine List.Pairwise.iff_of_mem fun hs hs' => not_congr ?_
  exact Config.Route.key_eq_iff_resembles (hmade _ hs) (hmade _ hs') (hrooted _ hs) (hrooted _ hs')

/-- A list of routes is made if each is and no two resemble each other. -/
theorem exists_compileFrom_iff
    {cs : List Config.Route}
    (hrooted : ∀ s ∈ cs, IsRooted s.upstreamPathTemplate) :
    (∃ rs, compileFrom generation global [] cs = .ok rs) ↔
      (∀ s ∈ cs, s.IsMade generation global) ∧ cs.Pairwise fun s s' => ¬ s.Resembles s' := by
  have htable : (∃ rs, compileFrom generation global [] cs = .ok rs) ↔
      ∃ t, compile generation ⟨global, cs⟩ = .ok t := by
    rw [compile, exists_bind_ok_iff]
    exact exists_congr fun rs => (and_iff_left ⟨⟨rs⟩, rfl⟩).symm
  rw [htable, exists_compile_iff]
  exact and_congr_right fun hmade => nodup_keys_iff hmade hrooted

/--
Of two rows of methods and templates that begin with slashes the keys are the same just when the
templates and the methods are, in any order, but that all methods are told like the star. So a table
is made if each route is and no two have the same template and methods, in whatever order and case
the methods were written. Otherwise it is the first route that cannot be made, or that repeats an
earlier one, whose error is given.
-/
theorem keys_tell_routes_apart
    {ms ms' : List Method}
    {template template' : String}
    (hms : AreMethods ms)
    (hms' : AreMethods ms')
    (htemplate : IsRooted template)
    (htemplate' : IsRooted template')
    (hrooted : ∀ s ∈ c.routes, IsRooted s.upstreamPathTemplate)
    (generation : Nat) :
    (Route.keyOf ms template = Route.keyOf ms' template' ↔
      template = template' ∧ SameMethods {m | m ∈ ms} {m | m ∈ ms'}) ∧
    ((∃ t, compile generation c = .ok t) ↔
      (∀ s ∈ c.routes, s.IsMade generation c.global) ∧
        c.routes.Pairwise fun s s' => ¬ s.Resembles s') ∧
    ∀ e, compile generation c = .error e ↔
      ∃ before s after, c.routes = before ++ s :: after ∧
        ((∀ s' ∈ before, s'.IsMade generation c.global) ∧
          before.Pairwise fun s s' => ¬ s.Resembles s') ∧
        (Route.compile generation c.global s = .error e ∨
          ∃ r, Route.compile generation c.global s = .ok r ∧ (∃ s' ∈ before, s'.Resembles s) ∧
            e = .config s!"duplicate route '{r.key}'") := by
  refine ⟨Route.keyOf_eq_iff hms hms' htemplate htemplate', ?_, fun e => ?_⟩
  · rw [exists_compile_iff]
    exact and_congr_right fun hmade => nodup_keys_iff hmade hrooted
  · rw [compile, bind_eq_error, or_iff_left (by rintro ⟨rs, _, h⟩; cases h), compileFrom_eq_error_iff]
    refine exists_congr fun before => exists_congr fun s => exists_congr fun after =>
      and_congr_right fun hroutes => ?_
    have hs : s ∈ c.routes := hroutes ▸ List.mem_append_right _ List.mem_cons_self
    have hbefore : ∀ s' ∈ before, s' ∈ c.routes :=
      fun s' hs' => hroutes ▸ List.mem_append_left _ hs'
    rw [exists_compileFrom_iff fun s' hs' => hrooted s' (hbefore s' hs')]
    refine and_congr_right fun hmade => or_congr_right (exists_congr fun r =>
      and_congr_right fun hr => and_congr_left fun _ => ?_)
    rw [or_iff_right List.not_mem_nil]
    refine exists_congr fun s' => and_congr_right fun hs' => ?_
    rw [Route.key_of_compile hr]
    exact Config.Route.key_eq_iff_resembles (hmade.1 s' hs') ⟨r, hr⟩
      (hrooted s' (hbefore s' hs')) (hrooted s hs)

end Table

section Notes

/-- A route for notes that takes some methods. -/
def notesBy (methods : List String) : Config.Route :=
  { upstreamPathTemplate := "/notes", upstreamHttpMethod := methods, downstreamPathTemplate := "/n" }

/-- Two routes for notes that take the same methods, written in another order and case. -/
def notesTwice : Config.Gateway :=
  { routes := [notesBy ["get", "HEAD"], notesBy [" head", "Get", "GET"]] }

/-- Two methods have the same key in either order, and the second of the routes is refused. -/
theorem compile_notesTwice :
    Route.keyOf [.get, .head] "/notes" = Route.keyOf [.head, .get] "/notes" ∧
      ∃ r, Route.compile 0 {} (notesBy [" head", "Get", "GET"]) = .ok r ∧
        compile 0 notesTwice = .error (.config s!"duplicate route '{r.key}'") := by
  have hrooted : IsRooted "/notes" := ⟨"notes".toList, rfl⟩
  have hfirst : ((Route.compile 0 {} (notesBy ["get", "HEAD"])).toOption.map (·.methods)) =
      some [.get, .head] := by
    decide +kernel
  have hsecond : ((Route.compile 0 {} (notesBy [" head", "Get", "GET"])).toOption.map
      (·.methods)) = some [.head, .get] := by
    decide +kernel
  obtain ⟨r, hr, _⟩ := exists_eq_ok_of_map hfirst
  obtain ⟨r', hr', _⟩ := exists_eq_ok_of_map hsecond
  have hresembles : (notesBy ["get", "HEAD"]).Resembles (notesBy [" head", "Get", "GET"]) := by
    have hwritten : ["get", "HEAD"].map (fun w => Method.mk (Text.asciiUpper (Text.trim w))) =
        [.get, .head] := by
      decide
    have hwritten' : [" head", "Get", "GET"].map
        (fun w => Method.mk (Text.asciiUpper (Text.trim w))) = [.head, .get, .get] := by
      decide
    refine ⟨rfl, .inl (Set.ext fun m => ?_)⟩
    simp only [Config.Route.writtenMethods, notesBy, hwritten, hwritten', Set.mem_ofPred_eq]
    simp [or_comm]
  have hmethods : AreMethods [.get, .head] := ⟨by decide, by decide⟩
  have hmethods' : AreMethods [.head, .get] := ⟨by decide, by decide⟩
  have htold := keys_tell_routes_apart (c := notesTwice) hmethods hmethods' hrooted hrooted
    (List.forall_mem_cons.2 ⟨hrooted, List.forall_mem_singleton.2 hrooted⟩) 0
  refine ⟨htold.1.2 ⟨rfl, .inl (Set.ext fun m => ?_)⟩, r', hr', (htold.2.2 _).2 ?_⟩
  · exact (List.Perm.swap _ _ _).mem_iff
  · refine ⟨[notesBy ["get", "HEAD"]], notesBy [" head", "Get", "GET"], [], rfl, ⟨?_, ?_⟩, .inr ?_⟩
    · exact fun s' hs' => List.mem_singleton.1 hs' ▸ ⟨r, hr⟩
    · exact List.pairwise_singleton _ _
    · exact ⟨r', hr', ⟨_, List.mem_singleton_self _, hresembles⟩, rfl⟩

end Notes

end RouteTable
end ApiGateway
