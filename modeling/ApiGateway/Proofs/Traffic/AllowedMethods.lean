import ApiGateway.Proofs.Exchange.Decoration
import ApiGateway.Proofs.Route.Resolution
import ApiGateway.Proofs.Traffic.Runs

/-!
# What callers are told about methods

A request whose method is refused is answered at once, whatever else happens at the gateway. The
answer tells the methods that are allowed for its path, and since methods have neither commas nor
blanks they are read back from it one by one. They are exactly those for which the table finds a
route for this path.

Main statement: `tells_allowed_methods`.
-/

namespace ApiGateway

namespace Text

/-- What is behind the mark in a joint may as well be in front of all rows but the first. -/
theorem intercalate_append
    {α : Type}
    (mark front row : List α)
    (rows : List (List α)) :
    (mark ++ front).intercalate (row :: rows) =
      mark.intercalate (row :: rows.map (front ++ ·)) := by
  induction rows generalizing row with
  | nil => rw [List.map_nil, List.intercalate_singleton, List.intercalate_singleton]
  | cons row' rows ih =>
      rw [List.intercalate_cons_cons, ih, List.map_cons, List.intercalate_cons_cons]
      cases rows <;> simp

/-- A blank in front of a text is cut off. -/
theorem trim_blank_append (s : String) : trim (" " ++ s) = trim s := by
  have hblank : isBlank ' ' = true := by decide
  simp [trim, trimChars, hblank]

/-- Texts that are listed have commas between them, and blanks in front of all but the first. -/
theorem intercalate_comma_blank (w : String) (ws : List String) :
    String.intercalate ", " (w :: ws) = String.intercalate "," (w :: ws.map (" " ++ ·)) := by
  rw [← String.toList_inj, String.toList_intercalate, String.toList_intercalate]
  have hlists := intercalate_append [','] [' '] w.toList (ws.map String.toList)
  rw [List.map_map] at hlists
  simpa [Function.comp_def] using hlists

theorem trim_of_isTokenChar
    {s : String}
    (h : ∀ c ∈ s.toList, isTokenChar c = true) :
    trim s = s := by
  rw [trim, trimChars_of_forall fun c hc => not_isBlank_of_isTokenChar (h c hc),
    String.ofList_toList]

/-- Tokens are read back from the list of them. -/
theorem map_trim_splitAtChar
    {ws : List String}
    (hne : ws ≠ [])
    (h : ∀ w ∈ ws, ∀ c ∈ w.toList, isTokenChar c = true) :
    (splitAtChar ',' (String.intercalate ", " ws)).map trim = ws := by
  obtain ⟨w, ws, rfl⟩ := List.exists_cons_of_ne_nil hne
  obtain ⟨hw, hws⟩ := List.forall_mem_cons.1 h
  have hcomma : ∀ w : String, (∀ c ∈ w.toList, isTokenChar c = true) → ',' ∉ w.toList :=
    fun w hw hmem => absurd (hw _ hmem) (by decide)
  have hpieces : ∀ v ∈ w :: ws.map (" " ++ ·), ',' ∉ v.toList := by
    rw [List.forall_mem_cons, List.forall_mem_map]
    refine ⟨hcomma w hw, fun v hv => ?_⟩
    rw [String.toList_append, List.mem_append, not_or]
    exact ⟨by decide, hcomma v (hws v hv)⟩
  have hsplit : splitAtChar ',' (String.intercalate "," (w :: ws.map (" " ++ ·))) = _ :=
    splitAtChar_intercalate (List.cons_ne_nil _ _) hpieces
  rw [intercalate_comma_blank, hsplit, List.map_cons, trim_of_isTokenChar hw, List.map_map]
  refine congrArg (w :: ·) ((List.map_congr_left fun v hv => ?_).trans (List.map_id ws))
  rw [Function.comp_apply, trim_blank_append, trim_of_isTokenChar (hws v hv), id]

end Text

namespace HeaderValue

/-- The characters of tokens are readable. -/
theorem isReadableChar_of_isTokenChar
    {c : Char}
    (h : isTokenChar c = true) :
    IsReadableChar c := by
  rw [isTokenChar, Bool.or_eq_true] at h
  rcases h with h | h
  · have hall : ∀ n < 0x7B, 0x30 ≤ n → n < 128 ∧ isReadable (UInt8.ofNat n) = true := by decide
    obtain ⟨hlo, hhi⟩ := Text.toNat_of_isAlphanum h
    exact hall _ (Nat.lt_succ_of_le hhi) hlo
  · have hsigns : ("!#$%&'*+-.^_`|~".toList.all fun c => decide (IsReadableChar c)) = true := by
      decide
    rw [List.all_eq_true] at hsigns
    exact of_decide_eq_true (hsigns c (List.contains_iff_mem.1 h))

theorem isReadableText_tokens
    {ws : List String}
    (h : ∀ w ∈ ws, ∀ c ∈ w.toList, isTokenChar c = true) :
    IsReadableText (String.intercalate ", " ws) :=
  isReadableText_intercalate (by decide) fun w hw c hc =>
    isReadableChar_of_isTokenChar (h w hw c hc)

end HeaderValue

namespace Response

/-- The methods that a response tells to be allowed, as they are read from its field. -/
def allowed? (r : Response) : Option (List String) :=
  (r.headers.text? .allow).map fun text => (Text.splitAtChar ',' text).map Text.trim

/-- The answer to a method that is not allowed: one field lists those that are. -/
structure TellsAllowed (r : Response) (allowed : List String) : Prop where
  status : r.status = 405
  field : r.headers.getAll .allow = [Bytes.ofText (String.intercalate ", " allowed)]
  read : r.allowed? = some allowed

section Refusal

variable {allowed : List String}

/-- Tokens are read back from the field that lists them. -/
theorem allowed?_of_getAll
    {r : Response}
    (hne : allowed ≠ [])
    (htokens : ∀ a ∈ allowed, ∀ c ∈ a.toList, isTokenChar c = true)
    (h : r.headers.getAll .allow = [Bytes.ofText (String.intercalate ", " allowed)]) :
    r.allowed? = some allowed := by
  have htext := HeaderValue.text?_ofText (HeaderValue.isReadableText_tokens htokens)
  rw [allowed?, Headers.text?, Headers.get?, h, List.head?_cons, Option.bind_some, htext,
    Option.map_some, Text.map_trim_splitAtChar hne htokens]

/-- The answer to a refused method has one field, and it lists the methods that are allowed. -/
theorem getAll_allow_ofError
    (htokens : ∀ a ∈ allowed, ∀ c ∈ a.toList, isTokenChar c = true) :
    (ofError (.methodNotAllowed allowed)).headers.getAll .allow =
      [Bytes.ofText (String.intercalate ", " allowed)] := by
  have hvalue := HeaderValue.ofText?_of_isReadableText (HeaderValue.isReadableText_tokens htokens)
  simp only [ofError, Headers.setText, hvalue]
  rw [Headers.getAll_set, if_pos rfl]

/-- What is added to the answer for the caller does not touch the field. -/
theorem tellsAllowed_decorate
    {x : Exchange}
    (hne : allowed ≠ [])
    (htokens : ∀ a ∈ allowed, ∀ c ∈ a.toList, isTokenChar c = true)
    (hx : x.Leaves .allow) :
    (x.decorate (ofError (.methodNotAllowed allowed))).TellsAllowed allowed := by
  have hfield :=
    ((x.decorates_decorate _).getAll_of_leaves hx).trans (getAll_allow_ofError htokens)
  exact ⟨x.status_decorate _, hfield, allowed?_of_getAll hne htokens hfield⟩

end Refusal

end Response

/-- A request that a table refuses is answered when its route is to be found. -/
theorem Run.response?_of_refused
    {g : Gateway}
    {x : Exchange}
    {e : GatewayError}
    (h : g.table.resolve x.request.method x.request.uri.path = .error e)
    (herrors : x.errors = [])
    (now : Instant)
    (rest : List Stage) :
    (after now rest (Stage.resolveRoute g x)).2.response? =
      some ((x.refuse e).decorate (.ofError e)) := by
  rcases Stage.resolveRoute_cases g x with ⟨e', he', hx⟩ | ⟨found, hfound, _⟩
  · obtain rfl := Except.error.inj (h.symm.trans he')
    have houtcome : (x.refuse e).outcome = .ofError e := by
      simp [Exchange.outcome, Exchange.isRefused, Exchange.refuse, herrors, Response.ofErrors]
    rw [hx]
    show some ((x.refuse e).decorate (x.refuse e).outcome) = _
    rw [houtcome]
  · rw [hfound] at h
    cases h

namespace Traffic

/-- A request that has arrived and is to be resolved by a table. -/
structure Awaits (t : Traffic) (table : RouteTable) (id : Nat) (request : Request) : Prop where
  table : t.gateway.table = table
  run : ∃ peer requestId now, t.run? id = some (.start request peer requestId now)

/-- Once a table has refused a request, its answer is there and stays. -/
theorem exists_response_of_refused
    {g : Gateway}
    {events : List Event}
    {table : RouteTable}
    {id : Nat}
    {request : Request}
    {e : GatewayError}
    (h : ((Traffic.new g).after events).Awaits table id request)
    (hrefused : table.resolve request.method request.uri.path = .error e)
    (s : Surroundings)
    (later : List Event) :
    ∃ r, ∃ x : Exchange,
      ((Traffic.new g).after (events ++ .meet id (.pass s) :: later)).run? id = some r ∧
      x.resolved = none ∧
      x.advice = {} ∧
      r.response? = some (x.decorate (.ofError e)) := by
  obtain ⟨htable, peer, requestId, now, hrun⟩ := h
  have hmeet := run?_meet_pass (asksForLeases_after g events) hrun nofun s
  have hresponse := Run.response?_of_refused (g := ((Traffic.new g).after events).gateway)
    (x := { request, peer, requestId, start := now }) (htable ▸ hrefused) rfl s.now
    Stage.standard.tail
  refine ⟨_, _, ?_, rfl, rfl, hresponse⟩
  rw [after_append]
  exact run?_after_of_isOver hmeet (Option.isSome_of_eq_some hresponse) later

/--
Where a compiled table refuses a method for a path, it tells the methods that are allowed: at least
one and none twice, namely those for which it finds a route for this path, whatever their case,
while it refuses all others in the same way. A request that is refused so in any traffic is answered
by a response that lists these methods, and nothing that happens later changes it.
-/
theorem tells_allowed_methods
    {generation : Nat}
    {c : Config.Gateway}
    {table : RouteTable}
    {method : Method}
    {path : String}
    {allowed : List String}
    (h : RouteTable.compile generation c = .ok table)
    (hrefused : table.resolve method path = .error (.methodNotAllowed allowed)) :
    table.AllowsExactly path allowed ∧
    ∀ g events id request s later,
      ((Traffic.new g).after events).Awaits table id request →
      request.method = method →
      request.uri.path = path →
      ∃ r response,
        ((Traffic.new g).after (events ++ .meet id (.pass s) :: later)).run? id = some r ∧
        r.response? = some response ∧
        response.TellsAllowed allowed := by
  refine ⟨RouteTable.allowsExactly_of_resolve h hrefused, ?_⟩
  rintro g events id request s later hawaits rfl rfl
  obtain ⟨_, hne, hallowed⟩ := RouteTable.eq_allowedFor_of_resolve h hrefused
  have htokens : ∀ a ∈ allowed, ∀ c ∈ a.toList, isTokenChar c = true := by
    intro a ha
    obtain ⟨_, _, hparse, rfl⟩ := RouteTable.exists_parseMethod_of_mem_allowedFor h (hallowed ▸ ha)
    exact (Route.of_parseMethod hparse).2
  obtain ⟨r, x, hr, hresolved, hadvice, hresponse⟩ :=
    exists_response_of_refused hawaits hrefused s later
  have hleaves := Exchange.leaves_of_unresolved hresolved hadvice .allow
  exact ⟨r, _, hr, hresponse, Response.tellsAllowed_decorate hne htokens hleaves⟩

section Deletion

/-- An order is to be deleted, for which no route has a method. -/
def deletion : Request :=
  ⟨.delete, ⟨none, none, some ⟨"/orders/7", none⟩⟩, {}, []⟩

/-- The caller is told that orders are read and written, also while the breakers are cleared. -/
theorem tells_allowed_methods_deletion :
    ∃ g,
      Gateway.ofConfig RouteTable.orders = .ok g ∧
      g.table.resolve .delete "/orders/7" = .error (.methodNotAllowed ["GET", "POST"]) ∧
      g.table.AllowsExactly "/orders/7" ["GET", "POST"] ∧
      ∃ r response,
        ((Traffic.new g).after
          [.arrive deletion ⟨.v4 127 0 0 1, 4000⟩ "first" 0, .meet 0 (.pass { now := 0 }),
            .clearBreakers]).run? 0 = some r ∧
        r.response? = some response ∧
        response.TellsAllowed ["GET", "POST"] := by
  have hmade : (Gateway.ofConfig RouteTable.orders).toOption.map
      (fun g => (g.table.resolve .delete "/orders/7").map (·.downstreamPath)) =
      some (.error (.methodNotAllowed ["GET", "POST"])) := by
    decide +kernel
  obtain ⟨g, hg, hmade⟩ := exists_eq_ok_of_map hmade
  obtain ⟨_, _, htable⟩ := Gateway.isCompiled_ofConfig hg
  have hrefused : g.table.resolve .delete "/orders/7" =
      .error (.methodNotAllowed ["GET", "POST"]) := by
    cases hresolve : g.table.resolve .delete "/orders/7" with
    | ok found =>
        rw [hresolve] at hmade
        cases hmade
    | error e =>
        rw [hresolve] at hmade
        cases hmade
        rfl
  obtain ⟨hexactly, htold⟩ := tells_allowed_methods htable hrefused
  exact ⟨g, hg, hrefused, hexactly,
    htold g [.arrive deletion ⟨.v4 127 0 0 1, 4000⟩ "first" 0] 0 deletion { now := 0 }
      [.clearBreakers] ⟨rfl, _, _, _, rfl⟩ rfl rfl⟩

end Deletion

end Traffic
end ApiGateway
