import ApiGateway.Proofs.Exchange.PassedHeaders
import ApiGateway.Proofs.Traffic.Advice
import ApiGateway.Proofs.Traffic.Destinations

/-!
# Request identifiers in traffic

A request that is forwarded and answered has one identifier, and its response has this as the only
value of the name that the route has for it. A backend receives the identifier only if nothing else
is passed on under this name, though: several values that the caller sent are all passed on, and so
is one that cannot be read, while the response has the first one or an own identifier. Both have the
same single value just when what is passed on is nothing or the identifier
(`Exchange.KeepsIdentifier`).

Main statement: `request_identifier_of_call`.
-/

namespace ApiGateway

open HeaderValue (IsReadableText)

namespace Exchange

variable {x : Exchange}
variable {key : HeaderName}

/--
What is passed on under a name is nothing or the request identifier: what the gateway records there
is the identifier, or, where it records nothing, the name belongs to one connection or the caller
sent no value or a single one that can be read.
-/
def KeepsIdentifier (x : Exchange) (key : HeaderName) : Prop :=
  match x.recorded? key with
  | some s => s = x.requestId
  | none =>
      key ∈ HeaderName.hopByHop ∨
      x.request.headers.getAll key = [] ∨
      ∃ s, IsReadableText s ∧ x.request.headers.getAll key = [Bytes.ofText s]

/-- A readable identifier is kept just when nothing else is passed on under its name. -/
theorem keepsIdentifier_iff
    {own : String}
    (hhost : key ≠ .host)
    (hown : IsReadableText own)
    (hid : x.requestId = (x.request.headers.text? key).getD own) :
    x.KeepsIdentifier key ↔ x.passedOn key = [] ∨ x.passedOn key = [Bytes.ofText x.requestId] := by
  unfold KeepsIdentifier passedOn
  cases x.recorded? key with
  | some s =>
      dsimp only
      constructor
      · rintro rfl
        exact .inr rfl
      · rintro (h | h)
        · cases h
        · exact Bytes.ofText_injective (List.cons.inj h).1
  | none =>
      dsimp only
      by_cases hhop : key ∈ HeaderName.hopByHop
      · simp [hhop]
      have hout : ¬ (key ∈ HeaderName.hopByHop ∨ key = .host) := not_or.2 ⟨hhop, hhost⟩
      rw [if_neg hout]
      constructor
      · rintro (h | h | ⟨s, hs, h⟩)
        · exact absurd h hhop
        · exact .inl h
        · have htext : x.request.headers.text? key = some s :=
            (Headers.text?_of_getAll h).trans (HeaderValue.text?_ofText hs)
          rw [hid, htext]
          exact .inr h
      · rintro (h | h)
        · exact .inr (.inl h)
        · refine .inr (.inr ⟨x.requestId, ?_, h⟩)
          rw [hid]
          cases htext : x.request.headers.text? key with
          | none => exact hown
          | some s => exact Headers.isReadableText_of_text? htext

/-- An addressed request has the request identifier where nothing else is passed on. -/
theorem Addresses.getAll_key
    {q : Request}
    {found : ResolvedRoute}
    (h : x.Addresses q)
    (hfound : x.resolved = some found)
    (hkey : found.route.requestIdKey = some key)
    (hhost : key ≠ .host)
    (hclaims : ∀ e ∈ found.route.headersFromClaims, HeaderName.ofText? e.key ≠ some key)
    (hid : (HeaderValue.ofText? x.requestId).isSome) :
    q.headers.getAll key =
      if x.passedOn key = [] then [Bytes.ofText x.requestId] else x.passedOn key := by
  obtain ⟨headers, hheaders, hsent⟩ := exists_headers_of_addresses h hfound
  rw [hsent key hhost]
  rcases getAll_of_outboundHeaders hheaders key fun _ _ _ => hid with
    ⟨e, he, _, hname, _, _⟩ | ⟨_, hpassed⟩
  · exact absurd hname (hclaims e he)
  · simpa only [hkey, true_and] using hpassed

end Exchange

namespace Run

theorem Bears.isReadableText
    {request : Request}
    {own : String}
    {r : Run}
    (h : r.Bears request own)
    (hown : IsReadableText own) :
    IsReadableText r.exchange.requestId := by
  rw [h.requestId, Request.identifier]
  cases hsent : (r.exchange.resolved.bind (·.route.requestIdKey)).bind request.headers.text? with
  | none => exact hown
  | some s =>
      obtain ⟨key, _, hs⟩ := Option.bind_eq_some_iff.1 hsent
      exact Headers.isReadableText_of_text? hs

/-- The response of a run was decorated for its request. -/
theorem Equipped.exists_decorated
    {Told : GatewayError → Prop}
    {r : Run}
    {response : Response}
    (h : r.Equipped Told)
    (hresponse : r.response? = some response) :
    ∃ base, response = r.exchange.decorate base := by
  cases h with
  | passing => cases hresponse
  | calling => cases hresponse
  | served => exact ⟨_, (Option.some.inj hresponse).symm⟩
  | refused => exact ⟨_, (Option.some.inj hresponse).symm⟩

end Run

namespace Traffic

section Identifiers

variable {g : Gateway}
variable {events later : List Event}
variable {id : Nat}
variable {r r' : Run}
variable {x : Exchange}
variable {call : BackendCall}
variable {rest : List Stage}

/--
A forwarded request that is answered has an identifier: the first value that the caller sent for it,
if this can be read, and else its own one. The response has just this. The backend receives it where
nothing else is passed on under its name, and else what is passed on. So both have one value and the
same just when the identifier is kept.
-/
theorem request_identifier_of_call
    {found : ResolvedRoute}
    {key : HeaderName}
    {response : Response}
    (hown : ∀ request peer own now, .arrive request peer own now ∈ events → IsReadableText own)
    (hcalling : ((Traffic.new g).after events).pending? id = some ⟨x, .calling call rest⟩)
    (hfound : x.resolved = some found)
    (hkey : found.route.requestIdKey = some key)
    (hhost : key ≠ .host)
    (hclaims : ∀ e ∈ found.route.headersFromClaims, HeaderName.ofText? e.key ≠ some key)
    (hr : ((Traffic.new g).after (events ++ later)).run? id = some r)
    (hresponse : r.response? = some response) :
    ∃ request peer own now,
      .arrive request peer own now ∈ events ∧
      x.request = request ∧
      x.requestId = (request.headers.text? key).getD own ∧
      response.headers.getAll key = [Bytes.ofText x.requestId] ∧
      call.request.headers.getAll key =
        (if x.passedOn key = [] then [Bytes.ofText x.requestId] else x.passedOn key) ∧
      ((∃ v, call.request.headers.getAll key = [v] ∧ response.headers.getAll key = [v]) ↔
        x.KeepsIdentifier key) := by
  have hrun := (pending?_eq_some_iff_run?.1 hcalling).1
  obtain ⟨request, peer, own, now, harrived, hbears, hbears'⟩ := exists_bears hrun hr
  have hreadable := hown _ _ _ _ harrived
  have hroute : x.resolved.bind (·.route.requestIdKey) = some key := by
    rw [hfound]
    exact hkey
  have hid : x.requestId = (request.headers.text? key).getD own := by
    rw [hbears.requestId, Request.identifier, hroute]
    rfl
  have hvalue : (HeaderValue.ofText? x.requestId).isSome :=
    HeaderValue.isSome_of_isReadableText (hbears.isReadableText hreadable)
  obtain ⟨_, hresolved, _⟩ := Exchange.inquiry_eq_iff.1 (inquiry_of_calling hrun hr)
  have hechoed : response.headers.getAll key = [Bytes.ofText x.requestId] := by
    obtain ⟨base, rfl⟩ := (equipped_of_run? hr).exists_decorated hresponse
    have hsame : r.exchange.requestId = x.requestId := by
      rw [hbears'.requestId, hresolved, ← hbears.requestId]
    have hechoes : r.exchange.Echoes key := by rw [Exchange.Echoes, hresolved, hroute]
    rw [← hsame]
    exact (r.exchange.decorates_decorate base).identifier key _
      (Exchange.identifier?_of_echoes hechoes (hsame ▸ hvalue))
  have hforwarded : call.request.headers.getAll key =
      if x.passedOn key = [] then [Bytes.ofText x.requestId] else x.passedOn key :=
    (ahead_of_calling hrun).2.getAll_key hfound hkey hhost hclaims hvalue
  refine ⟨request, peer, own, now, harrived, hbears.arrived, hid, hechoed, hforwarded, ?_⟩
  rw [Exchange.keepsIdentifier_iff hhost hreadable (hbears.arrived ▸ hid), hechoed, hforwarded]
  constructor
  · rintro ⟨v, hcall, hback⟩
    obtain rfl := (List.cons.inj hback).1
    by_cases hnil : x.passedOn key = []
    · exact .inl hnil
    · rw [if_neg hnil] at hcall
      exact .inr hcall
  · rintro (hnil | hone)
    · exact ⟨_, by rw [if_pos hnil], rfl⟩
    · have hne : x.passedOn key ≠ [] := hone ▸ List.cons_ne_nil _ _
      exact ⟨_, by rw [if_neg hne, hone], rfl⟩

end Identifiers

section SentTwice

/-- A configuration whose route has a name for request identifiers. -/
def identifying : Config.Gateway where
  routes := [{
    upstreamPathTemplate := "/a"
    downstreamPathTemplate := "/x"
    downstreamHosts := [⟨"h", 1⟩]
    requestIdKey := some "X-Request-Id" }]

/-- A caller sends two identifiers, and the request is forwarded. -/
def sentTwice : List Event :=
  let sent (s : String) : HeaderName × HeaderValue := (⟨"x-request-id"⟩, Bytes.ofText s)
  let request : Request :=
    ⟨.get, ⟨none, none, some ⟨"/a", none⟩⟩, ⟨[sent "first", sent "second"]⟩, []⟩
  .arrive request ⟨.v4 127 0 0 1, 4000⟩ "0a" 1 :: List.replicate 8 (.meet 0 (.pass { now := 1 }))

/-- The backend answers. -/
def answeredOnce : List Event :=
  .meet 0 (.answer 2 (.ok ⟨200, {}, []⟩)) :: List.replicate 4 (.meet 0 (.pass { now := 2 }))

/-- The backend receives both, and the response has the first one. -/
theorem request_identifier_of_call_sentTwice :
    ∃ g x call rest r response,
      Gateway.ofConfig identifying = .ok g ∧
      ((Traffic.new g).after sentTwice).pending? 0 = some ⟨x, .calling call rest⟩ ∧
      ((Traffic.new g).after (sentTwice ++ answeredOnce)).run? 0 = some r ∧
      r.response? = some response ∧
      response.headers.getAll ⟨"x-request-id"⟩ = [Bytes.ofText "first"] ∧
      call.request.headers.getAll ⟨"x-request-id"⟩ = [Bytes.ofText "first", Bytes.ofText "second"] ∧
      ¬ x.KeepsIdentifier ⟨"x-request-id"⟩ := by
  have hrun :
      ((Gateway.ofConfig identifying).toOption.map fun g =>
        (((Traffic.new g).after sentTwice).pending? 0).bind fun r =>
          r.call?.bind fun _ =>
            r.exchange.resolved.bind fun found =>
              (((Traffic.new g).after (sentTwice ++ answeredOnce)).run? 0).bind fun r' =>
                r'.response?.map fun _ =>
                  decide (found.route.requestIdKey = some ⟨"x-request-id"⟩ ∧
                    found.route.headersFromClaims = [] ∧
                    r.exchange.requestId = "first" ∧
                    r.exchange.passedOn ⟨"x-request-id"⟩ =
                      [Bytes.ofText "first", Bytes.ofText "second"])) =
      some (some true) := by
    decide +kernel
  have hown : ∀ request peer own now, .arrive request peer own now ∈ sentTwice →
      IsReadableText own := by
    intro request peer own now h
    rcases List.mem_cons.1 h with h | h
    · cases h
      exact (by decide : IsReadableText "0a")
    · cases List.eq_of_mem_replicate h
  obtain ⟨g, hg, hrun⟩ := exists_eq_ok_of_map hrun
  obtain ⟨⟨x, phase⟩, hpending, hrun⟩ := Option.bind_eq_some_iff.1 hrun
  obtain ⟨call, hcall, hrun⟩ := Option.bind_eq_some_iff.1 hrun
  obtain ⟨found, hfound, hrun⟩ := Option.bind_eq_some_iff.1 hrun
  obtain ⟨r, hr, hrun⟩ := Option.bind_eq_some_iff.1 hrun
  obtain ⟨response, hresponse, hrun⟩ := Option.map_eq_some_iff.1 hrun
  obtain ⟨hkey, hclaims, hid, hpassed⟩ := of_decide_eq_true hrun
  cases phase with
  | passing rest => cases hcall
  | ended response => cases hcall
  | calling call' rest =>
      obtain ⟨_, _, _, _, _, _, _, hechoed, hforwarded, hkeeps⟩ :=
        request_identifier_of_call hown hpending hfound hkey (by decide) (by simp [hclaims]) hr
          hresponse
      rw [hpassed, if_neg nofun] at hforwarded
      rw [hid] at hechoed
      refine ⟨g, x, call', rest, r, response, hg, hpending, hr, hresponse, hechoed, hforwarded,
        fun hkept => ?_⟩
      obtain ⟨v, hv, _⟩ := hkeeps.2 hkept
      rw [hforwarded] at hv
      cases hv

end SentTwice

end Traffic
end ApiGateway
