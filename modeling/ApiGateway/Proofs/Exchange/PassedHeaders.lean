import ApiGateway.Proofs.Exchange.Decoration
import ApiGateway.Proofs.Exchange.PassedClaims
import ApiGateway.Proofs.Run.Provisions

/-!
# Headers that are passed on

What a backend receives under each name. Where the origin of a request is recorded, this takes the
place of what the caller sent (`Headers.recorded?`); a claim takes the place of both; and a request
identifier is added only where there is no value yet. All other names keep their inbound values,
except those that belong to one connection and the host, which is that of the backend.

Main statement: `getAll_of_outboundHeaders`.
-/

namespace ApiGateway

open HeaderValue (IsReadableText)

namespace Headers

/-- A text that is read under a name is readable. -/
theorem isReadableText_of_text?
    {h : Headers}
    {n : HeaderName}
    {s : String}
    (hs : h.text? n = some s) :
    IsReadableText s := by
  obtain ⟨v, _, hv⟩ := Option.bind_eq_some_iff.1 hs
  exact (HeaderValue.readable_of_text? hv).1

/-- The chain of forwarding addresses with one more at its end. -/
def chainWith (h : Headers) (ip : String) : String :=
  match h.text? .forwardedFor with
  | some chain => chain ++ ", " ++ ip
  | none => ip

theorem isReadableText_chainWith
    (h : Headers)
    {ip : String}
    (hip : IsReadableText ip) :
    IsReadableText (h.chainWith ip) := by
  unfold chainWith
  split
  · rename_i chain hchain
    exact ((isReadableText_of_text? hchain).append (by decide)).append hip
  · exact hip

/-- What is recorded under a name about the origin of a request with these headers. -/
def recorded? (h : Headers) (ip host : String) (n : HeaderName) : Option String :=
  if n = .forwardedFor then some (h.chainWith ip)
  else if n = .forwardedProto then if h.contains n then none else some "http"
  else if n = .forwardedHost then if host.isEmpty then none else some host
  else if n = .realIp then some ip
  else none

section Recording

variable (h : Headers)
variable (n : HeaderName)
variable {ip host : String}

theorem getAll_extendChain (hip : IsReadableText ip) :
    (h.extendChain ip).getAll n =
      if .forwardedFor = n then [Bytes.ofText (h.chainWith ip)] else h.getAll n := by
  have hwrite : h.extendChain ip = h.setText .forwardedFor (h.chainWith ip) := by
    unfold extendChain chainWith
    cases h.text? .forwardedFor <;> rfl
  rw [hwrite, getAll_setText _ _ _
    (HeaderValue.isSome_of_isReadableText (h.isReadableText_chainWith hip))]

theorem getAll_defaultProto :
    h.defaultProto.getAll n =
      if .forwardedProto = n ∧ h.contains .forwardedProto = false then [Bytes.ofText "http"]
      else h.getAll n := by
  unfold defaultProto
  cases h.contains .forwardedProto with
  | true => rw [if_pos rfl, if_neg (by simp)]
  | false =>
      rw [if_neg Bool.false_ne_true,
        getAll_setText _ _ _ (HeaderValue.isSome_of_isReadableText (by decide))]
      simp only [and_true]

theorem getAll_recordHost (hhost : IsReadableText host) :
    (h.recordHost host).getAll n =
      if .forwardedHost = n ∧ host.isEmpty = false then [Bytes.ofText host] else h.getAll n := by
  unfold recordHost
  cases host.isEmpty with
  | true => rw [if_pos rfl, if_neg (by simp)]
  | false =>
      rw [if_neg Bool.false_ne_true,
        getAll_setText _ _ _ (HeaderValue.isSome_of_isReadableText hhost)]
      simp only [and_true]

/-- What is recorded takes the place of what was there, and all other values stay. -/
theorem getAll_addOrigin
    (peer : IpAddress)
    (hhost : IsReadableText host) :
    (h.addOrigin peer host).getAll n =
      match h.recorded? peer.print host n with
      | some s => [Bytes.ofText s]
      | none => h.getAll n := by
  have hip := IpAddress.isReadableText_print peer
  have hproto : (h.extendChain peer.print).contains .forwardedProto =
      h.contains .forwardedProto := by
    refine contains_congr ?_
    rw [getAll_extendChain _ _ hip, if_neg (by decide)]
  unfold addOrigin
  rw [getAll_setText _ _ _ (HeaderValue.isSome_of_isReadableText hip),
    getAll_recordHost _ _ hhost, getAll_defaultProto, getAll_extendChain _ _ hip, hproto]
  unfold recorded?
  -- The four names are distinct, so at most one of the writings counts.
  by_cases hfor : n = .forwardedFor
  · subst hfor
    simp +decide
  by_cases hprotoName : n = .forwardedProto
  · subst hprotoName
    cases h.contains .forwardedProto <;> simp +decide
  by_cases hhostName : n = .forwardedHost
  · subst hhostName
    cases host.isEmpty <;> simp +decide
  by_cases hreal : n = .realIp
  · subst hreal
    simp +decide
  · simp [hfor, hprotoName, hhostName, hreal, Ne.symm]

end Recording

/-- What is recorded depends on the inbound values of two of the names. -/
theorem recorded?_congr
    {h h' : Headers}
    (hfor : h.getAll .forwardedFor = h'.getAll .forwardedFor)
    (hproto : h.getAll .forwardedProto = h'.getAll .forwardedProto)
    (ip host : String)
    (n : HeaderName) :
    h.recorded? ip host n = h'.recorded? ip host n := by
  unfold recorded? chainWith
  rw [text?_congr hfor]
  by_cases hn : n = .forwardedProto
  · rw [hn, contains_congr hproto]
  · simp only [if_neg hn]

section Claims

variable {claims : Claims}
variable {e : ClaimsExpression}
variable {h h' : Headers}

/-- A claim that is passed on is the only value of its name, and all other names keep theirs. -/
theorem exists_of_addClaim
    (hadd : h.addClaim claims e = .ok h') :
    ∃ n value, HeaderName.ofText? e.key = some n ∧
      e.extract claims = .ok value ∧
      ∀ m, h'.getAll m = if n = m then [Bytes.ofText value] else h.getAll m := by
  obtain ⟨value, hvalue, hadd⟩ := bind_eq_ok.1 hadd
  split at hadd
  · cases hadd
  · cases hadd
  · rename_i n v hn hv
    cases hadd
    refine ⟨n, value, hn, hvalue, fun m => ?_⟩
    rw [getAll_set, HeaderValue.eq_ofText_of_ofText? hv]

/-- A name has one claim as its value if an expression has it, and its own values if none has. -/
theorem getAll_of_addClaims
    {es : List ClaimsExpression}
    (hadd : es.foldlM (addClaim claims) h = .ok h')
    (n : HeaderName) :
    (∃ e ∈ es, ∃ value,
      HeaderName.ofText? e.key = some n ∧
      e.extract claims = .ok value ∧
      h'.getAll n = [Bytes.ofText value]) ∨
    (∀ e ∈ es, HeaderName.ofText? e.key ≠ some n) ∧ h'.getAll n = h.getAll n := by
  induction es generalizing h with
  | nil =>
      cases hadd
      exact .inr ⟨List.forall_mem_nil _, rfl⟩
  | cons e es ih =>
      rw [List.foldlM_cons] at hadd
      obtain ⟨next, hnext, hadd⟩ := bind_eq_ok.1 hadd
      obtain ⟨m, value, hm, hvalue, hnext⟩ := exists_of_addClaim hnext
      rcases ih hadd with ⟨e', he', hlater⟩ | ⟨hnone, hsame⟩
      · exact .inl ⟨e', List.mem_cons_of_mem _ he', hlater⟩
      · rw [hsame, hnext]
        by_cases hmn : m = n
        · subst hmn
          exact .inl ⟨e, List.mem_cons_self, value, hm, hvalue, if_pos rfl⟩
        · refine .inr ⟨List.forall_mem_cons.2 ⟨fun heq => ?_, hnone⟩, if_neg hmn⟩
          exact hmn (Option.some.inj (hm.symm.trans heq))

end Claims

/-- A request identifier is added under its name where there is no value yet. -/
theorem getAll_addRequestId
    (h : Headers)
    {key : Option HeaderName}
    {id : String}
    (n : HeaderName)
    (hid : key = some n → h.getAll n = [] → (HeaderValue.ofText? id).isSome) :
    (h.addRequestId key id).getAll n =
      if key = some n ∧ h.getAll n = [] then [Bytes.ofText id] else h.getAll n := by
  unfold addRequestId
  cases key with
  | none => rw [if_neg (by simp)]
  | some k =>
      dsimp only
      by_cases hk : k = n
      · subst hk
        by_cases hc : h.getAll k = []
        · rw [(h.contains_eq_false_iff k).2 hc, if_neg Bool.false_ne_true,
            getAll_setText _ _ _ (hid rfl hc), if_pos rfl, if_pos ⟨rfl, hc⟩]
        · rw [if_pos (h.contains_iff k |>.2 hc), if_neg fun hand => hc hand.2]
      · have hne : ¬ (some k = some n ∧ h.getAll n = []) := fun hand => hk (Option.some.inj hand.1)
        rw [if_neg hne]
        split
        · rfl
        · exact getAll_setText_of_ne _ hk _

end Headers

namespace Exchange

section Outbound

variable (x : Exchange)

/-- The host that the inbound request was sent to. -/
def inboundHost : String :=
  (x.request.headers.text? .host).getD ""

theorem isReadableText_inboundHost : IsReadableText x.inboundHost := by
  unfold inboundHost
  cases hhost : x.request.headers.text? .host with
  | none => exact (by decide : IsReadableText "")
  | some host => exact Headers.isReadableText_of_text? hhost

/-- What is recorded under a name about the origin of the request. -/
def recorded? (n : HeaderName) : Option String :=
  x.request.headers.recorded? x.peer.ip.print x.inboundHost n

/--
The values under a name that are passed on apart from claims: what is recorded, or else the inbound
values, without those that belong to one connection and without the host.
-/
def passedOn (n : HeaderName) : List HeaderValue :=
  match x.recorded? n with
  | some s => [Bytes.ofText s]
  | none => if n ∈ HeaderName.hopByHop ∨ n = .host then [] else x.request.headers.getAll n

theorem getAll_eq_passedOn (n : HeaderName) :
    (((x.request.headers.withoutHops).erase .host).addOrigin x.peer.ip x.inboundHost).getAll n =
      x.passedOn n := by
  have hbase : ∀ m, ((x.request.headers.withoutHops).erase .host).getAll m =
      if m ∈ HeaderName.hopByHop ∨ m = .host then [] else x.request.headers.getAll m := by
    intro m
    rw [Headers.getAll_erase, Headers.getAll_withoutHops]
    by_cases hhost : HeaderName.host = m
    · rw [if_pos hhost, if_pos (.inr hhost.symm)]
    · simp only [if_neg hhost, Ne.symm hhost, or_false]
  rw [Headers.getAll_addOrigin _ _ _ x.isReadableText_inboundHost, hbase,
    Headers.recorded?_congr ((hbase _).trans (if_neg (by decide)))
      ((hbase _).trans (if_neg (by decide)))]
  rfl

variable {x}
variable {r : Route}
variable {headers : Headers}

/--
What a backend receives under a name: one claim, if an expression of the route has the name, and
else what is passed on; and if this is nothing and the name is that of the request identifier, then
the identifier.
-/
theorem getAll_of_outboundHeaders
    (h : x.outboundHeaders r = .ok headers)
    (n : HeaderName)
    (hid : r.requestIdKey = some n →
      (∀ e ∈ r.headersFromClaims, HeaderName.ofText? e.key ≠ some n) →
      x.passedOn n = [] →
      (HeaderValue.ofText? x.requestId).isSome) :
    (∃ e ∈ r.headersFromClaims, ∃ value,
      HeaderName.ofText? e.key = some n ∧
      e.extract x.callerClaims = .ok value ∧
      headers.getAll n = [Bytes.ofText value]) ∨
    (∀ e ∈ r.headersFromClaims, HeaderName.ofText? e.key ≠ some n) ∧
      headers.getAll n =
        if r.requestIdKey = some n ∧ x.passedOn n = [] then [Bytes.ofText x.requestId]
        else x.passedOn n := by
  obtain ⟨claimed, hclaimed, h⟩ := bind_eq_ok.1 h
  cases h
  rcases Headers.getAll_of_addClaims hclaimed n with
    ⟨e, he, value, hn, hvalue, hone⟩ | ⟨hnone, hsame⟩
  · refine .inl ⟨e, he, value, hn, hvalue, ?_⟩
    rw [Headers.getAll_addRequestId _ _ fun _ hnil => absurd (hone.symm.trans hnil) nofun, hone,
      if_neg (by simp)]
  · refine .inr ⟨hnone, ?_⟩
    have hpassed : claimed.getAll n = x.passedOn n := hsame.trans (x.getAll_eq_passedOn n)
    rw [Headers.getAll_addRequestId _ _ fun hkey hnil => hid hkey hnone (hpassed.symm.trans hnil),
      hpassed]

/-- The headers of an addressed request are those that were made for it, apart from the host. -/
theorem exists_headers_of_addresses
    {q : Request}
    {found : ResolvedRoute}
    (h : x.Addresses q)
    (hfound : x.resolved = some found) :
    ∃ headers, x.outboundHeaders found.route = .ok headers ∧
      ∀ n ≠ .host, q.headers.getAll n = headers.getAll n := by
  obtain ⟨found', l, built, hfound', _, hbuild, hsend⟩ := h
  obtain rfl := Option.some.inj (hfound.symm.trans hfound')
  obtain ⟨found', hroute, hbuild⟩ := bind_eq_ok.1 hbuild
  obtain rfl := Option.some.inj (hfound.symm.trans (route_eq_ok_iff.1 hroute))
  obtain ⟨target, _, hbuild⟩ := bind_eq_ok.1 hbuild
  obtain ⟨headers, hheaders, hbuild⟩ := bind_eq_ok.1 hbuild
  refine ⟨headers, hheaders, fun n hn => ?_⟩
  split at hbuild
  · cases hbuild
  cases hbuild
  unfold Request.sendTo at hsend
  split at hsend
  · cases hsend
  · cases hsend
    exact Headers.getAll_setText_of_ne _ (Ne.symm hn) _

end Outbound
end Exchange
end ApiGateway
