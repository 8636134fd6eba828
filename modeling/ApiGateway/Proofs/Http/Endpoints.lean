import ApiGateway.Proofs.Http.Addresses
import ApiGateway.Proofs.Net.Literals
import ApiGateway.Proofs.Text.Numerals
import ApiGateway.Run.Backend

/-!
# Which backends can be called

An endpoint is a host, a colon and a port, and an authority may have one colon outside brackets. So
a backend can be called by a name or an address of the shorter form, and by one of the longer form
if its registration has it in brackets. An address of the longer form without brackets has two
colons or more of its own, and no request is ever addressed to it.

Main statement: `Stage.address_of_host`.
-/

namespace ApiGateway

namespace Uri

/-- The host in an authority: behind the user, up to a closing bracket, or else up to a colon. -/
def hostOf (authority : List Char) : List Char :=
  let cs := (authority.reverse.takeWhile (· ≠ '@')).reverse
  if cs.head? = some '[' then cs.takeWhile (· ≠ ']') ++ [']'] else cs.takeWhile (· ≠ ':')

/-- The port in an authority: the number behind its last colon. -/
def portOf? (authority : List Char) : Option UInt16 :=
  if ':' ∈ authority then
    (Text.natural? 65535 (authority.reverse.takeWhile (· ≠ ':')).reverse).map UInt16.ofNat
  else none

/-- The authority of a target tells a host and a port. -/
def Tells (u : Uri) (host : String) (port : UInt16) : Prop :=
  ∃ a, u.authority = some a ∧ hostOf a.toList = host.toList ∧ portOf? a.toList = some port

/-- The port is behind the last colon. -/
theorem portOf?_append
    {as bs : List Char}
    (h : ':' ∉ bs) :
    portOf? (as ++ ':' :: bs) = (Text.natural? 65535 bs).map UInt16.ofNat := by
  unfold portOf?
  rw [if_pos (by simp), List.reverse_append, List.reverse_cons, List.append_assoc,
    List.singleton_append, Text.takeWhile_append_mark (by simpa using h), List.reverse_reverse]

/-- A sign behind an authority that is not a mark becomes a part of it. -/
theorem IsAuthority.append_char
    {name : List Char}
    {c : Char}
    (h : IsAuthority name)
    (hc : isAuthorityChar c = true) :
    IsAuthority (name ++ [c]) := by
  obtain ⟨scan, hscan, hfinish⟩ := bind_eq_ok.1 h.scanned
  have hends : scan.endsWithAt = false := by
    refine eq_false_of_ne_true fun hat => ?_
    simp [AuthorityScan.finish, hat] at hfinish
  refine ⟨by simp, fun d hd => ?_, ?_⟩
  · rcases List.mem_append.1 hd with hd | hd
    · exact h.inside d hd
    · exact List.mem_singleton.1 hd ▸ not_endsAuthority_of_isAuthorityChar hc
  · rw [List.foldlM_append, hscan]
    refine bind_eq_ok.2 ⟨scan, ?_, hfinish⟩
    show [c].foldlM AuthorityScan.step scan = .ok scan
    rw [List.foldlM_cons, step_of_isAuthorityChar hc hends]
    rfl

/-- An address of the longer form without brackets has too many colons for an authority. -/
theorem scanned_of_bare
    {cs : List Char}
    (hcs : ∀ c ∈ cs, isAuthorityChar c = true ∨ c = ':')
    (hcolons : 1 < cs.count ':') :
    (cs.foldlM AuthorityScan.step {} >>= AuthorityScan.finish) =
      .error .invalidAuthority := by
  rw [foldlM_step hcs rfl (Nat.zero_le _)]
  split
  · show AuthorityScan.finish { colons := 0 + cs.count ':' } = _
    simp [AuthorityScan.finish, hcolons]
  · rfl

end Uri

/-- The name of a host: letters, digits, hyphens, underscores and dots. -/
def IsHostName (host : String) : Prop :=
  host ≠ "" ∧ ∀ c ∈ host.toList, Uri.isHostChar c = true ∨ c = '_'

/-- A host that can be called: a name, an address, or an address of the longer form in brackets. -/
inductive IsCallable (host : String) : Prop
  | name :
      IsHostName host →
      IsCallable host
  | v4 {a : UInt8 × UInt8 × UInt8 × UInt8} :
      IpAddress.v4? host.toList = some a →
      IsCallable host
  | bracketed {cs : List Char} {gs : List UInt16} :
      IpAddress.v6? cs = some gs →
      host.toList = '[' :: (cs ++ [']']) →
      IsCallable host

namespace Service

variable {s : Service}

/-- A host that can be called has no marks but those of an address in brackets. -/
theorem isAuthorityChar_or_bracketed (h : IsCallable s.host) :
    (∀ c ∈ s.host.toList, Uri.isAuthorityChar c = true) ∨
      ∃ cs, s.host.toList = '[' :: (cs ++ [']']) ∧
        (∀ c ∈ cs, Uri.isHostChar c = true ∨ c = ':') ∧ cs.count ':' ≤ Uri.maxColons := by
  cases h with
  | name hname =>
      refine .inl fun c hc => ?_
      rcases hname.2 c hc with hplain | rfl
      · exact Uri.isAuthorityChar_of_isHostChar hplain
      · rfl
  | v4 ha =>
      exact .inl fun c hc => Uri.isAuthorityChar_of_isHostChar ((IpAddress.of_v4? ha).2 c hc)
  | bracketed hgs hhost =>
      obtain ⟨hchars, _, hcount⟩ := IpAddress.of_v6? hgs
      exact .inr ⟨_, hhost, hchars, hcount⟩

/-- An address in brackets and a port are an authority. -/
theorem isAuthority_of_bracketed
    {cs : List Char}
    (hhost : s.host.toList = '[' :: (cs ++ [']']))
    (hchars : ∀ c ∈ cs, Uri.isHostChar c = true ∨ c = ':')
    (hcount : cs.count ':' ≤ Uri.maxColons) :
    Uri.IsAuthority s.endpoint.toList := by
  have hplain : ∀ c ∈ cs, Uri.isAuthorityChar c = true ∨ c = ':' :=
    fun c hc => (hchars c hc).imp_left Uri.isAuthorityChar_of_isHostChar
  have hport : ∀ c ∈ ':' :: Nat.toDigits 10 s.port.toNat, Uri.isAuthorityChar c = true ∨ c = ':' :=
    List.forall_mem_cons.2 ⟨.inr rfl, fun c hc =>
      .inl (Uri.isAuthorityChar_of_isHostChar (isHostChar_of_mem_port hc))⟩
  have hplainEnds : ∀ c, Uri.isHostChar c = true → Uri.endsAuthority c = false :=
    fun c hc => Uri.not_endsAuthority_of_isAuthorityChar (Uri.isAuthorityChar_of_isHostChar hc)
  refine ⟨endpoint_ne_nil s, forall_mem_endpoint (fun c hc => ?_) rfl hplainEnds, ?_⟩
  · rw [hhost, List.mem_cons, List.mem_append, List.mem_singleton] at hc
    rcases hc with rfl | hc | rfl
    · rfl
    · rcases hchars c hc with hc | rfl
      · exact hplainEnds c hc
      · rfl
    · rfl
  · -- The colons between the brackets are forgotten at the closing one.
    have hinside : cs.foldlM Uri.AuthorityScan.step { opened := true } =
        .ok { opened := true, colons := 0 + cs.count ':' } :=
      (Uri.foldlM_step hplain rfl (Nat.zero_le _)).trans
        (if_pos ((Nat.zero_add _).symm ▸ hcount))
    have hbehind : (':' :: Nat.toDigits 10 s.port.toNat).foldlM Uri.AuthorityScan.step
        { opened := true, closed := true } = .ok { opened := true, closed := true, colons := 1 } := by
      rw [Uri.foldlM_step hport rfl (Nat.zero_le _), count_colon_port]
      rfl
    rw [toList_endpoint, hhost, List.cons_append, List.append_assoc, List.foldlM_cons]
    show (List.foldlM Uri.AuthorityScan.step { opened := true } _ >>= _) = _
    rw [List.foldlM_append, hinside]
    show ((':' :: Nat.toDigits 10 s.port.toNat).foldlM Uri.AuthorityScan.step
      { opened := true, closed := true } >>= _) = _
    rw [hbehind]
    rfl

/-- A host that can be called and a port are an authority. -/
theorem isAuthority_of_isCallable (h : IsCallable s.host) : Uri.IsAuthority s.endpoint.toList := by
  rcases isAuthorityChar_or_bracketed h with hchars | ⟨cs, hhost, hchars, hcount⟩
  · exact isAuthority_endpoint hchars
  · exact isAuthority_of_bracketed hhost hchars hcount

/-- The port of an endpoint is told by it, whatever the host is. -/
theorem portOf?_endpoint (s : Service) : Uri.portOf? s.endpoint.toList = some s.port := by
  have hnumeral : Text.natural? 65535 (Nat.toDigits 10 s.port.toNat) = some s.port.toNat :=
    Text.natural?_eq_some_iff.2 (Text.isNumeral_toDigits (Nat.le_of_lt_succ s.port.toNat_lt))
  rw [toList_endpoint, Uri.portOf?_append (colon_notMem_port s), hnumeral, Option.map_some,
    UInt16.ofNat_toNat]

/-- With a star behind it, an endpoint tells no port. -/
theorem portOf?_endpoint_star (s : Service) : Uri.portOf? (s.endpoint.toList ++ ['*']) = none := by
  have hcolon : ':' ∉ Nat.toDigits 10 s.port.toNat ++ ['*'] := by
    simpa using colon_notMem_port s
  rw [toList_endpoint, List.append_assoc, List.cons_append, Uri.portOf?_append hcolon,
    Option.map_eq_none_iff, Option.eq_none_iff_forall_ne_some]
  intro n hn
  have hstar := (Text.natural?_eq_some_iff.1 hn).isDigit_or '*' (by simp)
  exact absurd hstar (by decide)

/-- There is no user in front of a host without the mark of one. -/
theorem takeWhile_at_endpoint (h : '@' ∉ s.host.toList) :
    s.endpoint.toList.reverse.takeWhile (· ≠ '@') = s.endpoint.toList.reverse := by
  have hdigits : ∀ c, Uri.isHostChar c = true → c ≠ '@' := by
    rintro c hc rfl
    exact absurd hc (by decide)
  have hinside : ∀ c ∈ s.endpoint.toList, c ≠ '@' :=
    forall_mem_endpoint (fun c hc => ne_of_mem_of_not_mem hc h) (by decide) hdigits
  rw [List.takeWhile_eq_self_iff]
  exact fun c hc => decide_eq_true (hinside c (List.mem_reverse.1 hc))

/-- A host without marks is told up to the colon. -/
theorem hostOf_endpoint_of_plain (h : ∀ c ∈ s.host.toList, Uri.isAuthorityChar c = true) :
    Uri.hostOf s.endpoint.toList = s.host.toList := by
  have hmark : ∀ m : Char, Uri.isAuthorityChar m = false → m ∉ s.host.toList :=
    fun m hm hmem => absurd (hm.symm.trans (h m hmem)) nofun
  have hopen : s.endpoint.toList.head? ≠ some '[' := by
    rw [toList_endpoint]
    intro hhead
    cases hlist : s.host.toList with
    | nil =>
        rw [hlist] at hhead
        cases hhead
    | cons c cs =>
        rw [hlist] at hhead
        cases hhead
        exact hmark '[' (by decide) (hlist ▸ List.mem_cons_self)
  unfold Uri.hostOf
  rw [takeWhile_at_endpoint (hmark '@' (by decide)), List.reverse_reverse, if_neg hopen,
    toList_endpoint, Text.takeWhile_append_mark (hmark ':' (by decide))]

/-- A host in brackets is told up to the closing one. -/
theorem hostOf_endpoint_of_bracketed
    {cs : List Char}
    (hhost : s.host.toList = '[' :: (cs ++ [']']))
    (hchars : ∀ c ∈ cs, Uri.isHostChar c = true ∨ c = ':') :
    Uri.hostOf s.endpoint.toList = s.host.toList := by
  have hmark : ∀ m : Char, Uri.isHostChar m = false → m ≠ ':' → m ∉ cs := by
    intro m hm hcolon hmem
    rcases hchars m hmem with hplain | heq
    · exact absurd (hm.symm.trans hplain) nofun
    · exact hcolon heq
  have hat : '@' ∉ s.host.toList := by
    rw [hhost]
    simpa using hmark '@' (by decide) (by decide)
  have hclosing : ']' ∉ '[' :: cs := by
    simpa using hmark ']' (by decide) (by decide)
  have hendpoint : s.endpoint.toList = ('[' :: cs) ++ ']' :: ':' :: Nat.toDigits 10 s.port.toNat := by
    rw [toList_endpoint, hhost, List.cons_append, List.append_assoc]
    rfl
  have hopen : s.endpoint.toList.head? = some '[' := by
    rw [hendpoint]
    rfl
  unfold Uri.hostOf
  rw [takeWhile_at_endpoint hat, List.reverse_reverse, if_pos hopen, hendpoint,
    Text.takeWhile_append_mark hclosing, hhost, List.cons_append]

/-- A host that can be called is told by its endpoint. -/
theorem hostOf_endpoint (h : IsCallable s.host) : Uri.hostOf s.endpoint.toList = s.host.toList := by
  rcases isAuthorityChar_or_bracketed h with hchars | ⟨cs, hhost, hchars, _⟩
  · exact hostOf_endpoint_of_plain hchars
  · exact hostOf_endpoint_of_bracketed hhost hchars

end Service

namespace Request

variable {q : Request}
variable {scheme target : String}
variable {s : Service}

/-- What a request sends as path and query can stand behind an authority, unless it is a star. -/
theorem exists_readable_of_read (h : Uri.read target = .ok q.uri) :
    q.sentTarget = "*" ∨ ∃ pq : PathAndQuery, pq.Readable ∧ pq.text = q.sentTarget := by
  unfold sentTarget
  rcases Uri.pathAndQuery_of_read h with hnone | hstar | ⟨pq, cs, hpq, hread, _, hcs⟩
  · rw [hnone]
    have hslash : Uri.readPathAndQuery ['/'] = .ok ⟨"/", none⟩ := rfl
    exact .inr ⟨_, (Uri.wellFormed_of_readPathAndQuery hslash).readable, rfl⟩
  · rw [hstar]
    exact .inl rfl
  · rw [hpq]
    exact .inr (Uri.exists_readable_of_readPathAndQuery hread hcs)

/--
A request that was made can be addressed to a host that can be called. Behind a star the port cannot
be read, since a star does not end an authority; otherwise the address tells the host and the port,
and the same is sent there.
-/
theorem sendTo_of_isCallable
    (hread : Uri.read target = .ok q.uri)
    (hscheme : Uri.IsWebScheme scheme)
    (hlength : (scheme ++ "://" ++ s.endpoint ++ q.sentTarget).utf8ByteSize ≤ Uri.maxLength)
    (hs : IsCallable s.host) :
    ∃ uri,
      q.sendTo scheme s.endpoint =
        .ok { q with uri, headers := q.headers.setText .host s.endpoint } ∧
      uri.scheme = some scheme ∧
      (uri.Tells s.host s.port ↔ q.sentTarget ≠ "*") ∧
      (q.sentTarget ≠ "*" → ({ q with uri } : Request).sentTarget = q.sentTarget) := by
  have hendpoint := Service.isAuthority_of_isCallable hs
  unfold sendTo
  rcases exists_readable_of_read hread with hstar | ⟨pq, hpq, htext⟩
  · rw [hstar] at hlength ⊢
    have hlist : (scheme ++ "://" ++ s.endpoint ++ "*").toList =
        scheme.toList ++ "://".toList ++ ((s.endpoint.toList ++ ['*']) ++ []) := by
      simp [String.toList_append]
    have hauthority := hendpoint.append_char (c := '*') (by decide)
    have hnone : ∀ c ∈ ([] : List Char).head?, Uri.endsAuthority c = true := nofun
    have haddress := Uri.read_web hscheme hlist hlength hauthority.nonempty hauthority.inside hnone
    rw [hauthority.scanned] at haddress
    rw [haddress]
    refine ⟨_, rfl, rfl, iff_of_false ?_ (by simp), fun h => absurd rfl h⟩
    rintro ⟨a, ha, _, hport⟩
    obtain rfl := Option.some.inj ha
    rw [String.toList_ofList, Service.portOf?_endpoint_star] at hport
    cases hport
  · rw [← htext] at hlength ⊢
    rw [Uri.read_web_of_isAuthority hscheme hendpoint hpq hlength]
    refine ⟨_, rfl, rfl, iff_of_true ?_ ?_, fun _ => rfl⟩
    · exact ⟨_, rfl, Service.hostOf_endpoint hs, Service.portOf?_endpoint s⟩
    · intro hstar
      have hends := hpq.endsAuthority_text '*' (by rw [hstar]; rfl)
      exact absurd hends (by decide)

/-- No request is addressed to an address of the longer form that is not in brackets. -/
theorem sendTo_of_bare
    {gs : List UInt16}
    (hread : Uri.read target = .ok q.uri)
    (hscheme : Uri.IsWebScheme scheme)
    (hlength : (scheme ++ "://" ++ s.endpoint ++ q.sentTarget).utf8ByteSize ≤ Uri.maxLength)
    (hs : IpAddress.v6? s.host.toList = some gs) :
    q.sendTo scheme s.endpoint = .error (.internal "downstream uri: invalid authority") := by
  obtain ⟨hchars, hcolons, _⟩ := IpAddress.of_v6? hs
  have hplain : ∀ c ∈ s.endpoint.toList, Uri.isAuthorityChar c = true ∨ c = ':' :=
    Service.forall_mem_endpoint (fun c hc => (hchars c hc).imp_left Uri.isAuthorityChar_of_isHostChar)
      (.inr rfl) fun c hc => .inl (Uri.isAuthorityChar_of_isHostChar hc)
  -- What is sent may add to the authority, but takes no colon from it.
  obtain ⟨tail, rest, hsent, htail, hrest⟩ : ∃ tail rest,
      q.sentTarget.toList = tail ++ rest ∧ (∀ c ∈ tail, Uri.isAuthorityChar c = true) ∧
        ∀ c ∈ rest.head?, Uri.endsAuthority c = true := by
    rcases exists_readable_of_read hread with hstar | ⟨pq, hpq, htext⟩
    · exact ⟨['*'], [], by rw [hstar]; rfl, List.forall_mem_singleton.2 rfl, nofun⟩
    · exact ⟨[], pq.text.toList, by rw [← htext]; rfl, nofun, hpq.endsAuthority_text⟩
  have hname : ∀ c ∈ s.endpoint.toList ++ tail, Uri.isAuthorityChar c = true ∨ c = ':' :=
    fun c hc => (List.mem_append.1 hc).elim (hplain c) fun hc => .inl (htail c hc)
  have hmany : 1 < (s.endpoint.toList ++ tail).count ':' := by
    rw [List.count_append, Service.count_colon_endpoint]
    omega
  have hlist : (scheme ++ "://" ++ s.endpoint ++ q.sentTarget).toList =
      scheme.toList ++ "://".toList ++ ((s.endpoint.toList ++ tail) ++ rest) := by
    simp only [String.toList_append, hsent, List.append_assoc]
  have hinside : ∀ c ∈ s.endpoint.toList ++ tail, Uri.endsAuthority c = false := by
    intro c hc
    rcases hname c hc with hc | rfl
    · exact Uri.not_endsAuthority_of_isAuthorityChar hc
    · rfl
  have haddress := Uri.read_web hscheme hlist hlength
    (List.append_ne_nil_of_left_ne_nil (Service.endpoint_ne_nil s) _) hinside hrest
  rw [Uri.scanned_of_bare hname hmany] at haddress
  unfold sendTo
  rw [haddress]
  rfl

end Request

/-- A request is made with a target that was read. -/
theorem Exchange.exists_read_of_buildOutbound
    {x : Exchange}
    {q : Request}
    (h : x.buildOutbound = .ok q) :
    ∃ target, Uri.read target = .ok q.uri := by
  obtain ⟨_, _, h⟩ := bind_eq_ok.1 h
  obtain ⟨target, _, h⟩ := bind_eq_ok.1 h
  obtain ⟨_, _, h⟩ := bind_eq_ok.1 h
  split at h
  · cases h
  · rename_i huri
    cases h
    exact ⟨target, huri⟩

namespace Stage

/--
Once a backend is on lease, a request that was made is addressed to it if its host is a name, an
address of the shorter form or an address of the longer form in brackets: the address is read, it
tells the host and the port, and what was to be sent is sent there. Only a target that is a lone
star takes the port away. If the host is an address of the longer form without brackets, the request
is refused, and the lease is given back, whatever the port and the target are.
-/
theorem address_of_host
    {x y : Exchange}
    {q : Request}
    {r : Route}
    {l : Lease}
    (hbuilt : x.buildOutbound = .ok q)
    (hy : y.outbound = some q)
    (hscheme : Uri.IsWebScheme r.downstreamScheme)
    (hlength : (r.downstreamScheme ++ "://" ++ l.service.endpoint ++ q.sentTarget).utf8ByteSize ≤
      Uri.maxLength)
    (g : Gateway) :
    (IsCallable l.service.host →
      ∃ uri,
        address g y r l =
          Passage.proceed (g.giveBack y.lease)
            { y with
              outbound :=
                some { q with uri, headers := q.headers.setText .host l.service.endpoint }
              lease := some l } ∧
        uri.scheme = some r.downstreamScheme ∧
        (uri.Tells l.service.host l.service.port ↔ q.sentTarget ≠ "*") ∧
        (q.sentTarget ≠ "*" → ({ q with uri } : Request).sentTarget = q.sentTarget)) ∧
    ∀ gs, IpAddress.v6? l.service.host.toList = some gs →
      address g y r l =
        Passage.refuse (g.giveBack (some l)) y (.internal "downstream uri: invalid authority") := by
  obtain ⟨target, hread⟩ := Exchange.exists_read_of_buildOutbound hbuilt
  unfold address
  rw [hy]
  constructor
  · intro hs
    obtain ⟨uri, hsend, haddress⟩ := Request.sendTo_of_isCallable hread hscheme hlength hs
    exact ⟨uri, by simp only [hsend], haddress⟩
  · intro gs hs
    simp only [Request.sendTo_of_bare hread hscheme hlength hs]

section Literals

/-- A backend that listens at an address of the longer form. -/
def listening : Config.Route where
  upstreamPathTemplate := "/a"
  downstreamPathTemplate := "/x"
  downstreamHosts := [⟨"2001:db8::1", 8080⟩]

/-- A request for it. -/
def forListening (r : Route) : Exchange where
  request := ⟨.get, ⟨none, none, some ⟨"/a", none⟩⟩, {}, []⟩
  peer := ⟨.v4 10 0 0 9, 5555⟩
  requestId := "0a"
  start := 0
  resolved := some ⟨r, ⟨[], "/a"⟩, "/x"⟩

/-- A lease of a backend by the host that it is registered with. -/
def leaseOf (host : String) : Lease :=
  ⟨0, .roundRobin, .ofHostAndPort ⟨host, 8080⟩⟩

/-- As it is registered the backend cannot be called, and in brackets it can. -/
theorem address_of_host_listening :
    ∃ g r q uri,
      Gateway.ofConfig { routes := [listening] } = .ok g ∧
      Route.compile 0 {} listening = .ok r ∧
      (forListening r).buildOutbound = .ok q ∧
      address g { forListening r with outbound := some q } r (leaseOf "2001:db8::1") =
        Passage.refuse (g.giveBack (some (leaseOf "2001:db8::1")))
          { forListening r with outbound := some q }
          (.internal "downstream uri: invalid authority") ∧
      (address g { forListening r with outbound := some q } r
        (leaseOf "[2001:db8::1]")).exchange.outbound.map (·.uri) = some uri ∧
      Uri.Tells uri "[2001:db8::1]" 8080 := by
  have hgateway : (Gateway.ofConfig { routes := [listening] }).toOption.map (fun _ => ()) =
      some () := by
    decide +kernel
  have hrun :
      (Route.compile 0 {} listening).toOption.map (fun r =>
        (forListening r).buildOutbound.toOption.map fun q =>
          (r.downstreamScheme, q.sentTarget)) =
      some (some ("http", "/x")) := by
    decide +kernel
  obtain ⟨g, hg, _⟩ := exists_eq_ok_of_map hgateway
  obtain ⟨r, hr, hrun⟩ := exists_eq_ok_of_map hrun
  obtain ⟨q, hq, hrun⟩ := exists_eq_ok_of_map hrun
  obtain ⟨hscheme, hsent⟩ := Prod.mk.inj hrun
  have hlength : ∀ host, (host = "2001:db8::1" ∨ host = "[2001:db8::1]") →
      (r.downstreamScheme ++ "://" ++ (leaseOf host).service.endpoint ++
        q.sentTarget).utf8ByteSize ≤ Uri.maxLength := by
    rw [hscheme, hsent]
    rintro host (rfl | rfl) <;> decide +kernel
  have hliteral : IpAddress.v6? "2001:db8::1".toList = some [0x2001, 0xDB8, 0, 0, 0, 0, 0, 1] := by
    decide +kernel
  have hbare := (address_of_host (y := { forListening r with outbound := some q })
    (l := leaseOf "2001:db8::1") hq rfl (.inl hscheme) (hlength _ (.inl rfl)) g).2 _ hliteral
  obtain ⟨uri, haddress, _, htells, _⟩ :=
    (address_of_host (y := { forListening r with outbound := some q })
      (l := leaseOf "[2001:db8::1]") hq rfl (.inl hscheme) (hlength _ (.inr rfl)) g).1
      (.bracketed hliteral rfl)
  refine ⟨g, r, q, uri, hg, hr, hq, hbare, by rw [haddress]; rfl, htells.2 ?_⟩
  rw [hsent]
  decide

end Literals

end Stage
end ApiGateway
