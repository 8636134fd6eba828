import ApiGateway.Proofs.Cache.Keys
import ApiGateway.Proofs.Route.Keys

/-!
# What two keys have in common

The parts of a key are written one after another with line ends between them and no lengths, and the
digest of a body may have line ends itself. They can be told apart all the same: a method has no
line end, the key of a route ends before the first line end outside its braces, and a target has
none. So calls of any routes, with or without their bodies, have one key only if they agree in all
parts, unless the digests of two different messages are the same.

Main statement: `Cache.keyBytes_eq_iff_and_collide_or_eq`.
-/

namespace ApiGateway

theorem Bytes.notMem_ofText
    {s : String}
    (h : '\n' ∉ s.toList) :
    0x0A ∉ Bytes.ofText s := by
  rw [← String.ofList_toList (s := s), Bytes.ofText_ofList]
  exact fun hmem => h (Bytes.mem_of_mem_flatMap_utf8EncodeChar '\n' (by decide) hmem)

theorem Sha256.hexDigest_eq_of_digest_eq
    {m m' : Bytes}
    (h : digest m = digest m') :
    hexDigest m = hexDigest m' := by
  rw [hexDigest, hexDigest, h]

namespace Cache

/-- What is written of a body behind the target. -/
def bodyBytes (body : Option Bytes) : Bytes :=
  match body.map Sha256.digest with
  | none => []
  | some digest => 0x0A :: digest

theorem bodyBytes_none : bodyBytes none = [] := rfl

theorem keyBytes_eq_append
    (m : Method)
    (routeKey target : String)
    (body : Option Bytes) :
    keyBytes m routeKey target body =
      Bytes.ofText m.text ++ 0x0A ::
        (Bytes.ofText routeKey ++ 0x0A :: (Bytes.ofText target ++ bodyBytes body)) := by
  cases body <;> simp [keyBytes, bodyBytes]

/-- A target without line ends and the digest of a body are told apart, also if there is no body. -/
theorem target_append_inj
    {target target' : String}
    {body body' : Option Bytes}
    (ht : '\n' ∉ target.toList)
    (ht' : '\n' ∉ target'.toList)
    (h : Bytes.ofText target ++ bodyBytes body = Bytes.ofText target' ++ bodyBytes body') :
    target = target' ∧ body.map Sha256.digest = body'.map Sha256.digest := by
  have hline := Bytes.notMem_ofText ht
  have hline' := Bytes.notMem_ofText ht'
  cases body with
  | none =>
      rw [bodyBytes_none, List.append_nil] at h
      cases body' with
      | none =>
          rw [bodyBytes_none, List.append_nil] at h
          exact ⟨Bytes.ofText_injective h, rfl⟩
      | some b' =>
          rw [h] at hline
          exact absurd (List.mem_append_right _ List.mem_cons_self) hline
  | some b =>
      cases body' with
      | none =>
          rw [bodyBytes_none, List.append_nil] at h
          rw [← h] at hline'
          exact absurd (List.mem_append_right _ List.mem_cons_self) hline'
      | some b' =>
          obtain ⟨htarget, hdigest⟩ := Text.append_mark_inj hline hline' h
          exact ⟨Bytes.ofText_injective htarget, congrArg some hdigest⟩

section Calls

variable {m m' : Method}
variable {r r' : Route}
variable {target target' : String}

/-- The parts of a key are told from its bytes. -/
theorem keyBytes_eq_iff
    (hm : isCacheable m = true)
    (hm' : isCacheable m' = true)
    (hr : r.HasEnclosedKey)
    (hr' : r'.HasEnclosedKey)
    (ht : '\n' ∉ target.toList)
    (ht' : '\n' ∉ target'.toList)
    (body body' : Option Bytes) :
    keyBytes m r.key target body = keyBytes m' r'.key target' body' ↔
      m = m' ∧ r.key = r'.key ∧ target = target' ∧
        body.map Sha256.digest = body'.map Sha256.digest := by
  rw [keyBytes_eq_append, keyBytes_eq_append]
  constructor
  · intro h
    obtain ⟨hmethod, hrest⟩ := Text.append_mark_inj
      (notMem_ofText_of_isCacheable hm) (notMem_ofText_of_isCacheable hm') h
    obtain ⟨hkey, hrest⟩ := Route.key_append_inj hr hr' hrest
    obtain ⟨htarget, hbody⟩ := target_append_inj ht ht' hrest
    refine ⟨?_, hkey, htarget, hbody⟩
    cases m
    cases m'
    exact congrArg Method.mk (Bytes.ofText_injective hmethod)
  · rintro ⟨rfl, hkey, rfl, hbody⟩
    rw [hkey, bodyBytes, bodyBytes, hbody]

/--
Two keys are made of the same bytes just when they are made of the same parts, of bodies their
digests; and calls with one key agree in all parts, unless the two messages that the keys are the
digests of collide, or the two bodies do.
-/
theorem keyBytes_eq_iff_and_collide_or_eq
    (hm : isCacheable m = true)
    (hm' : isCacheable m' = true)
    (hr : r.HasEnclosedKey)
    (hr' : r'.HasEnclosedKey)
    (ht : '\n' ∉ target.toList)
    (ht' : '\n' ∉ target'.toList)
    (body body' : Option Bytes) :
    (keyBytes m r.key target body = keyBytes m' r'.key target' body' ↔
      m = m' ∧ r.key = r'.key ∧ target = target' ∧
        body.map Sha256.digest = body'.map Sha256.digest) ∧
    (key m r.key target body = key m' r'.key target' body' →
      (m = m' ∧ r.key = r'.key ∧ target = target' ∧ body = body') ∨
      Sha256.Collide (keyBytes m r.key target body) (keyBytes m' r'.key target' body') ∨
      ∃ b b', body = some b ∧ body' = some b' ∧ Sha256.Collide b b') := by
  have hparts := keyBytes_eq_iff hm hm' hr hr' ht ht' body body'
  refine ⟨hparts, fun h => ?_⟩
  by_cases hbytes : keyBytes m r.key target body = keyBytes m' r'.key target' body'
  · obtain ⟨hmethod, hkey, htarget, hbody⟩ := hparts.1 hbytes
    by_cases hsame : body = body'
    · exact .inl ⟨hmethod, hkey, htarget, hsame⟩
    · right
      right
      cases body with
      | none =>
          cases body' with
          | none => exact absurd rfl hsame
          | some b' => cases hbody
      | some b =>
          cases body' with
          | none => cases hbody
          | some b' =>
              have hdigest := Sha256.hexDigest_eq_of_digest_eq (Option.some.inj hbody)
              exact ⟨b, b', rfl, rfl, fun hb => hsame (congrArg some hb), hdigest⟩
  · exact .inr (.inl ⟨hbytes, h⟩)

end Calls

section Orders

/-- A route with a placeholder whose name goes over two lines. -/
def ordersByLine : Config.Route :=
  { upstreamPathTemplate := "/orders/\x7bfirst\nsecond\x7d"
    upstreamHttpMethod := ["GET"]
    downstreamPathTemplate := "/v2/orders"
    downstreamHosts := [⟨"one.example", 8080⟩] }

/-- A route with a placeholder whose name is the first of those lines. -/
def ordersByName : Config.Route :=
  { ordersByLine with upstreamPathTemplate := "/orders/\x7bfirst\x7d" }

/-- The two routes never share a key, and calls of one do not if one of them has a body. -/
theorem keyBytes_orders_ne :
    ∃ r r' : Route,
      Route.compile 0 {} ordersByLine = .ok r ∧ Route.compile 0 {} ordersByName = .ok r' ∧
      r.HasEnclosedKey ∧ r'.HasEnclosedKey ∧
      (∀ body body',
        keyBytes .get r.key "/v2/orders" body ≠ keyBytes .get r'.key "/v2/orders" body') ∧
      ∀ b, keyBytes .head r.key "/v2/orders" none ≠ keyBytes .head r.key "/v2/orders" (some b) := by
  have hline : (Route.compile 0 {} ordersByLine).toOption.map (fun r => (r.upstream, r.key)) =
      some (⟨"/orders/\x7bfirst\nsecond\x7d",
        [.literal "/orders/", .placeholder "first\nsecond"]⟩,
        "GET|/orders/\x7bfirst\nsecond\x7d") := by
    decide +kernel
  have hname : (Route.compile 0 {} ordersByName).toOption.map (fun r => (r.upstream, r.key)) =
      some (⟨"/orders/\x7bfirst\x7d", [.literal "/orders/", .placeholder "first"]⟩,
        "GET|/orders/\x7bfirst\x7d") := by
    decide +kernel
  obtain ⟨r, hr, hline⟩ := exists_eq_ok_of_map hline
  obtain ⟨r', hr', hname⟩ := exists_eq_ok_of_map hname
  obtain ⟨hupstream, hkey⟩ := Prod.mk.inj hline
  obtain ⟨hupstream', hkey'⟩ := Prod.mk.inj hname
  have hlines : ∀ text name : String,
      Template.EnclosesLineEnds ⟨text, [.literal "/orders/", .placeholder name]⟩ := by
    intro text name literal hliteral
    rcases List.mem_cons.1 hliteral with h | h
    · cases h
      decide
    · cases List.mem_singleton.1 h
  have henclosed : r.HasEnclosedKey :=
    ⟨⟨0, {}, ordersByLine, hr⟩, hupstream ▸ ⟨_, rfl⟩, hupstream ▸ hlines _ _⟩
  have henclosed' : r'.HasEnclosedKey :=
    ⟨⟨0, {}, ordersByName, hr'⟩, hupstream' ▸ ⟨_, rfl⟩, hupstream' ▸ hlines _ _⟩
  have htarget : '\n' ∉ "/v2/orders".toList := by decide
  refine ⟨r, r', hr, hr', henclosed, henclosed', fun body body' h => ?_, fun b h => ?_⟩
  · have hsame := (keyBytes_eq_iff_and_collide_or_eq rfl rfl henclosed henclosed' htarget htarget
      body body').1.1 h
    rw [hkey, hkey'] at hsame
    exact absurd hsame.2.1 (by decide)
  · have hsame := (keyBytes_eq_iff_and_collide_or_eq rfl rfl henclosed henclosed htarget htarget
      none (some b)).1.1 h
    cases hsame.2.2.2

end Orders

end Cache
end ApiGateway
