import ApiGateway.Proofs.Exchange.Frame

/-!
# The forwarding chain

Each gateway on the way of a request puts the address of its peer at the end of a chain. The chain
is a list with commas, and may be written in several values of one name, which are then read one
after another. What a backend receives is the first inbound value with the address of the peer
behind it, or the address alone if this value cannot be read. So the inbound chain is continued just
when it is written in one value that can be read, or when there is none (`Headers.IsContinuable`);
all further values are lost, and so is a value that cannot be read.

A route that has a claim of the caller under this name tells the claim instead.

Main statement: `continues_chain_iff`.
-/

namespace ApiGateway

open HeaderValue (IsReadableText)

namespace HeaderValue

/-- A blank that may stand around an entry of a list. -/
def isBlank (b : UInt8) : Bool := b == 0x20 || b == 0x09

/-- An entry of a list without the blanks around it. -/
def trimmed (b : Bytes) : Bytes :=
  ((b.dropWhile isBlank).reverse.dropWhile isBlank).reverse

/-- The entries of a value that is a list with commas. -/
def entries (v : HeaderValue) : List Bytes :=
  (v.splitOnP (· == 0x2C)).map trimmed

section Entries

variable {v : Bytes}

theorem entries_ne_nil (v : HeaderValue) : entries v ≠ [] := by
  rw [entries, Ne, List.map_eq_nil_iff]
  exact List.splitOnP_ne_nil _ v

/-- A comma ends the entries in front of it. -/
theorem entries_append_comma (v w : Bytes) :
    entries (v ++ 0x2C :: w) = entries v ++ entries w := by
  have hsplit : (v ++ 0x2C :: w).splitOnP (· == 0x2C) =
      v.splitOnP (· == 0x2C) ++ w.splitOnP (· == 0x2C) :=
    List.splitOnP_append_cons v w (by decide)
  rw [entries, hsplit, List.map_append]
  rfl

theorem trimmed_of_plain (h : ∀ b ∈ v, isBlank b = false) : trimmed v = v := by
  have hkept : ∀ w : Bytes, (∀ b ∈ w, isBlank b = false) → w.dropWhile isBlank = w := by
    intro w hw
    cases w with
    | nil => rfl
    | cons b w => rw [List.dropWhile_cons_of_neg (by simp [hw b List.mem_cons_self])]
  rw [trimmed, hkept v h, hkept _ fun b hb => h b (List.mem_reverse.1 hb), List.reverse_reverse]

/-- Bytes without commas and blanks are one entry, also with a blank in front of them. -/
theorem entries_of_plain
    (hcomma : ∀ b ∈ v, (b == 0x2C) = false)
    (hblank : ∀ b ∈ v, isBlank b = false) :
    entries v = [v] ∧ entries (0x20 :: v) = [v] := by
  have hself := trimmed_of_plain hblank
  have hfront : trimmed (0x20 :: v) = trimmed v := by
    rw [trimmed, List.dropWhile_cons_of_pos (by decide), trimmed]
  constructor
  · rw [entries, List.splitOnP_eq_singleton hcomma, List.map_singleton, hself]
  · rw [entries, List.splitOnP_eq_singleton (List.forall_mem_cons.2 ⟨by decide, hcomma⟩),
      List.map_singleton, hfront, hself]

end Entries

/-- The printed form of an address is one entry, also with a blank in front of it. -/
theorem entries_address (ip : IpAddress) :
    entries (Bytes.ofText ip.print) = [Bytes.ofText ip.print] ∧
      entries (0x20 :: Bytes.ofText ip.print) = [Bytes.ofText ip.print] := by
  have hplain : ∀ c ∈ ip.print.toList,
      (UInt8.ofNat c.toNat == 0x2C) = false ∧ isBlank (UInt8.ofNat c.toNat) = false :=
    ip.forall_mem_print (by decide) (by decide) (by decide)
  have hbyte : ∀ b ∈ Bytes.ofText ip.print, (b == 0x2C) = false ∧ isBlank b = false := by
    rw [ofText_eq_ofAscii ip.isReadableText_print]
    intro b hb
    obtain ⟨c, hc, rfl⟩ := List.mem_map.1 hb
    exact hplain c hc
  exact entries_of_plain (fun b hb => (hbyte b hb).1) fun b hb => (hbyte b hb).2

/-- An address that is written behind a readable chain is one more entry of it. -/
theorem entries_append_address
    {s : String}
    (hs : IsReadableText s)
    (ip : IpAddress) :
    entries (Bytes.ofText (s ++ ", " ++ ip.print)) =
      entries (Bytes.ofText s) ++ [Bytes.ofText ip.print] := by
  have hjoined := (hs.append (by decide : IsReadableText ", ")).append ip.isReadableText_print
  have hbytes : Bytes.ofText (s ++ ", " ++ ip.print) =
      Bytes.ofText s ++ 0x2C :: 0x20 :: Bytes.ofText ip.print := by
    rw [ofText_eq_ofAscii hjoined, ofText_eq_ofAscii hs, ofText_eq_ofAscii ip.isReadableText_print,
      String.toList_append, String.toList_append]
    simp only [Bytes.ofAscii, List.map_append, List.append_assoc]
    rfl
  rw [hbytes, entries_append_comma, (entries_address ip).2]

end HeaderValue

namespace Headers

open HeaderValue

/-- The entries of the forwarding chain, value by value. -/
def chain (h : Headers) : List Bytes :=
  (h.getAll .forwardedFor).flatMap entries

/-- The chain that was sent is the inbound one with one more address at its end. -/
def ContinuesChain (sent inbound : Headers) (ip : IpAddress) : Prop :=
  sent.chain = inbound.chain ++ [Bytes.ofText ip.print]

/-- The chain is written in one value that can be read, or there is none. -/
def IsContinuable (h : Headers) : Prop :=
  h.getAll .forwardedFor = [] ∨
    ∃ s, IsReadableText s ∧ h.getAll .forwardedFor = [Bytes.ofText s]

/-- The entries of the first value of the chain, if this can be read. -/
def readChain (h : Headers) : List Bytes :=
  match h.text? .forwardedFor with
  | some s => entries (Bytes.ofText s)
  | none => []

variable (h : Headers)

theorem entries_chainWith (ip : IpAddress) :
    entries (Bytes.ofText (h.chainWith ip.print)) = h.readChain ++ [Bytes.ofText ip.print] := by
  unfold chainWith readChain
  cases hs : h.text? .forwardedFor with
  | some s => exact entries_append_address (isReadableText_of_text? hs) ip
  | none => exact (entries_address ip).1

/-- All of the chain is read just when it can be continued. -/
theorem readChain_eq_chain_iff : h.readChain = h.chain ↔ h.IsContinuable := by
  unfold readChain chain IsContinuable text? get?
  cases hvalues : h.getAll .forwardedFor with
  | nil => simp
  | cons v vs =>
      rw [List.head?_cons, Option.bind_some, List.flatMap_cons]
      cases hs : HeaderValue.text? v with
      | some s =>
          obtain ⟨hreadable, rfl⟩ := readable_of_text? hs
          dsimp only
          rw [List.self_eq_append_right, List.flatMap_eq_nil_iff]
          constructor
          · intro hrest
            have hnil : vs = [] := List.eq_nil_iff_forall_not_mem.2 fun w hw =>
              entries_ne_nil w (hrest w hw)
            exact .inr ⟨s, hreadable, by rw [hnil]⟩
          · rintro (hnone | ⟨s', _, hone⟩)
            · cases hnone
            · rw [(List.cons.inj hone).2]
              exact List.forall_mem_nil _
      | none =>
          dsimp only
          constructor
          · intro hnil
            exact absurd (List.append_eq_nil_iff.1 hnil.symm).1 (entries_ne_nil v)
          · rintro (hnone | ⟨s', hs', hone⟩)
            · cases hnone
            · rw [(List.cons.inj hone).1, text?_ofText hs'] at hs
              cases hs

/-- A chain that is rewritten with one more address continues the one that can be continued. -/
theorem continuesChain_iff
    {sent : Headers}
    {ip : IpAddress}
    (hsent : sent.getAll .forwardedFor = [Bytes.ofText (h.chainWith ip.print)]) :
    sent.ContinuesChain h ip ↔ h.IsContinuable := by
  unfold ContinuesChain
  rw [chain, hsent, List.flatMap_singleton, entries_chainWith, List.append_left_inj,
    readChain_eq_chain_iff]

end Headers

namespace Exchange

variable {x : Exchange}

theorem passedOn_forwardedFor :
    x.passedOn .forwardedFor = [Bytes.ofText (x.request.headers.chainWith x.peer.ip.print)] := by
  rw [passedOn, recorded?, Headers.recorded?, if_pos rfl]

/--
A backend receives the forwarding chain in one value: a claim of the caller, where the route has one
under this name, and else the first inbound value with the address of the peer behind it. This
continues the inbound chain just when that can be continued.
-/
theorem continues_chain_iff
    {q : Request}
    (h : x.buildOutbound = .ok q) :
    ∃ found, x.resolved = some found ∧
      ((∃ e ∈ found.route.headersFromClaims, ∃ value,
        HeaderName.ofText? e.key = some .forwardedFor ∧
        e.extract x.callerClaims = .ok value ∧
        q.headers.getAll .forwardedFor = [Bytes.ofText value]) ∨
      (¬ found.route.TellsClaimAs .forwardedFor ∧
        q.headers.getAll .forwardedFor =
          [Bytes.ofText (x.request.headers.chainWith x.peer.ip.print)] ∧
        (q.headers.ContinuesChain x.request.headers x.peer.ip ↔
          x.request.headers.IsContinuable))) := by
  obtain ⟨found, uri, hfound, hheaders, _⟩ := exists_of_buildOutbound h
  have hone : x.passedOn .forwardedFor ≠ [] := by
    rw [passedOn_forwardedFor]
    exact List.cons_ne_nil _ _
  refine ⟨found, hfound, ?_⟩
  rcases getAll_of_outboundHeaders hheaders .forwardedFor fun _ _ hnil => absurd hnil hone with
    hclaim | ⟨hnone, hpassed⟩
  · exact .inl hclaim
  · rw [if_neg fun hid => hone hid.2, passedOn_forwardedFor] at hpassed
    refine .inr ⟨?_, hpassed, x.request.headers.continuesChain_iff hpassed⟩
    rintro ⟨e, he, hname⟩
    exact hnone e he hname

section TwoValues

/-- A route without headers of its own. -/
def forwarding : Config.Route where
  upstreamPathTemplate := "/a"
  downstreamPathTemplate := "/x"
  downstreamHosts := [⟨"h", 1⟩]

/-- A chain of three addresses, of which the last one is in another value. -/
def twoValues : Headers :=
  ⟨[(.forwardedFor, Bytes.ofText "198.51.100.1, 203.0.113.7"),
    (.forwardedFor, Bytes.ofText "192.0.2.4")]⟩

/-- A request that came through three gateways. -/
def forwardedThrice (r : Route) : Exchange where
  request := ⟨.get, ⟨none, none, some ⟨"/a", none⟩⟩, twoValues, []⟩
  peer := ⟨.v4 10 0 0 9, 5555⟩
  requestId := "0a"
  start := 0
  resolved := some ⟨r, ⟨[], "/a"⟩, "/x"⟩

/-- The second value is lost. -/
theorem continues_chain_iff_twoValues :
    ∃ r q,
      Route.compile 0 {} forwarding = .ok r ∧
      (forwardedThrice r).buildOutbound = .ok q ∧
      q.headers.getAll .forwardedFor = [Bytes.ofText "198.51.100.1, 203.0.113.7, 10.0.0.9"] ∧
      ¬ q.headers.ContinuesChain twoValues (.v4 10 0 0 9) := by
  have hrun :
      (Route.compile 0 {} forwarding).toOption.map (fun r =>
        ((forwardedThrice r).buildOutbound.toOption.map fun _ =>
          decide (r.headersFromClaims = []))) =
      some (some true) := by
    decide +kernel
  obtain ⟨r, hr, hrun⟩ := exists_eq_ok_of_map hrun
  obtain ⟨q, hq, hrun⟩ := exists_eq_ok_of_map hrun
  obtain ⟨found, hfound, hchain⟩ := continues_chain_iff hq
  obtain rfl := Option.some.inj hfound
  rcases hchain with ⟨e, he, _⟩ | ⟨_, hsent, hcontinues⟩
  · rw [of_decide_eq_true hrun] at he
    cases he
  · have hvalue : twoValues.chainWith (IpAddress.v4 10 0 0 9).print =
        "198.51.100.1, 203.0.113.7, 10.0.0.9" := by
      decide +kernel
    refine ⟨r, q, hr, hq, hsent.trans (congrArg ([Bytes.ofText ·]) hvalue), fun hkept => ?_⟩
    rcases hcontinues.1 hkept with hnone | ⟨s, _, hone⟩
    · cases hnone
    · cases (List.cons.inj hone).2

end TwoValues

end Exchange
end ApiGateway
