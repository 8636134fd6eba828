import ApiGateway.Proofs.Exchange.ForwardingChain

/-!
# What belongs to one connection

Eight names always belong to the connection over which a message comes, and the message may list
more of them: the values of `connection` are lists with commas, whose entries are names in any case
(`Headers.options`).

The eight are left out when a message goes on, but the list is not read. So every other name keeps
its inbound values, listed or not, apart from those for which the route has headers of its own and
those that the gateway writes itself (`Headers.GoesOnAs`). Nothing that belongs to the connection of
a message goes on with it just when nothing else that is listed has a value
(`Headers.GoesOnAs.confines_iff`).
-/

namespace ApiGateway

namespace HeaderName

/-- The name under which a message lists what belongs to its connection. -/
def connection : HeaderName := ⟨"connection"⟩

/-- The name that an entry of a list denotes, in whatever case it is written. -/
def ofEntry? (entry : Bytes) : Option HeaderName :=
  (Bytes.text? entry).bind ofText?

theorem notMem_ofOrigin_of_mem_hopByHop
    {n : HeaderName}
    (h : n ∈ hopByHop) :
    n ≠ .host ∧ n ∉ ofOrigin := by
  have hall : ∀ m ∈ hopByHop, m ≠ .host ∧ m ∉ ofOrigin := by
    decide
  exact hall n h

theorem notMem_advisory_of_mem_hopByHop
    {n : HeaderName}
    (h : n ∈ hopByHop) :
    n ∉ advisory := by
  have hall : ∀ m ∈ hopByHop, m ∉ advisory := by
    decide
  exact hall n h

end HeaderName

namespace Headers

/-- The names that a message lists as belonging to its connection, in all values of the list. -/
def options (h : Headers) : List HeaderName :=
  (h.getAll .connection).flatMap fun v => (HeaderValue.entries v).filterMap HeaderName.ofEntry?

/--
A name belongs to the connection of a message with these headers: it always does, or is listed.
-/
def Scopes (h : Headers) (n : HeaderName) : Prop :=
  n ∈ HeaderName.hopByHop ∨ n ∈ h.options

section GoingOn

variable (inbound sent : Headers)
variable (Own Written : HeaderName → Prop)

/--
What goes on in place of the headers of a message: the eight names are gone, and the rest is what
came in, apart from what the route has as headers of its own and what the gateway writes.
-/
structure GoesOnAs : Prop where
  dropped : ∀ n ∈ HeaderName.hopByHop, ¬ Own n → sent.contains n = false
  kept : ∀ n, n ∉ HeaderName.hopByHop → ¬ Own n → ¬ Written n →
    sent.getAll n = inbound.getAll n

/-- Nothing that belongs to the connection of a message goes on with it. -/
def Confines : Prop :=
  ∀ n, inbound.Scopes n → ¬ Own n → ¬ Written n → sent.contains n = false

/-- What a message lists beside the eight names has no value in it, or is written on the way. -/
def ListsAbsent : Prop :=
  ∀ n ∈ inbound.options, n ∉ HeaderName.hopByHop → ¬ Own n → ¬ Written n →
    inbound.contains n = false

variable {inbound sent Own Written}

/-- What is listed goes on like everything else, so it must not be there. -/
theorem GoesOnAs.confines_iff (h : GoesOnAs inbound sent Own Written) :
    Confines inbound sent Own Written ↔ ListsAbsent inbound Own Written := by
  constructor
  · intro hconfines n hlisted hhop hown hwritten
    rw [← contains_congr (h.kept n hhop hown hwritten)]
    exact hconfines n (.inr hlisted) hown hwritten
  · intro habsent n hscoped hown hwritten
    by_cases hhop : n ∈ HeaderName.hopByHop
    · exact h.dropped n hhop hown
    · rw [contains_congr (h.kept n hhop hown hwritten)]
      exact habsent n (hscoped.resolve_left hhop) hhop hown hwritten

end GoingOn

end Headers

namespace Exchange

open Headers (GoesOnAs)

variable (x : Exchange)

/--
The gateway writes a name into the request to a backend: the host, or where the request is from.
-/
def Records (n : HeaderName) : Prop :=
  n = .host ∨ (x.recorded? n).isSome = true

instance (n : HeaderName) : Decidable (x.Records n) :=
  inferInstanceAs (Decidable (_ ∨ _))

variable {x}

/-- The headers of a request go on to the backend without looking at what they list. -/
theorem Addresses.goesOnAs
    {q : Request}
    {found : ResolvedRoute}
    (h : x.Addresses q)
    (hfound : x.resolved = some found) :
    GoesOnAs x.request.headers q.headers found.route.Sets x.Records := by
  obtain ⟨headers, hheaders, hsent⟩ := exists_headers_of_addresses h hfound
  have hpassed : ∀ n, n ≠ .host → ¬ found.route.Sets n → q.headers.getAll n = x.passedOn n :=
    fun n hhost hsets => (hsent n hhost).trans (getAll_eq_passedOn_of_not_sets hheaders hsets)
  refine ⟨fun n hhop hsets => ?_, fun n hhop hsets hrecords => ?_⟩
  · obtain ⟨hhost, horigin⟩ := HeaderName.notMem_ofOrigin_of_mem_hopByHop hhop
    rw [Headers.contains_eq_false_iff, hpassed n hhost hsets, passedOn_of_notMem horigin,
      if_pos (.inl hhop)]
  · obtain ⟨hhost, hrecorded⟩ := not_or.1 hrecords
    rw [Option.not_isSome_iff_eq_none] at hrecorded
    rw [hpassed n hhost hsets, passedOn, hrecorded]
    exact if_neg (not_or.2 ⟨hhop, hhost⟩)

/-- The headers of an answer go on to the caller without looking at what they list. -/
theorem Decorates.goesOnAs
    {answer stripped response : Response}
    (h : x.Decorates stripped response)
    (hstrips : answer.StripsTo stripped)
    (hadvice : x.advice.Within HeaderName.advisory) :
    GoesOnAs answer.headers response.headers x.Echoes x.Advises := by
  refine ⟨fun n hhop hkey => ?_, fun n hhop hkey hadvises => ?_⟩
  · have hadvises : ¬ x.Advises n := fun ⟨f, hf, heq⟩ =>
      HeaderName.notMem_advisory_of_mem_hopByHop hhop (heq ▸ hadvice f hf)
    rw [Headers.contains_eq_false_iff, h.getAll_of_leaves ⟨hadvises, hkey⟩, hstrips.headers,
      if_pos hhop]
  · rw [h.getAll_of_leaves ⟨hadvises, hkey⟩, hstrips.headers, if_neg hhop]

end Exchange
end ApiGateway
