import ApiGateway.Proofs.Balancer.Lending
import Mathlib.Algebra.Order.Floor.Div
import Mathlib.Data.Int.CardIntervalMod
import Mathlib.Data.List.Rotate

/-!
# Taking turns

A load balancer that takes turns counts the leases that it gave, and lends the backend whose place
in the list is what this count leaves modulo the length of the list. The list may be another one for
each lease; where it stays the same for a while, the backends are lent in its order, from wherever
the count stands, and each of them has its share.

Main statement: `lends_in_turn`. The count has 64 bits, so it holds for as many leases as these can
tell apart.
-/

namespace ApiGateway

/-- The places in a list of some length whose turn it is, one after another from a start. -/
def turns (length start n : Nat) : List Nat :=
  (List.range n).map fun j => (start + j) % length

section Places

variable {length start n i : Nat}

@[simp] theorem length_turns (length start n : Nat) : (turns length start n).length = n := by
  simp [turns]

theorem getElem?_turns {j : Nat} (h : j < n) :
    (turns length start n)[j]? = some ((start + j) % length) := by
  simp [turns, h]

/-- Its turn comes to a place at the same residue again and again. -/
theorem turn_eq_iff_modEq
    (hi : i < length)
    (j : Nat) :
    (start + j) % length = i ↔ j ≡ i + (length - start % length) [MOD length] := by
  have hpos : 0 < length := Nat.lt_of_le_of_lt (Nat.zero_le i) hi
  have hround : start + (length - start % length) ≡ 0 [MOD length] := by
    have hmod := Nat.mod_lt start hpos
    have hdiv := Nat.div_add_mod start length
    have hsum : start + (length - start % length) = length * (start / length + 1) := by
      rw [Nat.mul_add, Nat.mul_one]
      omega
    rw [hsum]
    exact Nat.modEq_zero_iff_dvd.2 (Nat.dvd_mul_right _ _)
  have hshift : start + (i + (length - start % length)) ≡ i [MOD length] := by
    calc start + (i + (length - start % length))
        = (start + (length - start % length)) + i := by omega
      _ ≡ 0 + i [MOD length] := hround.add_right i
      _ = i := Nat.zero_add i
  constructor
  · intro hj
    have hj : start + j ≡ i [MOD length] := by
      rw [Nat.ModEq, hj, Nat.mod_eq_of_lt hi]
    exact Nat.ModEq.add_left_cancel' start (hj.trans hshift.symm)
  · intro hj
    have hsame : start + j ≡ i [MOD length] := (hj.add_left start).trans hshift
    rw [Nat.ModEq, Nat.mod_eq_of_lt hi] at hsame
    exact hsame

/-- How often it is the turn of a place: once in each full round, and perhaps in the last one. -/
theorem count_turns (hi : i < length) :
    (turns length start n).count i = n / length +
      if (i + (length - start % length)) % length < n % length then 1 else 0 := by
  have hpos : 0 < length := Nat.lt_of_le_of_lt (Nat.zero_le i) hi
  rw [← Nat.count_modEq_card n hpos]
  induction n with
  | zero => simp [turns]
  | succ n ih =>
      have hlast : turns length start (n + 1) = turns length start n ++ [(start + n) % length] := by
        simp [turns, List.range_succ]
      rw [hlast, List.count_append, ih, Nat.count_succ, List.count_singleton]
      simp only [beq_iff_eq, turn_eq_iff_modEq hi]

/-- No place has more turns than another, but for one in a round that is not full. -/
theorem count_turns_fair (hi : i < length) :
    (turns length start n).count i = n / length ∨
      (turns length start n).count i = n ⌈/⌉ length := by
  have hpos : 0 < length := Nat.lt_of_le_of_lt (Nat.zero_le i) hi
  rw [count_turns hi]
  split
  · rename_i hlt
    right
    have hlast : 0 < n % length := Nat.lt_of_le_of_lt (Nat.zero_le _) hlt
    have hmod := Nat.mod_lt n hpos
    have hdiv := Nat.div_add_mod n length
    rw [Nat.ceilDiv_eq_add_pred_div]
    refine (Nat.div_eq_of_lt_le ?_ ?_).symm
    · rw [Nat.add_mul, Nat.mul_comm (n / length)]
      omega
    · rw [Nat.add_mul, Nat.add_mul, Nat.mul_comm (n / length)]
      omega
  · exact Or.inl rfl

end Places

/-- Backends are lent in their turn, from a start that is counted on. -/
structure LentInTurn (services : List Service) (start : Nat) (picks : List Service) : Prop where
  /-- Each of them stands in the list at the place whose turn it is. -/
  places : picks.map some =
    (turns services.length start picks.length).map fun i => services[i]?
  /-- In as many leases as there are backends, each is lent once, in the order of the list. -/
  round : picks.length = services.length → picks = services.rotate start
  /-- In any number of leases, all places have the same share, but for one lease. -/
  fair : ∀ i, i < services.length →
    (turns services.length start picks.length).count i = picks.length / services.length ∨
    (turns services.length start picks.length).count i = picks.length ⌈/⌉ services.length
  shares : services.Nodup → ∀ s, s ∈ services →
    picks.count s = picks.length / services.length ∨
    picks.count s = picks.length ⌈/⌉ services.length

namespace LentInTurn

variable {services picks : List Service}
variable {start : Nat}

/-- What stands at one place of a list without repetitions is lent when it is its turn. -/
theorem count_eq_count_turns
    (hplaces : picks.map some =
      (turns services.length start picks.length).map fun i => services[i]?)
    (hdistinct : services.Nodup)
    {i : Nat}
    (hi : i < services.length) :
    picks.count services[i] = (turns services.length start picks.length).count i := by
  have hlifted : picks.count services[i] = (picks.map some).count (some services[i]) := by
    rw [List.count_map_of_injective _ _ (Option.some_injective _)]
  rw [hlifted, hplaces, List.count, List.countP_map, List.count]
  refine List.countP_congr fun j hj => ?_
  obtain ⟨k, _, rfl⟩ := List.mem_map.1 hj
  have hpos : 0 < services.length := Nat.lt_of_le_of_lt (Nat.zero_le i) hi
  have hplace := Nat.mod_lt (start + k) hpos
  simp [List.getElem?_eq_getElem hplace, hdistinct.getElem_inj_iff]

/-- All the rest follows from the places. -/
theorem of_places
    (hplaces : picks.map some =
      (turns services.length start picks.length).map fun i => services[i]?) :
    LentInTurn services start picks := by
  refine ⟨hplaces, fun hlength => ?_, fun i hi => count_turns_fair hi, fun hdistinct s hs => ?_⟩
  · have hsome : picks.map some = (services.rotate start).map some := by
      rw [hplaces, hlength]
      refine List.ext_getElem (by simp) fun j hj _ => ?_
      have hj : j < services.length := by simpa using hj
      have hplace := Nat.mod_lt (start + j) (Nat.lt_of_le_of_lt (Nat.zero_le j) hj)
      simp [turns, List.getElem_rotate, Nat.add_comm j start, List.getElem?_eq_getElem hplace]
    exact List.map_injective_iff.2 (Option.some_injective _) hsome
  · obtain ⟨i, hi, rfl⟩ := List.getElem_of_mem hs
    rw [count_eq_count_turns hplaces hdistinct hi]
    exact count_turns_fair hi

end LentInTurn

namespace Balancer
namespace Rule

/-- The choice in turn is of the place that the count leaves, which is in the list. -/
theorem pick_inTurn
    {cursor : Nat}
    {services : List Service}
    {s : Service}
    {r : Rule}
    (h : (Rule.inTurn cursor).pick services = .ok (s, r)) :
    services[cursor % services.length]? = some s ∧
      r = .inTurn ((cursor + 1) % cursorBound) := by
  cases services with
  | nil => cases h
  | cons t ts =>
      cases h
      have hplace : cursor % (t :: ts).length < (t :: ts).length :=
        Nat.mod_lt cursor (Nat.succ_pos ts.length)
      rw [List.getElem?_eq_getElem hplace]
      exact ⟨rfl, rfl⟩

end Rule
end Balancer

namespace Lending

/-- The load balancer takes turns, and its count stands where so many leases have brought it. -/
def StandsAt (s : Lending) (count : Nat) : Prop :=
  s.balancer.rule = .inTurn (count % Balancer.Rule.cursorBound)

namespace StandsAt

variable {s : Lending}
variable {count : Nat}

/-- What is given back does not count. -/
theorem giveBack (h : s.StandsAt count) (k : Nat) : (s.giveBack k).StandsAt count := by
  rcases s.giveBack_cases k with hsame | ⟨service, _, hgiven⟩
  · rw [hsame]
    exact h
  · rw [hgiven]
    show s.balancer.rule.release service.endpoint = _
    rw [h]
    rfl

/-- An event leads to no lease and leaves the count, or to one whose turn it is. -/
theorem meet (h : s.StandsAt count) (e : Event) :
    (s.lent e = [] ∧ (s.meet e).StandsAt count) ∨
    ∃ services service,
      s.lent e = [(services, service)] ∧
      services[count % Balancer.Rule.cursorBound % services.length]? = some service ∧
      (s.meet e).StandsAt (count + 1) := by
  cases e with
  | release k => exact Or.inl ⟨rfl, (h.giveBack k).giveBack k⟩
  | drop k => exact Or.inl ⟨rfl, h.giveBack k⟩
  | lease read =>
      cases s.leased read with
      | failed hfound _ hlease =>
          refine Or.inl ⟨by simp [lent, hfound], ?_⟩
          rw [Lending.meet, hlease]
          exact h
      | refused hfound hanswer hlease =>
          refine Or.inl ⟨by simp [lent, hfound, hanswer], ?_⟩
          rw [Lending.meet, hlease]
          exact h
      | @lent services service rule hfound _ hpick hanswer hlease =>
          rw [h] at hpick
          obtain ⟨hplace, hrule⟩ := Balancer.Rule.pick_inTurn hpick
          refine Or.inr ⟨services, service, by simp [lent, hfound, hanswer], hplace, ?_⟩
          rw [Lending.meet, hlease, StandsAt, hrule, Nat.mod_add_mod]

/-- In a whole run, every lease is that whose turn it is by the count, which has 64 bits. -/
theorem after (h : s.StandsAt count) (events : List Event) :
    (s.after events).StandsAt (count + (s.leases events).length) ∧
    ∀ n services service, (s.leases events)[n]? = some (services, service) →
      services[(count + n) % Balancer.Rule.cursorBound % services.length]? = some service := by
  induction events generalizing s count with
  | nil => exact ⟨h, nofun⟩
  | cons e es ih =>
      rcases h.meet e with ⟨hnone, hnext⟩ | ⟨services, service, hone, hplace, hnext⟩
      · rw [leases, hnone, List.nil_append]
        exact ih hnext
      · obtain ⟨hstands, hplaces⟩ := ih hnext
        rw [leases, hone, List.singleton_append]
        refine ⟨?_, fun n services' service' hn => ?_⟩
        · rw [List.length_cons, Nat.add_comm _ 1, ← Nat.add_assoc]
          exact hstands
        · cases n with
          | zero =>
              cases hn
              exact hplace
          | succ n =>
              rw [Nat.add_comm n 1, ← Nat.add_assoc]
              exact hplaces n services' service' hn

end StandsAt

section Windows

variable {count : Nat}
variable {ls : List (List Service × Service)}

/-- Leases that follow one another and have read the same list are lent in turn. -/
theorem lentInTurn_of_window
    (hplaces : ∀ n services service, ls[n]? = some (services, service) →
      services[(count + n) % services.length]? = some service)
    {front window rest : List (List Service × Service)}
    {services : List Service}
    (hsplit : ls = front ++ window ++ rest)
    (hsame : ∀ l, l ∈ window → l.1 = services) :
    LentInTurn services (count + front.length) (window.map (·.2)) := by
  refine .of_places (List.ext_getElem? fun j => ?_)
  cases hj : window[j]? with
  | none =>
      have hlength : window.length ≤ j := List.getElem?_eq_none_iff.1 hj
      rw [List.getElem?_eq_none (by simpa using hlength),
        List.getElem?_eq_none (by simpa using hlength)]
  | some l =>
      obtain ⟨hlt, hget⟩ := List.getElem?_eq_some_iff.1 hj
      have hl : l.1 = services := hsame l (hget ▸ List.getElem_mem hlt)
      have hfull : ls[front.length + j]? = some (services, l.2) := by
        rw [hsplit, List.append_assoc, List.getElem?_append_right (Nat.le_add_right _ _),
          Nat.add_sub_cancel_left, List.getElem?_append_left hlt, hj, ← hl]
      have hplace := hplaces _ _ _ hfull
      rw [← Nat.add_assoc] at hplace
      have hturn : (turns services.length (count + front.length) (window.map (·.2)).length)[j]? =
          some ((count + front.length + j) % services.length) :=
        getElem?_turns (by simpa using hlt)
      rw [List.getElem?_map, List.getElem?_map, List.getElem?_map, hturn, hj]
      simp [hplace]

end Windows

/--
Take any run of leases, returns and drops on a load balancer that takes turns, from any count (a new
one counts from zero), with fewer leases than the count can tell apart; whatever lists are read for
them, the lease with number `n` is of the backend at place `count + n` modulo the length of the list
that was read, and there is one. A lease is refused just where there is no list or an empty one, and
the count, which is that of the leases, stays then. Leases that follow one another and have read the
same list are lent in turn.
-/
theorem lends_in_turn
    (source : ServiceSource)
    (count : Nat)
    (events : List Event)
    (hbound : count + (leases ⟨⟨source, .inTurn count⟩, []⟩ events).length <
      Balancer.Rule.cursorBound) :
    let new : Lending := ⟨⟨source, .inTurn count⟩, []⟩
    let s := new.after events
    (∀ n services service, (new.leases events)[n]? = some (services, service) →
      services[(count + n) % services.length]? = some service) ∧
    s.balancer.rule = .inTurn (count + (new.leases events).length) ∧
    (∀ read, (∃ e, s.answer read = .error e) ↔
      (∃ e, s.found read = .error e) ∨ s.found read = .ok []) ∧
    (∀ read e, s.answer read = .error e → (s.lease read).balancer.rule = s.balancer.rule) ∧
    ∀ front window rest services,
      new.leases events = front ++ window ++ rest →
      (∀ l, l ∈ window → l.1 = services) →
      LentInTurn services (count + front.length) (window.map (·.2)) := by
  intro new s
  have hbound : count + (new.leases events).length < Balancer.Rule.cursorBound := hbound
  have hstands : new.StandsAt count := by
    show Balancer.Rule.inTurn count = _
    rw [Nat.mod_eq_of_lt (by omega)]
  obtain ⟨hlast, hmodulo⟩ := hstands.after events
  have hplaces : ∀ n services service, (new.leases events)[n]? = some (services, service) →
      services[(count + n) % services.length]? = some service := by
    intro n services service hn
    have hlt : n < (new.leases events).length := (List.getElem?_eq_some_iff.1 hn).1
    have hsmall : count + n < Balancer.Rule.cursorBound := by omega
    have hplace := hmodulo n services service hn
    rw [Nat.mod_eq_of_lt hsmall] at hplace
    exact hplace
  refine ⟨hplaces, ?_, s.answer_eq_error_iff, fun read e hrefused => ?_, ?_⟩
  · rw [hlast, Nat.mod_eq_of_lt hbound]
  · rw [lease_of_answer_eq_error hrefused]
    rfl
  · intro front window rest services hsplit hsame
    exact lentInTurn_of_window hplaces hsplit hsame

section Wrapping

/-- A backend for each name. -/
def named (name : String) : Service := ⟨name, name, 80, .empty⟩

/-- A source that answers with a backend for each name, whatever it answered before. -/
def naming (names : List String) : Reading := fun source => (source, .ok (names.map named))

/-- A source that does not answer. -/
def failing : Reading := fun source => (source, .error (.discovery "unreachable"))

/--
A list of three backends becomes one of two, is empty and fails; then five leases read one list.
-/
def changing : List Event :=
  [.lease (naming ["a", "b", "c"]), .lease (naming ["a", "b"]), .lease (naming []), .lease failing]
    ++ List.replicate 5 (.lease (naming ["a", "b", "c"]))

/-- The five leases begin with the third backend, and the first two of the list are lent twice. -/
theorem lends_in_turn_changing :
    let s := Lending.new (.listed []) .roundRobin
    (s.after changing).balancer.rule = .inTurn 7 ∧
    LentInTurn (["a", "b", "c"].map named) 2 (["c", "a", "b", "c", "a"].map named) := by
  intro s
  have hleases : s.leases changing =
      [(["a", "b", "c"].map named, named "a"), (["a", "b"].map named, named "b")]
        ++ (["c", "a", "b", "c", "a"].map fun name => (["a", "b", "c"].map named, named name))
        ++ [] := by
    decide +kernel
  have hbound : 0 + (s.leases changing).length < Balancer.Rule.cursorBound := by
    rw [hleases]
    decide
  obtain ⟨_, hcount, _, _, hwindow⟩ := lends_in_turn (.listed []) 0 changing hbound
  have hinTurn := hwindow _ _ _ (["a", "b", "c"].map named) hleases (by simp)
  refine ⟨hcount.trans ?_, hinTurn⟩
  rw [show leases ⟨⟨.listed [], .inTurn 0⟩, []⟩ changing = s.leases changing from rfl, hleases]
  rfl

end Wrapping

end Lending
end ApiGateway
