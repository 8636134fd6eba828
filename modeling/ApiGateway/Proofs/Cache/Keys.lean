import ApiGateway.Cache.Policy
import ApiGateway.Proofs.Text.Bytes
import ApiGateway.Proofs.Text.Pieces

/-!
# What the key of a call tells

Calls on one route that have one key are calls with one method of one target, unless the digests of
two different messages are the same.
-/

namespace ApiGateway

namespace Sha256

@[simp] theorem length_digest (message : Bytes) : (digest message).length = 32 := by
  simp [digest, State.words, wordBytes]

/-- Two messages that differ have one digest. -/
def Collide (m m' : Bytes) : Prop :=
  m ≠ m' ∧ hexDigest m = hexDigest m'

end Sha256

namespace Cache

/-- The methods of the calls that are kept have no line end. -/
theorem notMem_ofText_of_isCacheable
    {m : Method}
    (h : isCacheable m = true) :
    0x0A ∉ Bytes.ofText m.text := by
  unfold isCacheable at h
  rw [Bool.or_eq_true, decide_eq_true_eq, decide_eq_true_eq] at h
  rcases h with rfl | rfl <;> decide +kernel

section

variable {m m' : Method}
variable {routeKey target target' : String}

/-- The parts of a key on one route are told by the line ends. -/
theorem keyBytes_none_inj
    (hm : isCacheable m = true)
    (hm' : isCacheable m' = true)
    (h : keyBytes m routeKey target none = keyBytes m' routeKey target' none) :
    m = m' ∧ target = target' := by
  obtain ⟨hmethod, hrest⟩ := Text.append_mark_inj
    (notMem_ofText_of_isCacheable hm) (notMem_ofText_of_isCacheable hm') h
  obtain ⟨_, htarget⟩ := List.cons.inj (List.append_cancel_left hrest)
  refine ⟨?_, Bytes.ofText_injective htarget⟩
  have htext := Bytes.ofText_injective hmethod
  cases m
  cases m'
  exact congrArg Method.mk htext

/-- A key with a body is that without one and the digest of the body. -/
theorem keyBytes_inj
    {body body' : Option Bytes}
    (hm : isCacheable m = true)
    (hm' : isCacheable m' = true)
    (hbody : body.isSome = body'.isSome)
    (h : keyBytes m routeKey target body = keyBytes m' routeKey target' body') :
    m = m' ∧ target = target' := by
  cases body with
  | none =>
      cases body' with
      | none => exact keyBytes_none_inj hm hm' h
      | some b' => cases hbody
  | some b =>
      cases body' with
      | none => cases hbody
      | some b' =>
          have hfront : keyBytes m routeKey target none = keyBytes m' routeKey target' none :=
            List.append_inj_left' h (by simp)
          exact keyBytes_none_inj hm hm' hfront

/-- One key on one route is one method and one target, unless two digests collide. -/
theorem collide_or_eq_of_key_eq
    {body body' : Option Bytes}
    (hm : isCacheable m = true)
    (hm' : isCacheable m' = true)
    (hbody : body.isSome = body'.isSome)
    (h : key m routeKey target body = key m' routeKey target' body') :
    Sha256.Collide (keyBytes m routeKey target body) (keyBytes m' routeKey target' body') ∨
      m = m' ∧ target = target' := by
  by_cases hbytes : keyBytes m routeKey target body = keyBytes m' routeKey target' body'
  · exact .inr (keyBytes_inj hm hm' hbody hbytes)
  · exact .inl ⟨hbytes, h⟩

end

end Cache
end ApiGateway
