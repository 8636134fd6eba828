import ApiGateway.Http.Token
import ApiGateway.Text.Ascii
import ApiGateway.Text.Bytes

/-!
# Header fields

A header map holds any number of values under each name. Names compare without case, so they are
kept in lower case; the values under one name keep their order. The order of different names
carries no meaning.
-/

namespace ApiGateway

/-- A header name in lower case. -/
structure HeaderName where
  text : String
deriving DecidableEq

namespace HeaderName

/-- The longest header name in bytes. -/
def maxLength : Nat := 65535

/-- The name that a text denotes: token characters only, at least one and not too many. -/
def ofText? (s : String) : Option HeaderName :=
  if s.toList.isEmpty || ! s.toList.all isTokenChar || maxLength < s.utf8ByteSize then none
  else some ⟨Text.asciiLower s⟩

/-- The complaint about a text that is no header name. -/
def complaint : String := "invalid HTTP header name"

def allow : HeaderName := ⟨"allow"⟩
def contentType : HeaderName := ⟨"content-type"⟩
def host : HeaderName := ⟨"host"⟩
def retryAfter : HeaderName := ⟨"retry-after"⟩
def forwardedFor : HeaderName := ⟨"x-forwarded-for"⟩
def forwardedProto : HeaderName := ⟨"x-forwarded-proto"⟩
def forwardedHost : HeaderName := ⟨"x-forwarded-host"⟩
def realIp : HeaderName := ⟨"x-real-ip"⟩

end HeaderName

abbrev HeaderValue := Bytes

namespace HeaderValue

/-- A byte that a header value may hold: a tab, or anything from the blank on except delete. -/
def allows (b : UInt8) : Bool :=
  (0x20 ≤ b && b != 0x7F) || b == 0x09

def ofBytes? (b : Bytes) : Option HeaderValue :=
  if b.all allows then some b else none

def ofText? (s : String) : Option HeaderValue :=
  ofBytes? (Bytes.ofText s)

/-- The complaint about a text that is no header value. -/
def complaint : String := "failed to parse header value"

/-- A byte of readable text: a tab or printable ASCII. -/
def isReadable (b : UInt8) : Bool :=
  (0x20 ≤ b && b < 0x7F) || b == 0x09

/-- The value as text, if all of it is readable. -/
def text? (v : HeaderValue) : Option String :=
  if v.all isReadable then some (String.ofList (v.map fun b => Char.ofNat b.toNat)) else none

end HeaderValue

/-- A header map: the fields in the order in which they were added. -/
structure Headers where
  fields : List (HeaderName × HeaderValue) := []
deriving DecidableEq

namespace Headers

/-- All values under a name, in their order. -/
def getAll (h : Headers) (n : HeaderName) : List HeaderValue :=
  (h.fields.filter (·.1 = n)).map (·.2)

def get? (h : Headers) (n : HeaderName) : Option HeaderValue :=
  (h.getAll n).head?

def contains (h : Headers) (n : HeaderName) : Bool :=
  h.fields.any (·.1 = n)

/-- Adds a value after those already under the name. -/
def append (h : Headers) (n : HeaderName) (v : HeaderValue) : Headers :=
  ⟨h.fields ++ [(n, v)]⟩

/-- Removes all values under a name. -/
def erase (h : Headers) (n : HeaderName) : Headers :=
  ⟨h.fields.filter (·.1 ≠ n)⟩

/-- Makes a value the only one under the name. -/
def set (h : Headers) (n : HeaderName) (v : HeaderValue) : Headers :=
  (h.erase n).append n v

/-- Makes a text the only value under the name; a text that is no header value is left out. -/
def setText (h : Headers) (n : HeaderName) (s : String) : Headers :=
  match HeaderValue.ofText? s with
  | some v => h.set n v
  | none => h

/-- The first value under a name as text. -/
def text? (h : Headers) (n : HeaderName) : Option String :=
  (h.get? n).bind HeaderValue.text?

theorem getAll_append (h : Headers) (n m : HeaderName) (v : HeaderValue) :
    (h.append n v).getAll m = h.getAll m ++ if n = m then [v] else [] := by
  by_cases hnm : n = m <;> simp [append, getAll, hnm]

theorem getAll_erase (h : Headers) (n m : HeaderName) :
    (h.erase n).getAll m = if n = m then [] else h.getAll m := by
  by_cases hnm : n = m
  · subst hnm
    simp [erase, getAll, List.filter_filter]
  · simp only [erase, getAll, List.filter_filter, hnm, if_false]
    congr 1
    apply List.filter_congr
    intro f _
    by_cases hf : f.1 = m
    · simp [hf, Ne.symm hnm]
    · simp [hf]

theorem getAll_set (h : Headers) (n m : HeaderName) (v : HeaderValue) :
    (h.set n v).getAll m = if n = m then [v] else h.getAll m := by
  rw [set, getAll_append, getAll_erase]
  by_cases hnm : n = m <;> simp [hnm]

theorem contains_eq_isSome (h : Headers) (n : HeaderName) :
    h.contains n = (h.get? n).isSome := by
  simp only [contains, get?, getAll, List.head?_map, Option.isSome_map]
  induction h.fields with
  | nil => rfl
  | cons f fs ih =>
      by_cases hf : f.1 = n
      · simp [hf]
      · simpa [hf] using ih

end Headers
end ApiGateway
