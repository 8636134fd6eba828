import ApiGateway.Cache.Policy
import ApiGateway.Error
import Std.Data.ExtTreeMap

/-!
# The output cache

Answers of backends under their keys, each with the region it belongs to and the instant at which
it expires. An expired entry is never given out, but takes room until it is dropped: by a sweep,
or when room is needed. When all room is taken by entries that have not expired, nothing new is
stored.
-/

namespace ApiGateway
namespace Cache

/-- A stored answer. -/
structure Entry where
  response : Response
  region : String
  expiresAt : Instant

def Entry.isExpired (e : Entry) (now : Instant) : Bool := e.expiresAt ≤ now

/-- The stored answers and how many there may be. -/
structure Store where
  capacity : Nat := 50000
  entries : Std.ExtTreeMap String Entry compare := ∅

def sweepInterval : Duration := Duration.ofSecs 30

namespace Store

/-- The number of entries, expired or not. -/
def size (s : Store) : Nat := s.entries.size

/-- The answer under a key, if it belongs to the region and has not expired. -/
def get? (s : Store) (key region : String) (now : Instant) : Option Response :=
  match s.entries[key]? with
  | some e => if e.region ≠ region || e.isExpired now then none else some e.response
  | none => none

/-- The entries that have not expired. -/
def evictExpired (s : Store) (now : Instant) : Store :=
  { s with entries := s.entries.filter fun _ e => ! e.isExpired now }

/-- Puts an answer under a key, replacing what is there. -/
def put (s : Store) (key : String) (r : Response) (ttl : Duration) (region : String)
    (now : Instant) : Store :=
  { s with entries := s.entries.insert key ⟨r, region, now + ttl⟩ }

/-- The refusal of a full cache. -/
def full (s : Store) : GatewayError :=
  .cacheUnavailable s!"cache full ({s.capacity} entries)"

/-- Stores an answer. Expired entries are dropped when there is no room for a new key. -/
def add (s : Store) (key : String) (r : Response) (ttl : Duration) (region : String)
    (now : Instant) : Store × Except GatewayError Unit :=
  if s.size < s.capacity || s.entries.contains key then (s.put key r ttl region now, .ok ())
  else
    let s := s.evictExpired now
    if s.size < s.capacity then (s.put key r ttl region now, .ok ())
    else (s, .error s.full)

/-- Drops all entries of a region, and tells how many. -/
def clearRegion (s : Store) (region : String) : Store × Nat :=
  let kept := s.entries.filter fun _ e => e.region ≠ region
  ({ s with entries := kept }, s.size - kept.size)

end Store
end Cache
end ApiGateway
