/-!
# Dictionaries

Texts under distinct keys. Writing under a key that is there replaces the text; the order of the
keys carries no meaning, and a listing in the order of the keys is what other parts build on.
-/

namespace ApiGateway

/-- Texts under distinct keys. -/
structure Dictionary where
  pairs : List (String × String)
  distinct : (pairs.map (·.1)).Nodup
deriving DecidableEq

namespace Dictionary

def empty : Dictionary := ⟨[], List.Pairwise.nil⟩

/-- The pairs with a text set under a key, in place if the key is there. -/
def put (k v : String) : List (String × String) → List (String × String)
  | [] => [(k, v)]
  | p :: ps => if p.1 = k then (k, v) :: ps else p :: put k v ps

theorem mem_keys_put {k v j : String} {ps : List (String × String)} :
    j ∈ (put k v ps).map (·.1) ↔ j = k ∨ j ∈ ps.map (·.1) := by
  induction ps with
  | nil => simp [put]
  | cons p ps ih =>
      by_cases hp : p.1 = k
      · simp [put, hp]
      · simp only [put, hp, if_false, List.map_cons, List.mem_cons, ih]
        exact or_left_comm

theorem nodup_keys_put {k v : String} {ps : List (String × String)}
    (h : (ps.map (·.1)).Nodup) : ((put k v ps).map (·.1)).Nodup := by
  induction ps with
  | nil => simp [put]
  | cons p ps ih =>
      simp only [List.map_cons, List.nodup_cons] at h
      by_cases hp : p.1 = k
      · subst hp
        simpa [put] using h
      · rw [put, if_neg hp, List.map_cons, List.nodup_cons, mem_keys_put, not_or]
        exact ⟨⟨hp, h.1⟩, ih h.2⟩

def insert (d : Dictionary) (k v : String) : Dictionary :=
  ⟨put k v d.pairs, nodup_keys_put d.distinct⟩

/-- The dictionary of a list of pairs, where a later pair replaces an earlier one. -/
def ofPairs (ps : List (String × String)) : Dictionary :=
  ps.foldl (fun d p => d.insert p.1 p.2) empty

/-- The pairs in the order of their keys. -/
def sorted (d : Dictionary) : List (String × String) :=
  d.pairs.mergeSort fun p q => decide (p.1 ≤ q.1)

def isEmpty (d : Dictionary) : Bool := d.pairs.isEmpty

end Dictionary
end ApiGateway
