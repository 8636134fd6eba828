import ApiGateway.Config.Printer
import ApiGateway.Config.Reader
import ApiGateway.Proofs.Json.Reading

/-!
# Written configurations are read back

Every record of a configuration is written with all its fields, and read back as it was: a field
that holds its default is not told from one that was left out, `null` stands for an option that is
not set and for nothing else, and numbers keep their width.

Main statements: `Config.Gateway.recovers`, `Config.Gateway.isPlain_toData`.
-/

namespace ApiGateway

namespace Dictionary

/-- A text under a new key is put behind all others. -/
theorem put_of_notMem
    {k v : String}
    {ps : List (String × String)}
    (h : k ∉ ps.map (·.1)) :
    put k v ps = ps ++ [(k, v)] := by
  induction ps with
  | nil => rfl
  | cons p ps ih =>
      rw [List.map_cons, List.mem_cons, not_or] at h
      rw [put, if_neg (Ne.symm h.1), ih h.2, List.cons_append]

/-- Pairs under new keys are put behind all others in their order. -/
theorem pairs_foldl_insert
    {d : Dictionary}
    {ps : List (String × String)}
    (h : ((d.pairs ++ ps).map (·.1)).Nodup) :
    (ps.foldl (fun d p => d.insert p.1 p.2) d).pairs = d.pairs ++ ps := by
  induction ps generalizing d with
  | nil => rw [List.foldl_nil, List.append_nil]
  | cons p ps ih =>
      have hkey : p.1 ∉ d.pairs.map (·.1) := by
        rw [List.map_append, List.map_cons] at h
        exact fun hmem => (List.nodup_append.1 h).2.2 _ hmem _ List.mem_cons_self rfl
      have hinsert : (d.insert p.1 p.2).pairs = d.pairs ++ [p] := put_of_notMem hkey
      rw [List.foldl_cons, ih (by rwa [hinsert, List.append_assoc]), hinsert, List.append_assoc]
      rfl

/-- A dictionary is made of its pairs. -/
theorem ofPairs_pairs (d : Dictionary) : ofPairs d.pairs = d := by
  have hpairs : (ofPairs d.pairs).pairs = d.pairs := pairs_foldl_insert d.distinct
  generalize ofPairs d.pairs = d' at hpairs
  cases d
  cases d'
  cases hpairs
  rfl

end Dictionary

namespace Data

section Plain

@[simp] theorem isPlain_bool (b : Bool) : (bool b).IsPlain := .bool b

@[simp] theorem isPlain_nat (n : Nat) : (nat n).IsPlain := .int n

@[simp] theorem isPlain_text (s : String) : (text s).IsPlain := .text s

@[simp] theorem isPlain_textOrNull (o : Option String) : (textOrNull o).IsPlain := by
  cases o with
  | none => exact .null
  | some s => exact .text s

theorem isPlain_list_map
    {α : Type}
    {write : α → Data}
    (h : ∀ a, (write a).IsPlain)
    (as : List α) :
    (list (as.map write)).IsPlain := by
  refine .list fun d hd => ?_
  obtain ⟨a, _, rfl⟩ := List.mem_map.1 hd
  exact h a

@[simp] theorem isPlain_texts (ss : List String) : (texts ss).IsPlain :=
  isPlain_list_map isPlain_text ss

/-- A table is plain if its values are. -/
@[simp] theorem isPlain_table (fs : List (String × Data)) :
    (table fs).IsPlain ↔ ∀ f ∈ fs, f.2.IsPlain :=
  ⟨fun | .table h => h, .table⟩

end Plain

section Values

/-- What is written is never `null`, and is read back. -/
structure Recovers {α : Type} (write : α → Data) (read : Data → Option α) : Prop where
  read_write : ∀ a, read (write a) = some a
  ne_null : ∀ a, write a ≠ .null

theorem recovers_text : Recovers .text text? where
  read_write _ := rfl
  ne_null _ := nofun

theorem recovers_bool : Recovers .bool bool? where
  read_write _ := rfl
  ne_null _ := nofun

/-- A number that is in range is read back. -/
theorem nat?_nat
    {n bound : Nat}
    (h : n ≤ bound) :
    nat? bound (nat n) = some n := by
  rw [nat, nat?, if_pos ⟨Int.natCast_nonneg n, h⟩, Int.toNat_natCast]

theorem recovers_uint16 : Recovers (fun n => nat n.toNat) uint16? where
  read_write n := by
    rw [uint16?, nat?_nat (Nat.le_of_lt_succ n.toNat_lt), Option.map_some, UInt16.ofNat_toNat]
  ne_null _ := nofun

theorem recovers_uint32 : Recovers (fun n => nat n.toNat) uint32? where
  read_write n := by
    rw [uint32?, nat?_nat (Nat.le_of_lt_succ n.toNat_lt), Option.map_some, UInt32.ofNat_toNat]
  ne_null _ := nofun

theorem recovers_uint64 : Recovers (fun n => nat n.toNat) uint64? where
  read_write n := by
    have hn : n.toNat ≤ Text.max64 := Nat.le_of_lt_succ n.toNat_lt
    rw [uint64?, nat?_nat hn, Option.map_some, UInt64.ofNat_toNat]
  ne_null _ := nofun

/-- A list is read back if its items are. -/
theorem Recovers.list
    {α : Type}
    {write : α → Data}
    {read : Data → Option α}
    (h : Recovers write read) :
    Recovers (fun as => .list (as.map write)) (list? read) where
  read_write _ := mapM_map_eq_some fun a _ => h.read_write a
  ne_null _ := nofun

end Values

section Fields

/-- A record that is written as a table of just its fields is read from these fields. -/
theorem bind_record?_table
    {β : Type}
    {fields : List (String × Data)}
    {names : List String}
    {surplus : Surplus}
    {build : Record → Option β}
    (hnames : fields.map (·.1) = names)
    (hdistinct : names.Nodup) :
    (table fields).record? names surplus >>= build = build fields := by
  have hknown : fields.filter (fun f => names.contains f.1) = fields := by
    refine List.filter_eq_self.2 fun f hf => List.contains_iff_mem.2 ?_
    rw [← hnames]
    exact List.mem_map_of_mem hf
  have hrecord : (table fields).record? names surplus = some fields := by
    unfold record?
    simp only [hknown, hnames, if_pos hdistinct]
  rw [hrecord, Option.bind_eq_bind, Option.bind_some]

namespace Recovers

variable {α : Type}
variable {write : α → Data}
variable {read : Data → Option α}
variable (hrec : Recovers write read)
variable {r : Record}
variable {name : String}
variable {a : α}
include hrec

theorem required (h : r.lookup name = some (write a)) : r.required name read = some a := by
  rw [Record.required, h, Option.bind_some, hrec.read_write]

theorem orDefault
    {b : α}
    (h : r.lookup name = some (write a)) :
    r.orDefault name b read = some a := by
  rw [Record.orDefault, h]
  exact hrec.read_write a

/-- A value that is not `null` is the collection, even if it is empty. -/
theorem collection
    {b : α}
    (h : r.lookup name = some (write a)) :
    r.collection name b read = some a := by
  rw [Record.collection, h]
  have hread := hrec.read_write a
  have hne := hrec.ne_null a
  generalize write a = d at hread hne
  cases d with
  | null => exact absurd rfl hne
  | _ => exact hread

/-- `null` is written for no value, so it is read as none just where it was written for none. -/
theorem optional
    {o : Option α}
    (h : r.lookup name = some (Config.orNull write o)) :
    r.optional name read = some o := by
  rw [Record.optional, h]
  cases o with
  | none => rfl
  | some a =>
      rw [Config.orNull]
      have hread := hrec.read_write a
      have hne := hrec.ne_null a
      generalize write a = d at hread hne
      cases d with
      | null => exact absurd rfl hne
      | _ => exact congrArg (Option.map some) hread

end Recovers

theorem textOrNull_eq_orNull (o : Option String) : textOrNull o = Config.orNull .text o := by
  cases o <;> rfl

/-- A text that may be missing is read back. -/
theorem optional_textOrNull
    {r : Record}
    {name : String}
    {o : Option String}
    (h : r.lookup name = some (textOrNull o)) :
    r.optional name text? = some o :=
  recovers_text.optional (h.trans (congrArg some (textOrNull_eq_orNull o)))

end Fields
end Data

namespace Config

open Data

/-- A dictionary is read back with its order. -/
theorem recovers_dictionary : Recovers dictionaryData dictionary? where
  read_write d := by
    have hpairs : (dictionaryData d).textPairs? = some d.pairs := mapM_map_eq_some fun _ _ => rfl
    rw [dictionary?, hpairs, Option.map_some, Dictionary.ofPairs_pairs]
  ne_null _ := nofun

@[simp] theorem isPlain_dictionaryData (d : Dictionary) : (dictionaryData d).IsPlain := by
  refine .table fun f hf => ?_
  obtain ⟨p, _, rfl⟩ := List.mem_map.1 hf
  exact .text p.2

theorem isPlain_orNull
    {α : Type}
    {write : α → Data}
    (h : ∀ a, (write a).IsPlain)
    (o : Option α) :
    (orNull write o).IsPlain := by
  cases o with
  | none => exact .null
  | some a => exact h a

/-!
One field after another is found under its name and read. Where the record of defaults has a name of
its own, this is in the way of the fields and has to go first.
-/

section Records

variable (surplus : Surplus)

theorem ServiceDiscovery.recovers : Recovers toData (ofData? · surplus) := by
  refine ⟨fun c => ?_, fun _ => nofun⟩
  rw [ofData?, toData, bind_record?_table (by rfl) (by decide)]
  dsimp only
  rw [recovers_text.orDefault (by rfl), recovers_text.orDefault (by rfl),
    optional_textOrNull (by rfl), optional_textOrNull (by rfl), recovers_uint64.orDefault (by rfl)]
  rfl

theorem RateLimitGlobal.recovers : Recovers toData (ofData? · surplus) := by
  refine ⟨fun c => ?_, fun _ => nofun⟩
  rw [ofData?, toData, bind_record?_table (by rfl) (by decide)]
  dsimp only
  rw [recovers_text.orDefault (by rfl), optional_textOrNull (by rfl),
    recovers_text.orDefault (by rfl), recovers_bool.orDefault (by rfl),
    recovers_uint16.orDefault (by rfl)]
  rfl

theorem Downstream.recovers : Recovers toData (ofData? · surplus) := by
  refine ⟨fun c => ?_, fun _ => nofun⟩
  rw [ofData?, toData, bind_record?_table (by rfl) (by decide)]
  dsimp only
  rw [recovers_uint64.orDefault (by rfl), recovers_uint64.orDefault (by rfl),
    recovers_uint64.orDefault (by rfl), recovers_bool.orDefault (by rfl)]
  rfl

theorem Global.recovers : Recovers toData (ofData? · surplus) := by
  refine ⟨fun c => ?_, fun _ => nofun⟩
  rw [ofData?, toData, bind_record?_table (by rfl) (by decide)]
  dsimp only
  rw [optional_textOrNull (by rfl), recovers_uint64.orDefault (by rfl),
    (ServiceDiscovery.recovers surplus).optional (by rfl),
    (RateLimitGlobal.recovers surplus).orDefault (by rfl),
    (Downstream.recovers surplus).orDefault (by rfl)]
  rfl

theorem HostAndPort.recovers : Recovers toData (ofData? · surplus) := by
  refine ⟨fun c => ?_, fun _ => nofun⟩
  rw [ofData?, toData, bind_record?_table (by rfl) (by decide)]
  rw [recovers_text.required (by rfl), recovers_uint16.required (by rfl)]
  rfl

theorem RateLimit.recovers : Recovers toData (ofData? · surplus) := by
  refine ⟨fun c => ?_, fun _ => nofun⟩
  rw [ofData?, toData, bind_record?_table (by rfl) (by decide)]
  rw [recovers_bool.orDefault (by rfl), recovers_text.list.collection (by rfl),
    recovers_text.required (by rfl), recovers_uint64.required (by rfl)]
  rfl

theorem Cache.recovers : Recovers toData (ofData? · surplus) := by
  refine ⟨fun c => ?_, fun _ => nofun⟩
  rw [ofData?, toData, bind_record?_table (by rfl) (by decide)]
  rw [recovers_uint64.required (by rfl), optional_textOrNull (by rfl),
    recovers_bool.orDefault (by rfl)]
  rfl

theorem Qos.recovers : Recovers toData (ofData? · surplus) := by
  refine ⟨fun c => ?_, fun _ => nofun⟩
  rw [ofData?, toData, bind_record?_table (by rfl) (by decide)]
  rw [recovers_uint32.required (by rfl), recovers_uint64.orDefault (by rfl),
    recovers_uint64.required (by rfl), recovers_uint32.orDefault (by rfl),
    recovers_uint64.orDefault (by rfl), recovers_text.orDefault (by rfl)]
  rfl

theorem Authentication.recovers : Recovers toData (ofData? · surplus) := by
  refine ⟨fun c => ?_, fun _ => nofun⟩
  rw [ofData?, toData, bind_record?_table (by rfl) (by decide)]
  rw [recovers_text.required (by rfl), recovers_text.list.collection (by rfl)]
  rfl

theorem Route.recovers : Recovers toData (ofData? · surplus) := by
  refine ⟨fun c => ?_, fun _ => nofun⟩
  rw [ofData?, toData, bind_record?_table (by rfl) (by decide)]
  rw [recovers_text.required (by rfl), recovers_text.list.collection (by rfl),
    recovers_text.required (by rfl), recovers_text.orDefault (by rfl),
    (HostAndPort.recovers surplus).list.collection (by rfl), optional_textOrNull (by rfl),
    recovers_text.orDefault (by rfl), optional_textOrNull (by rfl),
    (RateLimit.recovers surplus).optional (by rfl), (Cache.recovers surplus).optional (by rfl),
    (Qos.recovers surplus).optional (by rfl), (Authentication.recovers surplus).optional (by rfl),
    recovers_dictionary.collection (by rfl), recovers_dictionary.collection (by rfl),
    recovers_dictionary.collection (by rfl), optional_textOrNull (by rfl)]
  rfl

/-- A configuration is read back as it was written. -/
theorem Gateway.recovers : Recovers toData (ofData? · surplus) := by
  refine ⟨fun c => ?_, fun _ => nofun⟩
  rw [ofData?, toData, bind_record?_table (by rfl) (by decide)]
  rw [(Global.recovers surplus).orDefault (by rfl),
    (Route.recovers surplus).list.collection (by rfl)]
  rfl

end Records

section Plain

theorem ServiceDiscovery.isPlain_toData (c : ServiceDiscovery) : c.toData.IsPlain := by
  simp [toData]

theorem RateLimitGlobal.isPlain_toData (c : RateLimitGlobal) : c.toData.IsPlain := by
  simp [toData]

theorem Downstream.isPlain_toData (c : Downstream) : c.toData.IsPlain := by
  simp [toData]

theorem Global.isPlain_toData (c : Global) : c.toData.IsPlain := by
  simp [toData, isPlain_orNull ServiceDiscovery.isPlain_toData,
    RateLimitGlobal.isPlain_toData, Downstream.isPlain_toData]

theorem HostAndPort.isPlain_toData (c : HostAndPort) : c.toData.IsPlain := by
  simp [toData]

theorem RateLimit.isPlain_toData (c : RateLimit) : c.toData.IsPlain := by
  simp [toData]

theorem Cache.isPlain_toData (c : Cache) : c.toData.IsPlain := by
  simp [toData]

theorem Qos.isPlain_toData (c : Qos) : c.toData.IsPlain := by
  simp [toData]

theorem Authentication.isPlain_toData (c : Authentication) : c.toData.IsPlain := by
  simp [toData]

theorem Route.isPlain_toData (c : Route) : c.toData.IsPlain := by
  simp [toData, isPlain_list_map HostAndPort.isPlain_toData,
    isPlain_orNull RateLimit.isPlain_toData, isPlain_orNull Cache.isPlain_toData,
    isPlain_orNull Qos.isPlain_toData, isPlain_orNull Authentication.isPlain_toData]

/-- A configuration is written without values that no record takes. -/
theorem Gateway.isPlain_toData (c : Gateway) : c.toData.IsPlain := by
  simp [toData, Global.isPlain_toData, isPlain_list_map Route.isPlain_toData]

end Plain

end Config
end ApiGateway
