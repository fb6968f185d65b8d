import Mathlib.Data.List.Nodup
import QualityGate.Proofs.Entries
import QualityGate.Record.Inherited

/-!
# Looking up what has been set

Setting a name changes the value under that name alone, and keeps the names of a record distinct; so what stands under a name after
several settings is what was set last (`get?_ofPairs`, `get?_assignAll`). Names that are set in the order in which a record lists them
stay in it (`ofPairs_of_listed`).
-/

namespace QualityGate.Record

variable {α : Type} {r : Record α} {name : String} {value : α}

/-! ## One setting -/

theorem get?_nil (name : String) : get? ([] : Record α) name = none := rfl

/-- A field that comes first is the one for its name. -/
theorem get?_cons (n : String) (v : α) (rest : Record α) (name : String) :
    get? ((n, v) :: rest) name = if name = n then some v else get? rest name := by
  unfold get?
  rw [List.lookup_cons]
  by_cases h : name = n
  · rw [if_pos h, beq_iff_eq.mpr h]
  · rw [if_neg h, beq_eq_false_iff_ne.mpr h]

/-- What stands under a name is a field. -/
theorem mem_of_get? (h : r.get? name = some value) : (name, value) ∈ r := by
  induction r with
  | nil => cases h
  | cons field rest ih =>
    obtain ⟨other, v⟩ := field
    rw [get?_cons] at h
    split at h
    · rename_i heq
      rw [heq, ← Option.some.inj h]
      exact List.mem_cons_self
    · exact List.mem_cons_of_mem _ (ih h)

/-- Where no name is doubled, each field is the one for its name. -/
theorem get?_of_mem (h : r.keys.Nodup) {field : String × α} (hfield : field ∈ r) : r.get? field.1 = some field.2 := by
  induction r with
  | nil => cases hfield
  | cons other rest ih =>
    obtain ⟨n, v⟩ := other
    obtain ⟨hfresh, hrest⟩ := List.nodup_cons.mp h
    rw [get?_cons]
    rcases List.mem_cons.mp hfield with rfl | hmem
    · exact if_pos rfl
    · have hne : field.1 ≠ n := fun heq => hfresh (List.mem_map.mpr ⟨field, hmem, heq⟩)
      rw [if_neg hne, ih hrest hmem]

/-- What is missing is no name of the record. -/
theorem get?_eq_none_iff : r.get? name = none ↔ name ∉ r.keys := by
  induction r with
  | nil => exact iff_of_true rfl nofun
  | cons field rest ih =>
    rw [get?_cons, keys, List.map_cons, List.mem_cons, not_or, ← keys, ← ih]
    by_cases h : name = field.1
    · rw [if_pos h]
      exact iff_of_false nofun fun hne => hne.1 h
    · rw [if_neg h]
      exact ⟨fun hrest => ⟨h, hrest⟩, fun hrest => hrest.2⟩

/-- A field that is replaced has the new value, and the others stay. -/
theorem get?_replace (r : Record α) (name : String) (value : α) (other : String) :
    (replace name value r).get? other = if other = name then (r.get? name).map (fun _ => value) else r.get? other :=
  Entries.lookup_replace r name value other

/-- A field that is inserted among the indices is there, and the others stay. -/
theorem get?_insertIndex (n : Nat) (r : Record α) (h : r.get? name = none) (other : String) :
    (insertIndex n name value r).get? other = if other = name then some value else r.get? other := by
  induction r with
  | nil => rw [insertIndex, get?_cons]
  | cons field rest ih =>
    obtain ⟨m, v⟩ := field
    rw [get?_cons] at h
    have hm : name ≠ m := by
      intro heq
      rw [if_pos heq] at h
      cases h
    rw [if_neg hm] at h
    unfold insertIndex
    split
    · split
      · rw [get?_cons, ih h, get?_cons]
        by_cases ho : other = m
        · rw [if_pos ho, if_pos ho, if_neg (ho ▸ Ne.symm hm)]
        · rw [if_neg ho, if_neg ho]
      · rw [get?_cons]
    · rw [get?_cons]

/-- A field that is added at the end is there, and the others stay. -/
theorem get?_append_single (r : Record α) (h : r.get? name = none) (other : String) :
    get? (r ++ [(name, value)]) other = if other = name then some value else r.get? other := by
  induction r with
  | nil => rw [List.nil_append, get?_cons]
  | cons field rest ih =>
    obtain ⟨m, v⟩ := field
    rw [get?_cons] at h
    have hm : name ≠ m := by
      intro heq
      rw [if_pos heq] at h
      cases h
    rw [if_neg hm] at h
    rw [List.cons_append, get?_cons, ih h, get?_cons]
    by_cases ho : other = m
    · rw [if_pos ho, if_pos ho, if_neg (ho ▸ Ne.symm hm)]
    · rw [if_neg ho, if_neg ho]

/-- Setting a name changes the value under that name alone. -/
theorem get?_set (r : Record α) (name : String) (value : α) (other : String) :
    (r.set name value).get? other = if other = name then some value else r.get? other := by
  unfold set
  split
  · rename_i hsome
    rw [get?_replace]
    obtain ⟨v, hv⟩ := Option.isSome_iff_exists.mp hsome
    rw [hv]
    rfl
  · rename_i hnone
    have hnone : r.get? name = none := Option.not_isSome_iff_eq_none.mp hnone
    split
    · exact get?_insertIndex _ r hnone other
    · exact get?_append_single r hnone other

/-- A field that is replaced keeps its place. -/
theorem keys_replace (r : Record α) (name : String) (value : α) : keys (replace name value r) = r.keys := by
  unfold keys replace
  rw [List.map_map]
  refine List.map_congr_left fun field _ => ?_
  obtain ⟨n, v⟩ := field
  dsimp only [Function.comp]
  split <;> rfl

/-- A field that is inserted among the indices adds its name. -/
theorem keys_insertIndex_perm (n : Nat) (r : Record α) : (insertIndex n name value r).keys.Perm (name :: r.keys) := by
  induction r with
  | nil => exact .refl _
  | cons field rest ih =>
    obtain ⟨m, v⟩ := field
    unfold insertIndex
    split
    · split
      · exact (ih.cons m).trans (.swap _ _ _)
      · exact .refl _
    · exact .refl _

/-- Setting a name keeps the names of a record distinct. -/
theorem nodup_keys_set (h : r.keys.Nodup) : (r.set name value).keys.Nodup := by
  unfold set
  split
  · rw [keys_replace]
    exact h
  · rename_i hnone
    have hnew : name ∉ r.keys := get?_eq_none_iff.mp (Option.not_isSome_iff_eq_none.mp hnone)
    split
    · exact (keys_insertIndex_perm _ r).nodup_iff.mpr (List.nodup_cons.mpr ⟨hnew, h⟩)
    · rw [keys, List.map_append, List.map_singleton, ← keys]
      exact List.nodup_append.mpr ⟨h, List.nodup_singleton _, 
      fun a ha b hb heq => hnew ((heq.trans (List.mem_singleton.mp hb) : a = name) ▸ ha)⟩

/-- The fields behind an insertion are the new one and those that were there. -/
theorem mem_insertIndex {n : Nat} {field : String × α}
    (h : field ∈ insertIndex n name value r) : field = (name, value) ∨ field ∈ r := by
  induction r with
  | nil => exact .inl (List.mem_singleton.mp h)
  | cons other rest ih =>
    unfold insertIndex at h
    split at h
    · split at h
      · rcases List.mem_cons.mp h with rfl | h
        · exact .inr (.head _)
        · exact (ih h).imp id (List.mem_cons_of_mem _)
      · exact List.mem_cons.mp h
    · exact List.mem_cons.mp h

/-- Setting a name adds no other value. -/
theorem mem_set {field : String × α} (h : field ∈ r.set name value) :
    field = (name, value) ∨ field ∈ r := by
  unfold set at h
  split at h
  · unfold replace at h
    obtain ⟨⟨n, v⟩, hmem, heq⟩ := List.mem_map.mp h
    dsimp only at heq
    split at heq
    · rename_i hn
      rw [← heq, hn]
      exact .inl rfl
    · rw [← heq]
      exact .inr hmem
  split at h
  · exact mem_insertIndex h
  · rcases List.mem_append.mp h with h | h
    · exact .inr h
    · exact .inl (List.mem_singleton.mp h)

/-! ## Several settings -/

/-- What is set last under a name. -/
def last? : List (String × α) → String → Option α
  | [], _ => none
  | (n, value) :: rest, name => (last? rest name).or (if name = n then some value else none)

/-- Of several values that are set under a name, the last one counts. -/
theorem get?_foldl_set (pairs : List (String × α)) (r : Record α) (name : String) :
    get? (pairs.foldl (fun r (n, v) => r.set n v) r) name = (last? pairs name).or (r.get? name) := by
  induction pairs generalizing r with
  | nil => rfl
  | cons pair rest ih =>
    obtain ⟨n, v⟩ := pair
    rw [List.foldl_cons, ih, get?_set, last?, Option.or_assoc]
    congr 1
    split <;> rfl

/-- Under a name stands what was set last. -/
theorem get?_ofPairs (pairs : List (String × α)) (name : String) : (ofPairs pairs).get? name = last? pairs name := by
  unfold ofPairs
  rw [get?_foldl_set, get?_nil, Option.or_none]

/-- Of several values that are assigned to a name, the last one counts, except under the inherited name. -/
theorem get?_foldl_assign (pairs : List (String × α)) (r : Record α) (h : name ≠ Inherited.baseName) :
    get? (pairs.foldl (fun r (n, v) => r.assign n v) r) name = (last? pairs name).or (r.get? name) := by
  induction pairs generalizing r with
  | nil => rfl
  | cons pair rest ih =>
    obtain ⟨n, v⟩ := pair
    rw [List.foldl_cons, ih, last?, Option.or_assoc]
    congr 1
    dsimp only
    unfold assign
    split
    · rename_i hbase
      rw [if_neg (hbase ▸ h)]
      rfl
    · rw [get?_set]
      split <;> rfl

/-- Under a name that can be set stands what was assigned last. -/
theorem get?_assignAll (pairs : List (String × α)) (h : name ≠ Inherited.baseName) :
    (assignAll pairs).get? name = last? pairs name := by
  unfold assignAll
  rw [get?_foldl_assign pairs [] h, get?_nil, Option.or_none]

/-- The one name that cannot be set is not found. -/
theorem get?_assignAll_baseName (pairs : List (String × α)) : (assignAll pairs).get? Inherited.baseName = none := by
  have hkept : ∀ (pairs : List (String × α)) (r : Record α), r.get? Inherited.baseName = none →
      get? (pairs.foldl (fun r (n, v) => r.assign n v) r) Inherited.baseName = none := by
    intro pairs
    induction pairs with
    | nil => exact fun r h => h
    | cons pair rest ih =>
      intro r h
      refine ih _ ?_
      dsimp only
      unfold assign
      split
      · exact h
      · rename_i hname
        rw [get?_set, if_neg (Ne.symm hname)]
        exact h
  exact hkept pairs [] rfl

/-- In a record each name is set once. -/
theorem last?_eq_get? (h : r.keys.Nodup) (name : String) : last? r name = r.get? name := by
  induction r with
  | nil => rfl
  | cons field rest ih =>
    obtain ⟨n, v⟩ := field
    rw [keys, List.map_cons, List.nodup_cons] at h
    rw [last?, get?_cons, ih h.2]
    by_cases hn : name = n
    · rw [if_pos hn, if_pos hn, get?_eq_none_iff.mpr (hn ▸ h.1)]
      rfl
    · rw [if_neg hn, if_neg hn, Option.or_none]

/-- Fields that are set double no name. -/
theorem nodup_keys_foldl_set (pairs : List (String × α)) (h : r.keys.Nodup) :
    keys (pairs.foldl (fun r (n, v) => r.set n v) r) |>.Nodup := by
  induction pairs generalizing r with
  | nil => exact h
  | cons pair rest ih => exact ih (nodup_keys_set h)

theorem nodup_keys_ofPairs (pairs : List (String × α)) : (ofPairs pairs).keys.Nodup :=
  nodup_keys_foldl_set pairs List.nodup_nil

/-! ## Names in listing order -/

/-- Whether one name may stand before another in a record: before an index, only lower indices. -/
def before (earlier later : String) : Bool := (index? later).all fun n => (index? earlier).any (· < n)

/-- Distinct names in the order in which a record lists them. -/
structure Listed (names : List String) : Prop where
  distinct : names.Nodup
  ordered : names.Pairwise fun earlier later => before earlier later

instance (names : List String) : Decidable (Listed names) :=
  decidable_of_iff (names.Nodup ∧ names.Pairwise fun earlier later => before earlier later)
    ⟨fun h => ⟨h.1, h.2⟩, fun h => ⟨h.distinct, h.ordered⟩⟩

/-- Distinct names that are no indices are in the order in which a record lists them. -/
theorem listed_of_plain {names : List String} (hplain : ∀ name ∈ names, index? name = none) (h : names.Nodup) : Listed names where
  distinct := h
  ordered := by
    refine List.pairwise_of_forall_mem_list fun earlier _ later hlater => ?_
    rw [before, hplain later hlater]
    rfl

/-- An index behind all others is inserted at the end. -/
theorem insertIndex_eq_append {n : Nat} (h : ∀ other ∈ r.keys, (index? other).any (· < n)) :
    insertIndex n name value r = r ++ [(name, value)] := by
  induction r with
  | nil => rfl
  | cons field rest ih =>
    obtain ⟨other, v⟩ := field
    obtain ⟨hother, hrest⟩ := List.forall_mem_cons.mp h
    obtain ⟨m, hm, hlt⟩ : ∃ m, index? other = some m ∧ m < n := by simpa [Option.any_eq_true] using hother
    rw [insertIndex, hm]
    dsimp only
    rw [if_pos hlt, ih hrest, List.cons_append]

/-- A new name that may stand behind all others is set at the end. -/
theorem set_eq_append (hnew : name ∉ r.keys) (h : ∀ other ∈ r.keys, before other name) : r.set name value = r ++ [(name, value)] := by
  unfold set
  rw [get?_eq_none_iff.mpr hnew]
  cases hindex : index? name with
  | none => rfl
  | some n =>
    refine insertIndex_eq_append fun other hother => ?_
    have hbefore := h other hother
    rwa [before, hindex] at hbefore

/-- Fields that are set in the order of a record are added at its end. -/
theorem foldl_set_of_listed (pairs : List (String × α)) (h : Listed (keys (r ++ pairs))) :
    pairs.foldl (fun r (n, v) => r.set n v) r = r ++ pairs := by
  induction pairs generalizing r with
  | nil => exact (List.append_nil r).symm
  | cons pair rest ih =>
    obtain ⟨n, v⟩ := pair
    have hlist : r ++ (n, v) :: rest = r ++ [(n, v)] ++ rest := by simp
    have hkeys : keys (r ++ (n, v) :: rest) = r.keys ++ n :: keys rest := by simp [keys]
    have hnew : n ∉ r.keys := fun hmem => (List.nodup_append.mp (hkeys ▸ h.distinct)).2.2 n hmem n List.mem_cons_self rfl
    have hbehind : ∀ other ∈ r.keys, before other n := by
      have hordered := h.ordered
      rw [hkeys] at hordered
      exact fun other hother => (List.pairwise_append.mp hordered).2.2 other hother n List.mem_cons_self
    rw [List.foldl_cons, hlist, ← ih (hlist ▸ h)]
    dsimp only
    rw [set_eq_append hnew hbehind]

/-- A record that lists its names in order is what results from setting them in this order. -/
theorem ofPairs_of_listed (h : Listed (keys r)) : ofPairs r = r := foldl_set_of_listed r h

/-- Distinct names that are no indices are kept in the order in which they are set. -/
theorem ofPairs_eq_self {pairs : List (String × α)} (hplain : ∀ pair ∈ pairs, index? pair.1 = none) (h : (keys pairs).Nodup) :
    ofPairs pairs = pairs := by
  refine ofPairs_of_listed (listed_of_plain (fun name hname => ?_) h)
  obtain ⟨pair, hpair, rfl⟩ := List.mem_map.mp hname
  exact hplain pair hpair

/-! ## Assigned names -/

/-- Fields that are assigned double no name. -/
theorem nodup_keys_foldl_assign (pairs : List (String × α)) (h : r.keys.Nodup) :
    keys (pairs.foldl (fun r (n, v) => r.assign n v) r) |>.Nodup := by
  induction pairs generalizing r with
  | nil => exact h
  | cons pair rest ih =>
    refine ih ?_
    dsimp only
    unfold assign
    split
    · exact h
    · exact nodup_keys_set h

theorem nodup_keys_assignAll (pairs : List (String × α)) : (assignAll pairs).keys.Nodup :=
  nodup_keys_foldl_assign pairs List.nodup_nil

/-- What has been assigned is all there is. -/
theorem mem_foldl_assign {pairs : List (String × α)} {field : String × α}
    (h : field ∈ pairs.foldl (fun r (n, v) => r.assign n v) r) : field ∈ pairs ∨ field ∈ r := by
  induction pairs generalizing r with
  | nil => exact .inr h
  | cons pair rest ih =>
    rcases ih h with hrest | hset
    · exact .inl (.tail _ hrest)
    · dsimp only at hset
      unfold assign at hset
      split at hset
      · exact .inr hset
      · rcases mem_set hset with rfl | hmem
        · exact .inl (.head _)
        · exact .inr hmem

theorem mem_assignAll {pairs : List (String × α)} {field : String × α} (h : field ∈ assignAll pairs) : field ∈ pairs :=
  (mem_foldl_assign h).resolve_right nofun

end QualityGate.Record
