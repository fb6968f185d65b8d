import Mathlib.Data.List.Basic

/-!
# Entries under keys

Lists of keys with values, looked up by the first entry of a key. A value is put under a key in the place of the one that is there,
or at the end: that key has the new value, and every other key keeps its own (`lookup_put`).
-/

namespace QualityGate.Entries

variable {κ α : Type} [DecidableEq κ]

/-- Another value in the place of each one under a key. -/
theorem lookup_replace (entries : List (κ × α)) (key : κ) (value : α) (other : κ) :
    (entries.map fun (k, old) => if k = key then (k, value) else (k, old)).lookup other =
      if other = key then (entries.lookup key).map fun _ => value else entries.lookup other := by
  induction entries with
  | nil => simp
  | cons entry entries ih =>
    obtain ⟨k, old⟩ := entry
    rw [List.map_cons]
    show List.lookup other ((if k = key then (k, value) else (k, old)) :: List.map _ entries) = _
    by_cases hkey : k = key
    · subst hkey
      rw [if_pos rfl, List.lookup_cons, List.lookup_cons, List.lookup_cons, ih]
      by_cases hother : other = k
      · simp [hother]
      · simp [beq_eq_false_iff_ne.mpr hother, hother]
    · rw [if_neg hkey, List.lookup_cons, List.lookup_cons, List.lookup_cons, ih]
      by_cases hother : other = key
      · subst hother
        simp [beq_eq_false_iff_ne.mpr (Ne.symm hkey)]
      · simp [hother]

/-- A value that is put under a key is found there, and what is under other keys is found as before. -/
theorem lookup_put (entries : List (κ × α)) (key : κ) (value : α) (other : κ) :
    (if (entries.lookup key).isSome then entries.map fun (k, old) => if k = key then (k, value) else (k, old)
      else entries ++ [(key, value)]).lookup other = if other = key then some value else entries.lookup other := by
  split
  · rename_i hthere
    obtain ⟨old, hold⟩ := Option.isSome_iff_exists.mp hthere
    rw [lookup_replace, hold, Option.map_some]
  · rename_i hnot
    rw [Option.not_isSome_iff_eq_none] at hnot
    rw [List.lookup_append]
    by_cases hother : other = key
    · subst hother
      simp [hnot]
    · rw [if_neg hother, List.lookup_cons, beq_eq_false_iff_ne.mpr hother, List.lookup_nil, Option.or_none]

/-- With no key twice, what is found under a key is its entry. -/
theorem lookup_eq_some_iff_mem {entries : List (κ × α)} (h : (entries.map (·.1)).Nodup) {key : κ} {value : α} :
    entries.lookup key = some value ↔ (key, value) ∈ entries := by
  induction entries with
  | nil => simp
  | cons entry entries ih =>
    obtain ⟨k, v⟩ := entry
    obtain ⟨hnew, hnodup⟩ := List.nodup_cons.mp h
    rw [List.lookup_cons, List.mem_cons]
    by_cases hkey : key = k
    · subst hkey
      have hrest : (key, value) ∉ entries := fun hmem => hnew (List.mem_map.mpr ⟨_, hmem, rfl⟩)
      simp [hrest, eq_comm]
    · simp [beq_eq_false_iff_ne.mpr hkey, hkey, ih hnodup]

end QualityGate.Entries
