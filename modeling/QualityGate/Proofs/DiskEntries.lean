import Mathlib.Tactic.Common
import QualityGate.Proofs.Entries
import QualityGate.Proofs.Paths
import QualityGate.World.Disk

/-!
# What an operation does to the entries of a disk

An operation on one path changes the entry at that path and no other. Making directories changes no entry that is there.
-/

namespace QualityGate

/-! ## Names -/

namespace Path.EndsIn

variable {path name : String}

/-- A disk knows a path by the name that the path ends in. -/
theorem key (h : EndsIn path name) (hname : IsName name) : EndsIn (Disk.key path) name := by
  unfold Disk.key
  split
  · rename_i habsolute
    exact h.resolve hname habsolute
  · exact h

/-- A path that ends in a name is not the root. -/
theorem key_ne_root (h : EndsIn path name) (hname : IsName name) : Disk.key path ≠ "/" := by
  have hroot : EndsIn "/" "" := ⟨List.not_mem_nil, .inr ⟨"", rfl⟩⟩
  exact fun heq => hname.1 ((h.key hname).unique (heq ▸ hroot))

end Path.EndsIn

namespace Disk

variable {d : Disk} {path other : String}

/-! ## Looking up -/

/-- An entry that was taken away is gone. -/
theorem lookup_filter_ne (d : Disk) (k : String) : (d.filter fun (p, _) => p ≠ k).lookup k = none := by
  rw [List.lookup_eq_none_iff]
  intro entry hentry
  simpa using fun h => (of_decide_eq_true (List.mem_filter.mp hentry).2) h.symm

/-- The other entries stay. -/
theorem lookup_filter_of_ne (d : Disk) {k k' : String} (h : k' ≠ k) : (d.filter fun (p, _) => p ≠ k).lookup k' = d.lookup k' := by
  induction d with
  | nil => rfl
  | cons entry d ih =>
    obtain ⟨p, e⟩ := entry
    by_cases hp : p = k
    · subst hp
      rw [List.filter_cons_of_neg (by simp), ih, List.lookup_cons, beq_eq_false_iff_ne.mpr h]
    · rw [List.filter_cons_of_pos (by simpa using hp), List.lookup_cons, List.lookup_cons, ih]

/-- A path has the entry that was put there, and the others have theirs. -/
theorem lookup_put (d : Disk) (path : String) (e : DiskEntry) (k : String) :
    (d.put path e).lookup k = if k = key path then some e else d.lookup k :=
  Entries.lookup_put d (key path) e k

/-! ## Entries -/

theorem at?_eq_lookup (h : key path ≠ "/") (d : Disk) : d.at? path = d.lookup (key path) := if_neg h

theorem at?_put_self (h : key path ≠ "/") (d : Disk) (e : DiskEntry) : (d.put path e).at? path = some e := by
  rw [at?_eq_lookup h, lookup_put, if_pos rfl]

/-- An entry at one path leaves another path as it is. -/
theorem at?_put_of_ne (h : key other ≠ key path) (d : Disk) (e : DiskEntry) : (d.put path e).at? other = d.at? other := by
  unfold at?
  rw [lookup_put, if_neg h]

/-- A path has nothing behind its removal. -/
theorem at?_drop_self (h : key path ≠ "/") (d : Disk) : (d.drop path).at? path = none := by
  rw [at?_eq_lookup h]
  exact lookup_filter_ne d (key path)

/-- A removal at one path leaves another path as it is. -/
theorem at?_drop_of_ne (h : key other ≠ key path) (d : Disk) : (d.drop path).at? other = d.at? other := by
  unfold at?
  rw [drop, lookup_filter_of_ne d h]

/-- The text of a file is its entry. -/
theorem text?_eq_some_iff {text : String} : d.text? path = some text ↔ d.at? path = some (.file text) := by
  unfold text?
  split
  · rename_i content h
    rw [h]
    simp
  · rename_i h
    exact ⟨nofun, fun hat => absurd hat (h text)⟩

/-- The disk with a directory at a path where there is nothing. -/
def withDirectory (d : Disk) (path : String) : Disk := if (d.at? path).isSome then d else d.put path .directory

/-- Making a directory leaves the text of every file, since it changes only where there is nothing. -/
theorem text?_withDirectory (d : Disk) (path other : String) : (d.withDirectory path).text? other = d.text? other := by
  unfold withDirectory
  split
  · rfl
  · rename_i hnone
    by_cases hkey : key other = key path
    · have hmade : (d.put path .directory).at? other = some .directory := by
        unfold at?
        rw [lookup_put, if_pos hkey, ite_self]
      have hbefore : d.at? other = none := by
        rw [Option.not_isSome_iff_eq_none] at hnone
        rw [← hnone]
        unfold at?
        rw [hkey]
      unfold text?
      rw [hmade, hbefore]
    · unfold text?
      rw [at?_put_of_ne hkey]

/-- Directories change no text. -/
theorem text?_withDirectories (d : Disk) (paths : List String) (other : String) :
    (paths.foldl withDirectory d).text? other = d.text? other := by
  induction paths generalizing d with
  | nil => rfl
  | cons path paths ih => exact (ih (d.withDirectory path)).trans (text?_withDirectory d path other)

theorem text?_ensureDirectory (d : Disk) (path other : String) : (d.ensureDirectory path).text? other = d.text? other :=
  text?_withDirectories d _ other

/-- A text at one path leaves that at another path as it is. -/
theorem text?_write_of_ne (h : key other ≠ key path) (d : Disk) (text : String) : (d.write path text).text? other = d.text? other := by
  have hdirectories := text?_withDirectories d (parents path) other
  unfold write text? at *
  rw [at?_put_of_ne h]
  exact hdirectories

/-- A path has the text that was written there. -/
theorem at?_write_self (h : key path ≠ "/") (d : Disk) (text : String) : (d.write path text).at? path = some (.file text) := by
  unfold write
  exact at?_put_self h _ _

end Disk

end QualityGate
