import Mathlib.Data.List.Induction
import Mathlib.Data.List.Nodup
import QualityGate.Record

/-!
# Groups by a key

A group is the items of a list with one key, in their own order, and each key of the list has one (`mem_groupBy`), in the order in
which the keys first appear (`groupBy_eq_map`). The groups together are the items (`flatMap_filter_perm`). Items that are put behind
others unless they are among them stay distinct.
-/

namespace QualityGate

section New

variable {α : Type} [DecidableEq α] {items : List α} {x y : α}

/-- An item that is added, unless it is there, is there. -/
theorem mem_appendNew : y ∈ (if x ∈ items then items else items ++ [x]) ↔ y ∈ items ∨ y = x := by
  split
  · rename_i hold
    exact (or_iff_left_of_imp fun heq => heq ▸ hold).symm
  · rw [List.mem_append, List.mem_singleton]

/-- An item that is added, unless it is there, is not doubled. -/
theorem nodup_appendNew (h : items.Nodup) : (if x ∈ items then items else items ++ [x]).Nodup := by
  split
  · exact h
  · rename_i hnew
    exact List.concat_eq_append ▸ h.concat hnew

/-- The distinct items are the items. -/
theorem mem_distinct : y ∈ distinct items ↔ y ∈ items := by
  have hkept : ∀ items kept : List α,
      y ∈ items.foldl (fun kept x => if kept.contains x then kept else kept ++ [x]) kept ↔ y ∈ kept ∨ y ∈ items := by
    intro items
    induction items with
    | nil => simp
    | cons x rest ih =>
      intro kept
      rw [List.foldl_cons, ih, List.mem_cons, ← or_assoc]
      simp only [List.contains_iff_mem]
      exact or_congr_left mem_appendNew
  rw [distinct, hkept]
  exact or_iff_right List.not_mem_nil

/-- One more item is distinct unless it is there. -/
theorem distinct_append_singleton : distinct (items ++ [x]) = if x ∈ distinct items then distinct items else distinct items ++ [x] := by
  unfold distinct
  rw [List.foldl_append, List.foldl_cons, List.foldl_nil]
  simp only [List.contains_iff_mem]

/-- No item is doubled among the distinct ones. -/
theorem nodup_distinct : (distinct items).Nodup := by
  induction items using List.reverseRecOn with
  | nil => exact List.nodup_nil
  | append_singleton items x ih =>
    rw [distinct_append_singleton]
    exact nodup_appendNew ih

end New

variable {α κ : Type} [BEq κ] {key : α → κ} {items : List α}

/-- A further item joins the group of its key, or opens it. -/
theorem groupBy_append_singleton (x : α) : groupBy key (items ++ [x]) =
    if (groupBy key items).any (fun g => g.1 == key x) then
      (groupBy key items).map fun g => if g.1 == key x then (g.1, g.2 ++ [x]) else g
    else groupBy key items ++ [(key x, [x])] := by
  unfold groupBy
  rw [List.foldl_append]
  rfl

variable [LawfulBEq κ]

/-- One more item with a key is the last of those with it. -/
theorem filter_append_singleton_of_eq {k : κ} {x : α} (h : key x = k) :
    (items ++ [x]).filter (key · == k) = items.filter (key · == k) ++ [x] := by
  rw [List.filter_append]
  exact congrArg _ (List.filter_cons_of_pos (beq_iff_eq.mpr h))

/-- An item with another key is none of those with it. -/
theorem filter_append_singleton_of_ne {k : κ} {x : α} (h : key x ≠ k) :
    (items ++ [x]).filter (key · == k) = items.filter (key · == k) := by
  have hnil : [x].filter (key · == k) = [] := List.filter_cons_of_neg (by rwa [beq_iff_eq])
  rw [List.filter_append, hnil, List.append_nil]

/-- The groups are what the items with one key come to, for each key that an item has. -/
theorem mem_groupBy {k : κ} {xs : List α} : (k, xs) ∈ groupBy key items ↔ xs = items.filter (key · == k) ∧ xs ≠ [] := by
  induction items using List.reverseRecOn generalizing k xs with
  | nil => exact ⟨nofun, fun h => absurd h.1 h.2⟩
  | append_singleton items x ih =>
    rw [groupBy_append_singleton]
    -- one more item goes into the group of its key, or begins one
    by_cases hany : (groupBy key items).any (fun g => g.1 == key x) = true
    · rw [if_pos hany, List.mem_map]
      obtain ⟨⟨k', ys⟩, hmem, hkey⟩ := List.any_eq_true.mp hany
      obtain rfl : k' = key x := eq_of_beq hkey
      constructor
      · rintro ⟨⟨k'', zs⟩, hgroup, heq⟩
        obtain ⟨hzs, hne⟩ := ih.mp hgroup
        by_cases hsame : k'' = key x
        · rw [if_pos (beq_iff_eq.mpr hsame)] at heq
          obtain ⟨rfl, rfl⟩ := Prod.mk.inj heq
          rw [filter_append_singleton_of_eq hsame.symm, hzs]
          exact ⟨rfl, List.append_ne_nil_of_right_ne_nil _ (List.cons_ne_nil x [])⟩
        · rw [if_neg (by rwa [beq_iff_eq])] at heq
          obtain ⟨rfl, rfl⟩ := Prod.mk.inj heq
          exact ⟨by rw [filter_append_singleton_of_ne (Ne.symm hsame), hzs], hne⟩
      · rintro ⟨hxs, hne⟩
        by_cases hsame : key x = k
        · rw [filter_append_singleton_of_eq hsame] at hxs
          subst hsame
          refine ⟨(key x, ys), hmem, ?_⟩
          rw [if_pos (beq_self_eq_true _), hxs, (ih.mp hmem).1]
        · rw [filter_append_singleton_of_ne hsame] at hxs
          exact ⟨(k, xs), ih.mpr ⟨hxs, hne⟩, if_neg (by rw [beq_iff_eq]; exact Ne.symm hsame)⟩
    · rw [if_neg hany, List.mem_append, ih, List.mem_singleton]
      have hnone : items.filter (key · == key x) = [] := by
        by_contra hne
        exact hany (List.any_eq_true.mpr ⟨_, ih.mpr ⟨rfl, hne⟩, beq_self_eq_true _⟩)
      by_cases hsame : key x = k
      · subst hsame
        rw [filter_append_singleton_of_eq rfl, hnone]
        constructor
        · rintro (⟨rfl, hne⟩ | heq)
          · exact absurd rfl hne
          · exact ⟨(Prod.mk.inj heq).2, by rw [(Prod.mk.inj heq).2]; exact List.cons_ne_nil x []⟩
        · rintro ⟨rfl, -⟩
          exact .inr rfl
      · rw [filter_append_singleton_of_ne hsame]
        exact ⟨fun h => h.elim id fun heq => absurd (Prod.mk.inj heq).1.symm hsame, .inl⟩

variable {κ : Type} [DecidableEq κ] {key : α → κ}

/-- The items with the keys of a list of distinct keys, put together group by group. -/
theorem flatMap_filter_perm_filter {keys : List κ} (h : keys.Nodup) :
    (keys.flatMap fun k => items.filter (key · == k)).Perm (items.filter (key · ∈ keys)) := by
  induction keys with
  | nil => rw [List.flatMap_nil, List.filter_eq_nil_iff.mpr fun x _ => by simp]
  | cons k keys ih =>
    obtain ⟨hfresh, hrest⟩ := List.nodup_cons.mp h
    have hsplit := List.filter_append_perm (key · == k) (items.filter (key · ∈ k :: keys))
    have hfirst : (items.filter (key · ∈ k :: keys)).filter (key · == k) = items.filter (key · == k) := by
      rw [List.filter_filter]
      refine List.filter_congr fun x _ => ?_
      by_cases hkey : key x = k <;> simp [hkey]
    have hothers : (items.filter (key · ∈ k :: keys)).filter (fun x => !(key x == k)) = items.filter (key · ∈ keys) := by
      rw [List.filter_filter]
      refine List.filter_congr fun x _ => ?_
      by_cases hkey : key x = k
      · simp [hkey, hfresh]
      · simp [hkey]
    rw [hfirst, hothers] at hsplit
    rw [List.flatMap_cons]
    exact ((ih hrest).append_left _).trans hsplit

/-- The groups have the distinct keys, in order of first appearance. -/
theorem map_fst_groupBy : (groupBy key items).map (·.1) = distinct (items.map key) := by
  induction items using List.reverseRecOn with
  | nil => rfl
  | append_singleton items x ih =>
    have hmem : (groupBy key items).any (fun g => g.1 == key x) = true ↔ key x ∈ distinct (items.map key) := by
      rw [← ih, List.any_eq_true, List.mem_map]
      simp only [beq_iff_eq]
    rw [groupBy_append_singleton, List.map_append, List.map_singleton, distinct_append_singleton]
    by_cases hold : key x ∈ distinct (items.map key)
    · rw [if_pos (hmem.mpr hold), if_pos hold, List.map_map, ← ih]
      refine List.map_congr_left fun g _ => ?_
      dsimp only [Function.comp]
      split <;> rfl
    · rw [if_neg (mt hmem.mp hold), if_neg hold, List.map_append, ih]
      rfl

/-- The groups stand in the order in which their keys first appear. -/
theorem groupBy_eq_map : groupBy key items = (distinct (items.map key)).map fun k => (k, items.filter (key · == k)) := by
  rw [← map_fst_groupBy, List.map_map]
  conv_lhs => rw [← List.map_id (groupBy key items)]
  refine List.map_congr_left fun g hg => ?_
  exact Prod.ext rfl (mem_groupBy.mp hg).1

/-- The groups together are the items. -/
theorem flatMap_filter_perm : ((distinct (items.map key)).flatMap fun k => items.filter (key · == k)).Perm items := by
  refine (flatMap_filter_perm_filter nodup_distinct).trans (.of_eq (List.filter_eq_self.mpr fun x hx => ?_))
  exact decide_eq_true (mem_distinct.mpr (List.mem_map_of_mem hx))

end QualityGate
