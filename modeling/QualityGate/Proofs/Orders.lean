import Mathlib.Algebra.Order.Ring.Rat
import Mathlib.Order.WithBot
import QualityGate.Number
import QualityGate.Ranking
import QualityGate.Text.Collation

/-!
# Orders and the least item

The orders that items are ranked by are total preorders: reading order, the order of numbers as far as they are numbers, and what is
put together from these. The head of a list that is sorted by such an order is the least of its items. By whatever order, ranking
keeps the items.
-/

namespace QualityGate

open Std (TransCmp OrientedCmp ReflCmp)

/-- An order by a value is one when the values have one. -/
instance transCmp_on {α β : Type} {f : α → β} {order : β → β → Ordering} [TransCmp order] :
    TransCmp fun a b => order (f a) (f b) where
  eq_swap {a b} := @OrientedCmp.eq_swap _ order _ (f a) (f b)
  isLE_trans {a b c} := @TransCmp.isLE_trans _ order _ (f a) (f b) (f c)

/-! ## Reading order -/

/-- Sequences are in the order of their first difference. -/
theorem lexOrder_eq_compareLex (a b : List Nat) : lexOrder a b = List.compareLex compare a b := by
  induction a generalizing b with
  | nil => cases b <;> rfl
  | cons x xs ih =>
    cases b with
    | nil => rfl
    | cons y ys =>
      rw [lexOrder, List.compareLex_cons_cons, ih]
      rcases Nat.lt_trichotomy x y with hlt | rfl | hgt
      · rw [if_pos hlt, Nat.compare_eq_lt.mpr hlt]
        rfl
      · rw [if_neg (Nat.lt_irrefl x), if_neg (Nat.lt_irrefl x), Nat.compare_eq_eq.mpr rfl]
        rfl
      · rw [if_neg (Nat.lt_asymm hgt), if_pos hgt, Nat.compare_eq_gt.mpr hgt]
        rfl

instance : TransCmp lexOrder := by
  rw [show lexOrder = List.compareLex compare from funext fun a => funext (lexOrder_eq_compareLex a)]
  infer_instance

instance : TransCmp unitOrder := inferInstanceAs <| TransCmp fun a b : String => lexOrder (unitSequence a.toList) (unitSequence b.toList)

/-- The units of a character tell where they end, and which character it is. -/
theorem unitList_append_inj {c d : Char} {s t : List Nat} (h : unitList c ++ s = unitList d ++ t) : c = d ∧ s = t := by
  have hc : c.toNat < 0xD800 ∨ 0xDFFF < c.toNat ∧ c.toNat < 0x110000 := c.valid
  have hd : d.toNat < 0xD800 ∨ 0xDFFF < d.toNat ∧ d.toNat < 0x110000 := d.valid
  rw [← Char.toNat_inj]
  unfold unitList at h
  dsimp only at h
  split at h <;> split at h
  · obtain ⟨hunit, hrest⟩ := List.cons.inj h
    exact ⟨hunit, hrest⟩
  · obtain ⟨hunit, -⟩ := List.cons.inj h
    omega
  · obtain ⟨hunit, -⟩ := List.cons.inj h
    omega
  · obtain ⟨hfirst, hmore⟩ := List.cons.inj h
    obtain ⟨hsecond, hrest⟩ := List.cons.inj hmore
    exact ⟨by omega, hrest⟩

/-- Different texts have different units. -/
theorem unitSequence_injective {a b : List Char} (h : unitSequence a = unitSequence b) : a = b := by
  have hne : ∀ c : Char, unitList c ≠ [] := fun c => by
    unfold unitList
    dsimp only
    split <;> exact List.cons_ne_nil _ _
  induction a generalizing b with
  | nil =>
    cases b with
    | nil => rfl
    | cons d b => exact absurd (List.append_eq_nil_iff.mp h.symm).1 (hne d)
  | cons c a ih =>
    cases b with
    | nil => exact absurd (List.append_eq_nil_iff.mp h).1 (hne c)
    | cons d b =>
      obtain ⟨rfl, hrest⟩ := unitList_append_inj h
      rw [ih hrest]

/-- Reading order tells any two texts apart. -/
theorem eq_of_unitOrder_eq {a b : String} (h : unitOrder a b = .eq) : a = b := by
  unfold unitOrder at h
  rw [lexOrder_eq_compareLex] at h
  exact String.toList_injective (unitSequence_injective (Std.LawfulEqCmp.eq_of_compare h))

instance : TransCmp Collation.order :=
  inferInstanceAs <| TransCmp <| compareLex
    (fun a b => lexOrder (Collation.level (·.base) (Collation.weightsOf a)) (Collation.level (·.base) (Collation.weightsOf b)))
    (compareLex
      (fun a b => lexOrder (Collation.level (·.accent) (Collation.weightsOf a)) (Collation.level (·.accent) (Collation.weightsOf b)))
      (fun a b => lexOrder (Collation.level (·.form) (Collation.weightsOf a)) (Collation.level (·.form) (Collation.weightsOf b))))

/-! ## Numbers -/

namespace Number

/-- Where a number stands; what is no number stands with the largest. -/
def place : Number → WithBot (WithTop Rat)
  | .finite q => ((q : WithTop Rat) : WithBot (WithTop Rat))
  | .infinite true => ⊥
  | .infinite false | .nan => ((⊤ : WithTop Rat) : WithBot (WithTop Rat))

/-- A number is less than another when it stands before it. -/
theorem lt_iff_place {a b : Number} (ha : a.isNan = false) (hb : b.isNan = false) : lt a b = true ↔ a.place < b.place := by
  cases a with
  | nan => cases ha
  | finite x =>
    cases b with
    | nan => cases hb
    | finite y => simp [lt, place]
    | infinite negative =>
      cases negative with
      | false => exact iff_of_true rfl (WithBot.coe_lt_coe.mpr (WithTop.coe_lt_top x))
      | true => simp [lt, place]
  | infinite negative =>
    cases b with
    | nan => cases hb
    | finite y => cases negative <;> simp [lt, place]
    | infinite other => cases negative <;> cases other <;> simp [lt, place]

/-- Numbers are in the order of their places. -/
theorem order_eq_compare {a b : Number} (ha : a.isNan = false) (hb : b.isNan = false) : order a b = compare a.place b.place := by
  unfold order
  rcases lt_trichotomy a.place b.place with hlt | heq | hgt
  · rw [if_pos ((lt_iff_place ha hb).mpr hlt), compare_lt_iff_lt.mpr hlt]
  · rw [if_neg (mt (lt_iff_place ha hb).mp heq.not_lt), if_neg (mt (lt_iff_place hb ha).mp heq.not_gt), compare_eq_iff_eq.mpr heq]
  · rw [if_neg (mt (lt_iff_place ha hb).mp hgt.not_gt), if_pos ((lt_iff_place hb ha).mpr hgt), compare_gt_iff_gt.mpr hgt]

/-- What is less than something is a number. -/
theorem isNan_of_lt_left {a b : Number} (h : a.lt b = true) : a.isNan = false := by
  cases a with
  | nan => cases h
  | finite | infinite => rfl

/-- What something is less than is a number. -/
theorem isNan_of_lt_right {a b : Number} (h : a.lt b = true) : b.isNan = false := by
  cases b with
  | nan => cases a <;> cases h
  | finite | infinite => rfl

/-- What something is at most is a number. -/
theorem isNan_of_le_right {a b : Number} (h : a.le b = true) : b.isNan = false := by
  cases b with
  | nan => cases a <;> cases h
  | finite | infinite => rfl

/-- Numbers are the same when their order tells no difference. -/
theorem same_eq_order_isEq {a b : Number} (ha : a.isNan = false) (hb : b.isNan = false) : same a b = (order a b).isEq := by
  have hplace : a.place = b.place ↔ a = b := by
    refine ⟨fun h => ?_, congrArg place⟩
    cases a with
    | nan => cases ha
    | finite x =>
      cases b with
      | nan => cases hb
      | finite y => exact congrArg finite (WithTop.coe_injective (WithBot.coe_injective h))
      | infinite negative => cases negative <;> cases h
    | infinite negative =>
      cases b with
      | nan => cases hb
      | finite y => cases negative <;> cases h
      | infinite other => cases negative <;> cases other <;> first | rfl | cases h
  have hsame : same a b = true ↔ a = b := by
    cases a with
    | nan => cases ha
    | finite | infinite =>
      cases b with
      | nan => cases hb
      | finite | infinite => simp [same]
  rw [Bool.eq_iff_iff, hsame, order_eq_compare ha hb, Ordering.isEq_iff_eq_eq, compare_eq_iff_eq, hplace]

end Number

/-! ## The least item -/

section Least

variable {α : Type} {order order' : α → α → Ordering} {items : List α}

theorem mem_sortBy {x : α} : x ∈ sortBy order items ↔ x ∈ items := List.mem_mergeSort

/-- A list is sorted alike by orders that agree on its items. -/
theorem sortBy_congr (h : ∀ a ∈ items, ∀ b ∈ items, order a b = order' a b) : sortBy order items = sortBy order' items := by
  have hmap := @List.map_mergeSort α α (fun a b => (order a b).isLE) (fun a b => (order' a b).isLE) id items
    fun a ha b hb => by rw [h a ha b hb]; rfl
  rwa [List.map_id, List.map_id] at hmap

/-- Sorted items are in order. -/
theorem pairwise_sortBy [TransCmp order] : (sortBy order items).Pairwise fun a b => (order a b).isLE := by
  refine List.pairwise_mergeSort (fun a b c => TransCmp.isLE_trans) (fun a b => ?_) items
  rw [@OrientedCmp.eq_swap _ order _ b a]
  cases order a b <;> rfl

/-- Texts are sorted alike from whatever order they stand in, since reading order tells any two apart. -/
theorem sortTexts_perm {texts texts' : List String} (h : texts.Perm texts') : sortTexts texts = sortTexts texts' := by
  have hsorted : (sortTexts texts).Perm (sortTexts texts') :=
    (List.mergeSort_perm _ _).trans (h.trans (List.mergeSort_perm _ _).symm)
  refine hsorted.eq_of_pairwise (fun a b _ _ hab hba => ?_) pairwise_sortBy pairwise_sortBy
  refine eq_of_unitOrder_eq ?_
  rw [@OrientedCmp.eq_swap _ unitOrder _ b a] at hba
  cases horder : unitOrder a b with
  | eq => rfl
  | lt => rw [horder] at hba; cases hba
  | gt => rw [horder] at hab; cases hab

/-- The head of a sorted list is one of its items, and none precedes it. -/
theorem head?_sortBy [TransCmp order] {x : α} (h : (sortBy order items).head? = some x) :
    x ∈ items ∧ ∀ y ∈ items, order x y ≠ .gt := by
  refine ⟨mem_sortBy.mp (List.mem_of_head? h), fun y hy => ?_⟩
  have hsorted : (sortBy order items).Pairwise fun a b => (order a b).isLE := pairwise_sortBy
  have hmem : y ∈ sortBy order items := mem_sortBy.mpr hy
  cases hlist : sortBy order items with
  | nil =>
    rw [hlist] at h
    cases h
  | cons z rest =>
    rw [hlist] at h hsorted hmem
    obtain rfl := Option.some.inj h
    rcases List.mem_cons.mp hmem with rfl | hrest
    · rw [@ReflCmp.compare_self _ order _ y]
      decide
    · exact Ordering.isLE_iff_ne_gt.mp <| List.rel_of_pairwise_cons hsorted hrest

theorem head?_sortBy_eq_none : (sortBy order items).head? = none ↔ items = [] := by
  rw [List.head?_eq_none_iff, ← List.length_eq_zero_iff, sortBy, List.length_mergeSort, List.length_eq_zero_iff]

/-- One more item comes behind those that precede it and before all others, which keep their order. -/
theorem sortBy_cons [TransCmp order] (a : α) (items : List α) :
    let before := (sortBy order items).filter fun b => !(order a b).isLE
    let after := (sortBy order items).filter fun b => (order a b).isLE
    sortBy order (a :: items) = before ++ a :: after ∧ sortBy order items = before ++ after := by
  have htotal : ∀ a b, ((order a b).isLE || (order b a).isLE) = true := fun a b => by
    rw [@OrientedCmp.eq_swap _ order _ b a]
    cases order a b <;> rfl
  obtain ⟨before, after, hcons, hrest, hbefore⟩ := List.mergeSort_cons (fun a b c => TransCmp.isLE_trans) htotal a items
  have hcons : sortBy order (a :: items) = before ++ a :: after := hcons
  have hrest : sortBy order items = before ++ after := hrest
  have hsorted : (before ++ a :: after).Pairwise fun b c => (order b c).isLE := hcons ▸ pairwise_sortBy
  have hafter : ∀ b ∈ after, (order a b).isLE = true := fun b hb =>
    List.rel_of_pairwise_cons (List.pairwise_append.mp hsorted).2.1 hb
  have hnone : after.filter (fun b => !(order a b).isLE) = [] := List.filter_eq_nil_iff.mpr fun b hb => by simp [hafter b hb]
  have hnone' : before.filter (fun b => (order a b).isLE) = [] := List.filter_eq_nil_iff.mpr fun b hb => by simpa using hbefore b hb
  dsimp only
  rw [hrest, List.filter_append, List.filter_append, List.filter_eq_self.mpr hbefore, List.filter_eq_self.mpr hafter, hnone,
    hnone', List.append_nil, List.nil_append]
  exact ⟨hcons, rfl⟩

/-- With fewer items a sorted list lacks items, and keeps the others in their order, ties included. -/
theorem sublist_sortBy [TransCmp order] {fewer : List α} (h : fewer.Sublist items) :
    (sortBy order fewer).Sublist (sortBy order items) := by
  induction h with
  | slnil => exact List.Sublist.refl _
  | @cons fewer items a _ ih =>
    obtain ⟨hcons, hrest⟩ := @sortBy_cons _ order _ a items
    rw [hcons]
    rw [hrest] at ih
    exact ih.trans ((List.Sublist.refl _).append (List.sublist_cons_self a _))
  | @cons_cons fewer items a _ ih =>
    rw [(sortBy_cons a items).1, (sortBy_cons a fewer).1]
    exact (ih.filter _).append ((ih.filter _).cons_cons a)

/-- The items of a sorted list that pass a test are sorted alike without the others. -/
theorem filter_sortBy [TransCmp order] (p : α → Bool) (items : List α) :
    (sortBy order items).filter p = sortBy order (items.filter p) := by
  induction items with
  | nil => rw [List.filter_nil, sortBy, List.mergeSort_nil, List.filter_nil]
  | cons a items ih =>
    obtain ⟨hcons, hrest⟩ := @sortBy_cons _ order _ a items
    by_cases ha : p a = true
    · rw [hcons, List.filter_append, List.filter_cons_of_pos ha, List.filter_cons_of_pos ha, (sortBy_cons a _).1, ← ih]
      simp only [List.filter_filter, Bool.and_comm]
    · rw [hcons, List.filter_append, List.filter_cons_of_neg ha, List.filter_cons_of_neg ha, ← ih, ← List.filter_append, ← hrest]

end Least

/-! ## Ranking -/

namespace Ranking

variable {α : Type} {precedes : α → α → Bool}

/-- What is inserted where nothing is comes last. -/
theorem insert_of_drop_nil {x : α} {ranked : List α} (h : ranked.drop (ranked.length / 2) = []) :
    insert precedes x ranked = ranked ++ [x] := by
  rw [insert]
  split
  · rfl
  · rename_i hcons
    rw [h] at hcons
    cases hcons

/-- What is inserted goes on one side of the middle. -/
theorem insert_of_drop_cons {x middle : α} {ranked above : List α} (h : ranked.drop (ranked.length / 2) = middle :: above) :
    insert precedes x ranked =
      if precedes x middle then insert precedes x (ranked.take (ranked.length / 2)) ++ middle :: above
      else ranked.take (ranked.length / 2) ++ middle :: insert precedes x above := by
  rw [insert]
  split
  · rename_i hnil
    rw [h] at hnil
    cases hnil
  · rename_i hcons
    obtain ⟨rfl, rfl⟩ := List.cons.inj (h.symm.trans hcons)
    rfl

/-- Putting an item into its place keeps the items. -/
theorem insert_perm (x : α) (ranked : List α) : (insert precedes x ranked).Perm (x :: ranked) := by
  induction ranked using insert.induct precedes x with
  | case1 ranked hsplit =>
    rw [insert_of_drop_nil hsplit]
    exact List.perm_append_singleton x ranked
  | case2 ranked middle above hsplit _ hprecedes ih =>
    have hranked : ranked.take (ranked.length / 2) ++ middle :: above = ranked := by
      rw [← hsplit, List.take_append_drop]
    rw [insert_of_drop_cons hsplit, if_pos hprecedes]
    refine (ih.append_right _).trans ?_
    rw [List.cons_append, hranked]
  | case3 ranked middle above hsplit _ hprecedes ih =>
    have hranked : ranked.take (ranked.length / 2) ++ middle :: above = ranked := by
      rw [← hsplit, List.take_append_drop]
    rw [insert_of_drop_cons hsplit, if_neg hprecedes]
    refine ((ih.cons middle).append_left _).trans (.trans ?_ (List.Perm.cons x (.of_eq hranked)))
    exact (List.Perm.append_left _ (.swap x middle above)).trans List.perm_middle

/-- A run and what is left behind it are all items. -/
theorem run_append (descending : Bool) (last : α) (items : List α) :
    (run precedes descending last items).1 ++ (run precedes descending last items).2 = items := by
  induction items generalizing last with
  | nil => rfl
  | cons x rest ih =>
    unfold run
    split
    · exact congrArg (x :: ·) (ih x)
    · rfl

/-- What is inserted one by one is there in the end, with what was there. -/
theorem foldl_insert_perm (others ranked : List α) :
    (others.foldl (fun ranked z => insert precedes z ranked) ranked).Perm (others ++ ranked) := by
  induction others generalizing ranked with
  | nil => exact .refl ranked
  | cons z others ih => exact (ih _).trans ((List.Perm.append_left others (insert_perm z ranked)).trans List.perm_middle)

/-- Ranking by runs leaves the items that there are. -/
theorem byRuns_perm (items : List α) : (byRuns precedes items).Perm items := by
  unfold byRuns
  split
  · exact .refl _
  · exact .refl _
  · rename_i x y rest
    have hrun := @run_append _ precedes (precedes y x) x (y :: rest)
    have hlead : (if precedes y x then (x :: (run precedes (precedes y x) x (y :: rest)).1).reverse
        else x :: (run precedes (precedes y x) x (y :: rest)).1).Perm (x :: (run precedes (precedes y x) x (y :: rest)).1) := by
      split
      · exact List.reverse_perm _
      · exact .refl _
    dsimp only
    refine (foldl_insert_perm _ _).trans (List.perm_append_comm.trans ?_)
    exact (hlead.append_right _).trans (.of_eq (congrArg (x :: ·) hrun))

/-- Ranking keeps the items, whether or not they compare. -/
theorem rank_perm (comparable : α → Bool) (order : α → α → Ordering) (items : List α) :
    (rank comparable order items).Perm items := by
  unfold rank
  split
  · exact List.mergeSort_perm items _
  · exact byRuns_perm items

end Ranking

end QualityGate
