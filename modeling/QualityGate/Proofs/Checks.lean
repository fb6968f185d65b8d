import Mathlib.Tactic.Common
import QualityGate.Schema

/-!
# What a check accepts

A check accepts a value when it reads it without a fault. For each way of putting checks together it is said when the whole accepts,
in terms of its parts, so that what a schema accepts can be read off its fields.
-/

namespace QualityGate

variable {α β : Type}

namespace Checked

/-- A value is accepted when the check came to it. -/
theorem accepted?_eq_some_iff {c : Checked α} {a : α} : c.accepted? = some a ↔ c = ok a := by
  obtain ⟨value, faults⟩ := c
  cases faults <;> simp [accepted?, ok]

/-- Two checks side by side accept when both do. -/
@[simp] theorem seq_eq_ok_iff {f : Checked (α → β)} {x : Checked α} {b : β} :
    f <*> x = ok b ↔ ∃ g a, f = ok g ∧ x = ok a ∧ g a = b := by
  obtain ⟨f, faults⟩ := f
  obtain ⟨x, others⟩ := x
  constructor
  · intro h
    obtain ⟨hvalue, hfaults⟩ := Checked.mk.inj h
    obtain ⟨g, rfl, hx⟩ := Option.bind_eq_some_iff.mp hvalue
    obtain ⟨a, rfl, hb⟩ := Option.map_eq_some_iff.mp hx
    obtain ⟨rfl, rfl⟩ := List.append_eq_nil_iff.mp hfaults
    exact ⟨g, a, rfl, rfl, hb⟩
  · rintro ⟨g, a, hf, hx, rfl⟩
    rw [hf, hx]
    rfl

/-- What is made of a checked value is accepted when the value is. -/
@[simp] theorem map_eq_ok_iff {f : α → β} {x : Checked α} {b : β} : f <$> x = ok b ↔ ∃ a, x = ok a ∧ f a = b := by
  show ok f <*> x = ok b ↔ _
  rw [seq_eq_ok_iff]
  constructor
  · rintro ⟨g, a, hg, ha, rfl⟩
    obtain rfl : f = g := by simpa [ok] using hg
    exact ⟨a, ha, rfl⟩
  · rintro ⟨a, ha, rfl⟩
    exact ⟨f, a, rfl, ha, rfl⟩

/-- The name of a field is put before the issues only. -/
@[simp] theorem below_eq_ok_iff {name : String} {c : Checked α} {a : α} : c.below name = ok a ↔ c = ok a := by
  obtain ⟨value, faults⟩ := c
  simp [below, ok]

/-- A demand on a checked value is one more condition. -/
@[simp] theorem demand_eq_ok_iff {holds : Bool} {message : String} {c : Checked α} {a : α} :
    c.demand holds message = ok a ↔ c = ok a ∧ holds := by
  obtain ⟨value, faults⟩ := c
  cases holds <;> simp [demand, ok]

@[simp] theorem refused_ne_ok {message : String} {a : α} : (refused message : Checked α) ≠ ok a := by
  simp [refused, ok]

@[simp] theorem ok_inj {a b : α} : ok a = ok b ↔ a = b := by
  simp [ok]

end Checked

namespace Check

open Checked (ok)

variable {check : Check α} {j : Option Json} {a : α}

@[simp] theorem field_eq_ok_iff {fields : Record Json} {name : String} :
    field fields name check = ok a ↔ check (fields.get? name) = ok a := Checked.below_eq_ok_iff

/-- Only an object is checked field by field. -/
theorem object_eq_ok_iff {read : Record Json → Checked α} :
    object read j = ok a ↔ ∃ fields, j = some (.obj fields) ∧ read fields = ok a := by
  rcases j with _ | (_ | _ | _ | _ | _ | _) <;> simp [object, wrongKind]

/-- A number is any but the one that is none. -/
theorem number_eq_ok_iff {x : Number} : number j = ok x ↔ j = some (.num x) ∧ x ≠ .nan := by
  rcases j with _ | (_ | _ | y | _ | _ | _) <;> simp [number, wrongKind]
  cases y <;> cases x <;> simp [Number.isNan]

theorem text_eq_ok_iff {s : String} : text j = ok s ↔ j = some (.str s) := by
  rcases j with _ | (_ | _ | _ | _ | _ | _) <;> simp [text, wrongKind]

theorem bool_eq_ok_iff {b : Bool} : bool j = ok b ↔ j = some (.bool b) := by
  rcases j with _ | (_ | _ | _ | _ | _ | _) <;> simp [bool, wrongKind]

/-- One of some names is a text that is the name of something. -/
theorem oneOf_eq_ok_iff {names : List String} {ofName : String → Option α} :
    oneOf names ofName j = ok a ↔ ∃ s, j = some (.str s) ∧ ofName s = some a := by
  rcases j with _ | (_ | _ | _ | s | _ | _) <;> simp [oneOf, wrongKind]
  cases ofName s <;> simp

/-- A value with a condition on it is one that passes both the check and the condition. -/
theorem must_eq_ok_iff {holds : α → Bool} {message : String} : must check holds message j = ok a ↔ check j = ok a ∧ holds a := by
  unfold must
  dsimp only
  rw [Checked.demand_eq_ok_iff]
  refine and_congr_right fun h => ?_
  rw [h]
  simp [ok]

/-- An explicit `null` stands for no value, everything else is checked. -/
theorem nullable_eq_ok_iff {o : Option α} : nullable check j = ok o ↔
    (j = some .null ∧ o = none) ∨ (j ≠ some .null ∧ ∃ a, check j = ok a ∧ o = some a) := by
  have hmap : (check j).map some = ok o ↔ ∃ a, check j = ok a ∧ o = some a := by
    cases hc : check j with
    | mk value faults => cases value <;> simp [Checked.map, ok, eq_comm, and_comm]
  rcases j with _ | (_ | _ | _ | _ | _ | _) <;> simp [nullable, hmap, eq_comm]

/-- The default stands for a missing value only. -/
theorem orElse_eq_ok_iff {default : α} : orElse check default j = ok a ↔
    (j = none ∧ a = default) ∨ (j ≠ none ∧ check j = ok a) := by
  rcases j with _ | v <;> simp [orElse, eq_comm]

variable {write : α → Json} {xs : List α}

/-- The items of a list are accepted one by one, each for the value that it is written for. -/
theorem items_eq_ok_iff (h : ∀ j a, check (some j) = ok a ↔ j = write a) {items : List Json} {i : Nat} :
    Check.items check i items = ok xs ↔ items = xs.map write := by
  induction items generalizing i xs with
  | nil => cases xs <;> simp [Check.items]
  | cons item rest ih => cases xs <;> simp [Check.items, ih, h]

/-- When a check accepts exactly what is written for a value, the check of a list does so too. -/
theorem list_eq_ok_iff (h : ∀ j a, check (some j) = ok a ↔ j = write a) :
    list check j = ok xs ↔ j = some (.arr (xs.map write)) := by
  rcases j with _ | (_ | _ | _ | _ | _ | _) <;> simp [list, wrongKind, items_eq_ok_iff h]

theorem texts_eq_ok_iff {texts : List String} : list text j = ok texts ↔ j = some (.strings texts) :=
  list_eq_ok_iff fun _ _ => text_eq_ok_iff.trans Option.some_inj

end Check

end QualityGate
