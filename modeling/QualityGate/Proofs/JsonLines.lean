import Mathlib.Data.List.Basic
import Mathlib.Data.List.Infix
import Mathlib.Data.List.TakeWhile
import QualityGate.Json.Parser

/-!
# Lines of JSON texts

No line of a JSON text behind its first one starts with a backtick: in a text there is no line end, and outside of texts no backtick.
So reading does not get past such a line (`Json.tickLine_take`), and a text that has one is not read (`Json.ofText?_of_tickLine`).
-/

namespace QualityGate

namespace Json

/-- Whether a line of a text starts with a backtick, its first line aside. -/
def TickLine (text : List Char) : Prop := ['\n', '\x60'] <:+: text

/-- Whether a text goes on to a rest over characters other than a given one. -/
def Beyond (c : Char) (text rest : List Char) : Prop := ∃ taken, text = taken ++ rest ∧ ∀ d ∈ taken, d ≠ c

namespace Beyond

variable {c d : Char} {text rest more : List Char}

theorem refl (c : Char) (text : List Char) : Beyond c text text := ⟨[], rfl, List.forall_mem_nil _⟩

/-- A text goes on over one more character. -/
theorem cons (hne : d ≠ c) (h : Beyond c text rest) : Beyond c (d :: text) rest := by
  obtain ⟨taken, rfl, hc⟩ := h
  exact ⟨d :: taken, rfl, List.forall_mem_cons.mpr ⟨hne, hc⟩⟩

/-- A text goes on over two stretches. -/
theorem trans (h : Beyond c text rest) (h' : Beyond c rest more) : Beyond c text more := by
  obtain ⟨taken, rfl, hc⟩ := h
  obtain ⟨taken', rfl, hc'⟩ := h'
  exact ⟨taken ++ taken', (List.append_assoc ..).symm, List.forall_mem_append.mpr ⟨hc, hc'⟩⟩

/-- A text goes on over characters that pass a test which the given one fails. -/
theorem dropWhile {test : Char → Bool} (htest : test c = false) (text : List Char) : Beyond c text (text.dropWhile test) := by
  refine ⟨text.takeWhile test, List.takeWhile_append_dropWhile.symm, fun d hd heq => ?_⟩
  rw [← heq, List.mem_takeWhile_imp hd] at htest
  cases htest

end Beyond

namespace TickLine

variable {c : Char} {text rest : List Char}

theorem cons (h : TickLine text) (c : Char) : TickLine (c :: text) := List.infix_cons h

theorem of_cons (h : TickLine (c :: text)) (hc : c ≠ '\n') : TickLine text :=
  (List.infix_cons_iff.mp h).resolve_left fun hprefix => hc (List.cons_prefix_cons.mp hprefix).1.symm

/-- In a line, too, what follows has the line that starts with a backtick. -/
theorem of_beyond (h : TickLine text) (hrest : Beyond '\n' text rest) : TickLine rest := by
  obtain ⟨taken, rfl, hnone⟩ := hrest
  induction taken with
  | nil => exact h
  | cons c taken ih =>
    obtain ⟨hc, htaken⟩ := List.forall_mem_cons.mp hnone
    exact ih htaken (h.of_cons hc)

/-- Behind a line end, a character other than a backtick does not start the line. -/
theorem of_behind_cons (h : TickLine ('\n' :: c :: text)) (htick : c ≠ '\x60') : TickLine (c :: text) :=
  (List.infix_cons_iff.mp h).resolve_left fun hprefix =>
    htick (List.cons_prefix_cons.mp (List.cons_prefix_cons.mp hprefix).2).1.symm

/-- Over characters other than a backtick the line is not got past. -/
theorem behind_of_beyond (h : TickLine ('\n' :: text)) (hrest : Beyond '\x60' text rest) : TickLine ('\n' :: rest) := by
  obtain ⟨taken, rfl, hnone⟩ := hrest
  induction taken with
  | nil => exact h
  | cons c taken ih =>
    obtain ⟨hc, htaken⟩ := List.forall_mem_cons.mp hnone
    have hafter : TickLine (c :: (taken ++ rest)) := h.of_behind_cons hc
    by_cases hline : c = '\n'
    · subst hline
      exact ih htaken hafter
    · exact ih htaken ((hafter.of_cons hline).cons '\n')

end TickLine

/-! ## What reading goes over -/

theorem beyond_skipGap (text : List Char) : Beyond '\x60' text (skipGap text) := Beyond.dropWhile (by decide) text

/-- Over blanks and a character that is no backtick. -/
theorem beyond_of_skipGap {c : Char} {text rest : List Char} (h : skipGap text = c :: rest) (hc : c ≠ '\x60') : Beyond '\x60' text rest :=
  (h ▸ beyond_skipGap text).trans (.cons hc (.refl _ _))

/-- Four digits to the base sixteen are on one line. -/
theorem beyond_takeHex4 {text rest : List Char} {n : Nat} (h : takeHex4 text = some (n, rest)) : Beyond '\n' text rest := by
  unfold takeHex4 at h
  split at h
  · rename_i a b c d rest'
    split at h
    · rename_i ha hb hc hd
      obtain ⟨-, rfl⟩ := Prod.mk.inj (Option.some.inj h)
      have hdigit : ∀ {c : Char} {v : Nat}, Number.digitValue? 16 c = some v → c ≠ '\n' := by
        rintro c v hv rfl
        rw [show Number.digitValue? 16 '\n' = none by decide] at hv
        cases hv
      exact .cons (hdigit ha) (.cons (hdigit hb) (.cons (hdigit hc) (.cons (hdigit hd) (.refl _ _))))
    · cases h
  · cases h

/-- An escaped character is on one line. -/
theorem beyond_takeEscaped {text rest : List Char} {c : Char} (h : takeEscaped text = some (c, rest)) : Beyond '\n' text rest := by
  unfold takeEscaped at h
  split at h
  · cases h
  · rename_i n after hfirst
    refine (beyond_takeHex4 hfirst).trans ?_
    split at h
    · split at h
      · rename_i more
        split at h
        · rename_i m after' hsecond
          split at h
          · obtain ⟨-, rfl⟩ := Prod.mk.inj (Option.some.inj h)
            exact .cons (by decide) (.cons (by decide) (beyond_takeHex4 hsecond))
          · obtain ⟨-, rfl⟩ := Prod.mk.inj (Option.some.inj h)
            exact .refl _ _
        · obtain ⟨-, rfl⟩ := Prod.mk.inj (Option.some.inj h)
          exact .refl _ _
      · obtain ⟨-, rfl⟩ := Prod.mk.inj (Option.some.inj h)
        exact .refl _ _
    · split at h
      · obtain ⟨-, rfl⟩ := Prod.mk.inj (Option.some.inj h)
        exact .refl _ _
      · obtain ⟨-, rfl⟩ := Prod.mk.inj (Option.some.inj h)
        exact .refl _ _

/-- No line ends in a text. -/
theorem beyond_takeString {fuel : Nat} {done text rest : List Char} {s : String} (h : takeString fuel done text = some (s, rest)) :
    Beyond '\n' text rest := by
  induction fuel generalizing done text with
  | zero => cases h
  | succ fuel ih =>
    unfold takeString at h
    split at h
    · cases h
    · obtain ⟨-, rfl⟩ := Prod.mk.inj (Option.some.inj h)
      exact .cons (by decide) (.refl _ _)
    · split at h
      · rename_i hescape
        exact .cons (by decide) (.cons (by decide) ((beyond_takeEscaped hescape).trans (ih h)))
      · cases h
    · rename_i e rest' _
      split at h
      · rename_i hescape
        have hline : e ≠ '\n' := by
          rintro rfl
          cases hescape
        exact .cons (by decide) (.cons hline (ih h))
      · cases h
    · rename_i c rest' _ _ _
      split at h
      · cases h
      · rename_i hplain
        have hline : c ≠ '\n' := by
          rintro rfl
          exact hplain (.inr (by decide))
        exact .cons hline (ih h)

/-- Digits have no backtick. -/
theorem beyond_takeDigits1 {text ds rest : List Char} (h : takeDigits1 text = some (ds, rest)) : Beyond '\x60' text rest := by
  unfold takeDigits1 at h
  dsimp only at h
  split at h
  · cases h
  · obtain ⟨-, rfl⟩ := Prod.mk.inj (Option.some.inj h)
    exact .dropWhile (by decide) text

/-- A fraction has no backtick. -/
theorem beyond_takeFraction {text ds rest : List Char} (h : takeFraction text = some (ds, rest)) : Beyond '\x60' text rest := by
  unfold takeFraction at h
  split at h
  · exact .cons (by decide) (beyond_takeDigits1 h)
  · obtain ⟨-, rfl⟩ := Prod.mk.inj (Option.some.inj h)
    exact .refl _ _

/-- An exponent has no backtick. -/
theorem beyond_takeScale {text rest : List Char} {n : Int} (h : takeScale text = some (n, rest)) : Beyond '\x60' text rest := by
  unfold takeScale at h
  split at h
  · rename_i c more
    split at h
    · rename_i hmark
      have hc : c ≠ '\x60' := by rcases hmark with rfl | rfl <;> decide
      have hsign : Beyond '\x60' more (Number.takeSign more).2 := by
        unfold Number.takeSign
        split
        · exact .cons (by decide) (.refl _ _)
        · exact .cons (by decide) (.refl _ _)
        · exact .refl _ _
      obtain ⟨⟨ds, after⟩, hdigits, heq⟩ := Option.map_eq_some_iff.mp h
      obtain ⟨-, rfl⟩ := Prod.mk.inj heq
      exact .cons hc (hsign.trans (beyond_takeDigits1 hdigits))
    · obtain ⟨-, rfl⟩ := Prod.mk.inj (Option.some.inj h)
      exact .refl _ _
  · obtain ⟨-, rfl⟩ := Prod.mk.inj (Option.some.inj h)
    exact .refl _ _

/-- A number has no backtick. -/
theorem beyond_takeNumber {text rest : List Char} {x : Number} (h : takeNumber text = some (x, rest)) : Beyond '\x60' text rest := by
  unfold takeNumber at h
  split at h
  rename_i negative body heq
  simp only [Option.bind_eq_bind, Option.bind_eq_some_iff] at h
  obtain ⟨⟨whole, afterWhole⟩, hwhole, h⟩ := h
  split at h
  · cases h
  simp only [Option.bind_eq_some_iff] at h
  obtain ⟨⟨fraction, afterFraction⟩, hfraction, ⟨scale, after⟩, hscale, h⟩ := h
  obtain rfl : after = rest := congrArg Prod.snd (Option.some.inj h)
  have hbody : Beyond '\x60' text body := by
    split at heq
    · obtain ⟨-, rfl⟩ := Prod.mk.inj heq
      exact .cons (by decide) (.refl _ _)
    · obtain ⟨-, rfl⟩ := Prod.mk.inj heq
      exact .refl _ _
  exact ((hbody.trans (beyond_takeDigits1 hwhole)).trans (beyond_takeFraction hfraction)).trans (beyond_takeScale hscale)

/-- A word without a backtick has none. -/
theorem beyond_takeWord {word : String} {value j : Json} {text rest : List Char} (hword : '\x60' ∉ word.toList)
    (h : takeWord word value text = some (j, rest)) : Beyond '\x60' text rest := by
  unfold takeWord at h
  split at h
  · rename_i hprefix
    obtain ⟨-, rfl⟩ := Prod.mk.inj (Option.some.inj h)
    obtain ⟨more, rfl⟩ := List.isPrefixOf_iff_prefix.mp hprefix
    exact ⟨word.toList, by rw [← String.length_toList, List.drop_left], fun c hc heq => hword (heq ▸ hc)⟩
  · cases h

/-! What is read with some fuel does not get past a line that starts with a backtick, when what is read with less does not. -/

/-- Behind blanks and a text in quotes. -/
theorem tickLine_takeString {text more rest : List Char} {fuel : Nat} {s : String} (hline : TickLine ('\n' :: text))
    (hquote : skipGap text = '"' :: more) (h : takeString fuel [] more = some (s, rest)) : TickLine ('\n' :: rest) := by
  have hmore : TickLine ('\n' :: '"' :: more) := hquote ▸ hline.behind_of_beyond (beyond_skipGap text)
  exact (((hmore.of_behind_cons (by decide)).of_cons (by decide)).of_beyond (beyond_takeString h)).cons '\n'

/-- No line within a value starts with a backtick, if none does within its items and its fields. -/
theorem tickLine_takeValue {fuel : Nat}
    (items : ∀ {text rest : List Char} {j : Json}, TickLine ('\n' :: text) → takeItems fuel [] text = some (j, rest) →
      TickLine ('\n' :: rest))
    (fields : ∀ {text rest : List Char} {j : Json}, TickLine ('\n' :: text) → takeFields fuel [] text = some (j, rest) →
      TickLine ('\n' :: rest))
    {text rest : List Char} {j : Json} (hline : TickLine ('\n' :: text)) (h : takeValue (fuel + 1) text = some (j, rest)) :
    TickLine ('\n' :: rest) := by
  have hgap := hline.behind_of_beyond (beyond_skipGap text)
  rw [takeValue] at h
  split at h
  · rename_i hquote
    obtain ⟨⟨s, after⟩, hs, hread⟩ := Option.map_eq_some_iff.mp h
    obtain ⟨-, rfl⟩ := Prod.mk.inj hread
    exact tickLine_takeString hline hquote hs
  · rename_i hopen
    have hmore := hline.behind_of_beyond (beyond_of_skipGap hopen (by decide))
    split at h
    · rename_i hclose
      obtain ⟨-, rfl⟩ := Prod.mk.inj (Option.some.inj h)
      exact hmore.behind_of_beyond (beyond_of_skipGap hclose (by decide))
    · exact items hmore h
  · rename_i hopen
    have hmore := hline.behind_of_beyond (beyond_of_skipGap hopen (by decide))
    split at h
    · rename_i hclose
      obtain ⟨-, rfl⟩ := Prod.mk.inj (Option.some.inj h)
      exact hmore.behind_of_beyond (beyond_of_skipGap hclose (by decide))
    · exact fields hmore h
  · rename_i hword
    exact (hword ▸ hgap).behind_of_beyond (beyond_takeWord (by decide) h)
  · rename_i hword
    exact (hword ▸ hgap).behind_of_beyond (beyond_takeWord (by decide) h)
  · rename_i hword
    exact (hword ▸ hgap).behind_of_beyond (beyond_takeWord (by decide) h)
  · obtain ⟨⟨x, after⟩, hnumber, hread⟩ := Option.map_eq_some_iff.mp h
    obtain ⟨-, rfl⟩ := Prod.mk.inj hread
    exact hgap.behind_of_beyond (beyond_takeNumber hnumber)

/-- No line within items starts with a backtick, if none does within each value. -/
theorem tickLine_takeItems {fuel : Nat}
    (value : ∀ {text rest : List Char} {j : Json}, TickLine ('\n' :: text) → takeValue fuel text = some (j, rest) →
      TickLine ('\n' :: rest))
    (items : ∀ {done : List Json} {text rest : List Char} {j : Json}, TickLine ('\n' :: text) →
      takeItems fuel done text = some (j, rest) → TickLine ('\n' :: rest))
    {done : List Json} {text rest : List Char} {j : Json} (hline : TickLine ('\n' :: text))
    (h : takeItems (fuel + 1) done text = some (j, rest)) : TickLine ('\n' :: rest) := by
  rw [takeItems] at h
  split at h
  · cases h
  · rename_i item after hitem
    have hafter := value hline hitem
    split at h
    · rename_i hcomma
      exact items (hafter.behind_of_beyond (beyond_of_skipGap hcomma (by decide))) h
    · rename_i hclose
      obtain ⟨-, rfl⟩ := Prod.mk.inj (Option.some.inj h)
      exact hafter.behind_of_beyond (beyond_of_skipGap hclose (by decide))
    · cases h

/-- No line within fields starts with a backtick, if none does within each value. -/
theorem tickLine_takeFields {fuel : Nat}
    (value : ∀ {text rest : List Char} {j : Json}, TickLine ('\n' :: text) → takeValue fuel text = some (j, rest) →
      TickLine ('\n' :: rest))
    (fields : ∀ {done : Record Json} {text rest : List Char} {j : Json}, TickLine ('\n' :: text) →
      takeFields fuel done text = some (j, rest) → TickLine ('\n' :: rest))
    {done : Record Json} {text rest : List Char} {j : Json} (hline : TickLine ('\n' :: text))
    (h : takeFields (fuel + 1) done text = some (j, rest)) : TickLine ('\n' :: rest) := by
  rw [takeFields] at h
  split at h
  · rename_i hquote
    split at h
    · cases h
    rename_i name after hname
    have hafter := tickLine_takeString hline hquote hname
    split at h
    · rename_i hcolon
      have hmore := hafter.behind_of_beyond (beyond_of_skipGap hcolon (by decide))
      split at h
      · cases h
      · rename_i hvalue
        have hafterValue := value hmore hvalue
        split at h
        · rename_i hcomma
          exact fields (hafterValue.behind_of_beyond (beyond_of_skipGap hcomma (by decide))) h
        · rename_i hclose
          obtain ⟨-, rfl⟩ := Prod.mk.inj (Option.some.inj h)
          exact hafterValue.behind_of_beyond (beyond_of_skipGap hclose (by decide))
        · cases h
    · cases h
  · cases h

/-- Reading a value, items or fields does not get past a line that starts with a backtick. -/
theorem tickLine_take (fuel : Nat) :
    (∀ {text rest : List Char} {j : Json}, TickLine ('\n' :: text) → takeValue fuel text = some (j, rest) →
      TickLine ('\n' :: rest)) ∧
    (∀ {done : List Json} {text rest : List Char} {j : Json}, TickLine ('\n' :: text) →
      takeItems fuel done text = some (j, rest) → TickLine ('\n' :: rest)) ∧
    (∀ {done : Record Json} {text rest : List Char} {j : Json}, TickLine ('\n' :: text) →
      takeFields fuel done text = some (j, rest) → TickLine ('\n' :: rest)) := by
  induction fuel with
  | zero => exact ⟨fun _ => nofun, fun _ => nofun, fun _ => nofun⟩
  | succ fuel ih =>
    obtain ⟨value, items, fields⟩ := ih
    exact ⟨tickLine_takeValue items fields, tickLine_takeItems value items, tickLine_takeFields value fields⟩

/-- A text in which a line starts with a backtick, the first one included, is not read. -/
theorem ofText?_of_tickLine {text : String} (h : TickLine ('\n' :: text.toList)) : ofText? text = none := by
  unfold ofText?
  dsimp only
  split
  · rename_i value rest hread
    have hrest := ((tickLine_take _).1 h hread).behind_of_beyond (beyond_skipGap rest)
    split
    · rename_i hempty
      rw [List.isEmpty_iff.mp hempty] at hrest
      exact absurd hrest.length_le (by decide)
    · rfl
  · rfl

end Json

end QualityGate
