import QualityGate.Json.Printer
import QualityGate.Proofs.DecimalText
import QualityGate.Proofs.Records

/-!
# Reading back JSON text

`Spells` says which texts spell a value, whatever blanks stand between the tokens; such a text is read as the value
(`ofText?_spells`). Both ways to write a value spell it, up to what cannot be written: a number that is not finite becomes null, and
of a field that is given twice the last value counts (`written`).
-/

namespace QualityGate

namespace Json

open Number (Representable StopsNumeral)

/-! ## What a text spells -/

/-- Blanks between tokens. -/
def Gap (text : List Char) : Prop := ∀ c ∈ text, isGap c

instance (text : List Char) : Decidable (Gap text) := List.decidableBAll (isGap · = true) text

mutual

/-- A text is one of the ways to write a value. -/
inductive Spells : Json → List Char → Prop
  | null : Spells .null "null".toList
  | true : Spells (.bool true) "true".toList
  | false : Spells (.bool false) "false".toList
  | num {q : Rat} (h : Representable q) : Spells (.num (.finite q)) (Number.finite q).text.toList
  | str (s : String) : Spells (.str s) (quoted s)
  | noItems {gap : List Char} (h : Gap gap) : Spells (.arr []) ('[' :: (gap ++ [']']))
  | items {items : List Json} {text : List Char} (h : SpellsItems items text) : Spells (.arr items) ('[' :: (text ++ [']']))
  | noFields {gap : List Char} (h : Gap gap) : Spells (.obj []) ('\x7b' :: (gap ++ ['\x7d']))
  | fields {fields : List (String × Json)} {text : List Char} (h : SpellsFields fields text) :
      Spells (.obj (Record.ofPairs fields)) ('\x7b' :: (text ++ ['\x7d']))

/-- A text is one of the ways to write some items, at least one. -/
inductive SpellsItems : List Json → List Char → Prop
  | last {item : Json} {before text after : List Char} (hbefore : Gap before) (hitem : Spells item text) (hafter : Gap after) :
      SpellsItems [item] (before ++ text ++ after)
  | cons {item : Json} {rest : List Json} {before text after more : List Char} (hbefore : Gap before) (hitem : Spells item text)
      (hafter : Gap after) (hrest : SpellsItems rest more) : SpellsItems (item :: rest) (before ++ text ++ after ++ ',' :: more)

/-- A text is one of the ways to write some fields, at least one. -/
inductive SpellsFields : List (String × Json) → List Char → Prop
  | last {name : String} {value : Json} {start colon before text after : List Char} (hstart : Gap start) (hcolon : Gap colon)
      (hbefore : Gap before) (hvalue : Spells value text) (hafter : Gap after) :
      SpellsFields [(name, value)] (start ++ quoted name ++ colon ++ ':' :: (before ++ text ++ after))
  | cons {name : String} {value : Json} {rest : List (String × Json)} {start colon before text after more : List Char}
      (hstart : Gap start) (hcolon : Gap colon) (hbefore : Gap before) (hvalue : Spells value text) (hafter : Gap after)
      (hrest : SpellsFields rest more) :
      SpellsFields ((name, value) :: rest) (start ++ quoted name ++ colon ++ ':' :: (before ++ text ++ after ++ ',' :: more))

end

theorem gap_nil : Gap [] := nofun

/-! ## Reading texts -/

/-- A gap before a text is skipped. -/
theorem skipGap_append {gap : List Char} (h : Gap gap) (text : List Char) : skipGap (gap ++ text) = skipGap text := by
  unfold skipGap
  exact List.dropWhile_append_of_pos h

theorem skipGap_cons {c : Char} (h : ¬ isGap c) (text : List Char) : skipGap (c :: text) = c :: text :=
  List.dropWhile_cons_of_neg h

/-- A number from 0 to 15 is the value of its digit. -/
theorem digitValue?_hexDigit : ∀ n < 16, Number.digitValue? 16 (hexDigit n) = some n := by decide

/-- Four digits to the base sixteen are read as the number below 256 that they write. -/
theorem takeHex4_hexDigits {n : Nat} (h : n < 256) (rest : List Char) :
    takeHex4 ('0' :: '0' :: hexDigit (n / 16) :: hexDigit (n % 16) :: rest) = some (n, rest) := by
  have hzero : Number.digitValue? 16 '0' = some 0 := by decide
  unfold takeHex4
  dsimp only
  rw [hzero, digitValue?_hexDigit (n / 16) (by omega), digitValue?_hexDigit (n % 16) (by omega)]
  dsimp only
  rw [show ((0 * 16 + 0) * 16 + n / 16) * 16 + n % 16 = n by omega]

/-- An escaped control character is read as itself. -/
theorem takeEscaped_control {c : Char} (h : c.toNat < 0x20) (rest : List Char) :
    takeEscaped ('0' :: '0' :: hexDigit (c.toNat / 16) :: hexDigit (c.toNat % 16) :: rest) = some (c, rest) := by
  unfold takeEscaped
  rw [takeHex4_hexDigits (by omega)]
  dsimp only
  rw [if_neg (by omega), if_neg (by omega), Char.ofNat_toNat]

/-- A character that needs no escape is read as itself. -/
theorem takeString_plain {c : Char} (hquote : c ≠ '"') (hslash : c ≠ '\\') (hcontrol : ¬ c.toNat < 0x20) (fuel : Nat)
    (done rest : List Char) : takeString (fuel + 1) done (c :: rest) = takeString fuel (c :: done) rest := by
  rw [takeString.eq_def]
  dsimp only
  split
  · rename_i heq; cases heq
  · rename_i heq; cases heq; exact absurd rfl hquote
  · rename_i heq; cases heq; exact absurd rfl hslash
  · rename_i heq; cases heq; exact absurd rfl hslash
  · rename_i heq
    cases heq
    rw [if_neg (not_or.mpr ⟨hslash, hcontrol⟩)]

/-- A character between quotes is read as the character. -/
theorem takeString_escape (fuel : Nat) (done rest : List Char) (c : Char) :
    takeString (fuel + 1) done (escape c ++ rest) = takeString fuel (c :: done) rest := by
  unfold escape
  split
  · rename_i h; subst h; rfl
  rename_i hquote
  split
  · rename_i h; subst h; rfl
  rename_i hslash
  iterate 5
    split
    · rename_i h; subst h; rfl
  split
  · rename_i hcontrol
    simp only [List.cons_append, List.nil_append, takeString, takeEscaped_control hcontrol]
  · rename_i hplain
    exact takeString_plain hquote hslash hplain fuel done rest

/-- The characters of a string are read back from their escaped form, up to the closing quote. -/
theorem takeString_chars (s : List Char) (fuel : Nat) (done rest : List Char) (h : s.length < fuel) :
    takeString fuel done (s.flatMap escape ++ '"' :: rest) = some (String.ofList (done.reverse ++ s), rest) := by
  induction s generalizing fuel done with
  | nil =>
    obtain ⟨n, rfl⟩ : ∃ n, fuel = n + 1 := ⟨fuel - 1, by simp at h; omega⟩
    simp [takeString]
  | cons c s ih =>
    obtain ⟨n, rfl⟩ : ∃ n, fuel = n + 1 := ⟨fuel - 1, by simp at h; omega⟩
    rw [List.flatMap_cons, List.append_assoc, takeString_escape, ih n (c :: done) (by simpa using h)]
    simp

/-- A text between quotes is read as the text. -/
theorem takeString_quoted (s : String) (rest : List Char) :
    takeString ((s.toList.flatMap escape ++ '"' :: rest).length + 1) [] (s.toList.flatMap escape ++ '"' :: rest) = some (s, rest) := by
  have hgrows : ∀ cs : List Char, cs.length ≤ (cs.flatMap escape).length := by
    intro cs
    induction cs with
    | nil => exact le_rfl
    | cons c cs ih =>
      have hone : 1 ≤ (escape c).length := by
        unfold escape
        repeat' split
        all_goals simp
      simp only [List.flatMap_cons, List.length_cons, List.length_append]
      omega
  have hlength := hgrows s.toList
  rw [takeString_chars]
  · simp
  · simp only [List.length_append, List.length_cons]
    omega

/-- A gap before a value is skipped. -/
theorem takeValue_gap {gap : List Char} (h : Gap gap) (fuel : Nat) (text : List Char) :
    takeValue fuel (gap ++ text) = takeValue fuel text := by
  cases fuel with
  | zero => rfl
  | succ fuel => rw [takeValue, takeValue, skipGap_append h]

/-- A gap before the next field is skipped. -/
theorem takeFields_gap {gap : List Char} (h : Gap gap) (fuel : Nat) (done : Record Json) (text : List Char) :
    takeFields fuel done (gap ++ text) = takeFields fuel done text := by
  cases fuel with
  | zero => rfl
  | succ fuel => rw [takeFields, takeFields, skipGap_append h]

/-- A quoted string is read as that string. -/
theorem takeValue_quoted (s : String) (fuel : Nat) (rest : List Char) :
    takeValue (fuel + 1) (quoted s ++ rest) = some (.str s, rest) := by
  have hread : takeValue (fuel + 1) (quoted s ++ rest) =
      (takeString ((s.toList.flatMap escape ++ ['"'] ++ rest).length + 1) [] (s.toList.flatMap escape ++ ['"'] ++ rest)).map
        fun read => (.str read.1, read.2) := rfl
  rw [hread, List.append_assoc, List.singleton_append, takeString_quoted]
  rfl

/-- A numeral starts with a digit or a minus. -/
theorem head_of_takeNumber {c : Char} {text : List Char} {found : Number × List Char} (h : takeNumber (c :: text) = some found) :
    c = '-' ∨ c.isDigit := by
  by_contra hother
  rw [not_or] at hother
  have hnone : takeDigits1 (c :: text) = none := by
    unfold takeDigits1
    rw [List.takeWhile_cons_of_neg hother.2]
    rfl
  unfold takeNumber at h
  split at h
  rename_i heq
  split at heq
  · rename_i hcons
    cases hcons
    exact hother.1 rfl
  · cases heq
    rw [hnone] at h
    cases h

/-- Where a number can be taken, the value is that number. -/
theorem takeValue_number {text rest : List Char} {x : Number} (h : takeNumber text = some (x, rest)) (fuel : Nat) :
    takeValue (fuel + 1) text = some (.num x, rest) := by
  cases text with
  | nil => cases h
  | cons c text =>
    have hhead := head_of_takeNumber h
    have hgap : ¬ isGap c := by
      rintro hgap
      unfold isGap at hgap
      rcases hhead with rfl | hdigit
      · exact absurd hgap (by decide)
      · simp only [Bool.or_eq_true, decide_eq_true_eq] at hgap
        rcases hgap with ((rfl | rfl) | rfl) | rfl <;> exact absurd hdigit (by decide)
    rw [takeValue, skipGap_cons hgap]
    have hno : ∀ d : Char, (d ≠ '-' ∧ ¬ d.isDigit) → c ≠ d := by
      rintro d ⟨hminus, hdigit⟩ rfl
      exact hhead.elim hminus hdigit
    split
    · rename_i heq; exact absurd (List.cons.inj heq).1 (hno '"' (by decide))
    · rename_i heq; exact absurd (List.cons.inj heq).1 (hno '[' (by decide))
    · rename_i heq; exact absurd (List.cons.inj heq).1 (hno '\x7b' (by decide))
    · rename_i heq; exact absurd (List.cons.inj heq).1 (hno 't' (by decide))
    · rename_i heq; exact absurd (List.cons.inj heq).1 (hno 'f' (by decide))
    · rename_i heq; exact absurd (List.cons.inj heq).1 (hno 'n' (by decide))
    · rw [h]
      rfl

/-- A numeral stops at a gap, and at what stops it behind the gap. -/
theorem stopsNumeral_gap {gap rest : List Char} (h : Gap gap) (hrest : StopsNumeral rest) : StopsNumeral (gap ++ rest) := by
  cases gap with
  | nil => exact hrest
  | cons c gap =>
    intro d hd
    obtain rfl : c = d := Option.some.inj hd
    have hc := h c (.head _)
    simp only [isGap, Bool.or_eq_true, decide_eq_true_eq] at hc
    rcases hc with ((rfl | rfl) | rfl) | rfl <;> decide

/-- A numeral stops at a character that no numeral goes on with. -/
theorem stopsNumeral_cons {c : Char} (h : ¬ c.isDigit ∧ c ≠ '.' ∧ c ≠ 'e' ∧ c ≠ 'E') (rest : List Char) :
    StopsNumeral (c :: rest) := by
  intro d hd
  obtain rfl : c = d := Option.some.inj hd
  exact h

/-- What is written of a value starts with no blank and closes nothing. -/
theorem Spells.exists_head {j : Json} {text : List Char} (h : Spells j text) :
    ∃ c more, text = c :: more ∧ ¬ isGap c ∧ c ≠ ']' := by
  cases h with
  | null => exact ⟨'n', _, rfl, by decide, by decide⟩
  | true => exact ⟨'t', _, rfl, by decide, by decide⟩
  | false => exact ⟨'f', _, rfl, by decide, by decide⟩
  | @num q hq =>
    have hread : takeNumber ((Number.finite q).text.toList ++ []) = some (.finite q, []) := takeNumber_text hq nofun
    rw [List.append_nil] at hread
    generalize (Number.finite q).text.toList = text at hread ⊢
    cases text with
    | nil => cases hread
    | cons c more =>
      refine ⟨c, more, rfl, ?_⟩
      rcases head_of_takeNumber hread with rfl | hdigit
      · decide
      · refine ⟨?_, fun hclose => absurd (hclose ▸ hdigit) (by decide)⟩
        simp only [isGap, Bool.or_eq_true, decide_eq_true_eq]
        rintro (((rfl | rfl) | rfl) | rfl) <;> exact absurd hdigit (by decide)
  | str s => exact ⟨'"', _, rfl, by decide, by decide⟩
  | noItems _ => exact ⟨'[', _, rfl, by decide, by decide⟩
  | items _ => exact ⟨'[', _, rfl, by decide, by decide⟩
  | noFields _ => exact ⟨'\x7b', _, rfl, by decide, by decide⟩
  | fields _ => exact ⟨'\x7b', _, rfl, by decide, by decide⟩

/-- Items do not start with the end of a list. -/
theorem SpellsItems.exists_head {items : List Json} {text : List Char} (h : SpellsItems items text) (rest : List Char) :
    ∃ c more, skipGap (text ++ rest) = c :: more ∧ c ≠ ']' := by
  cases h with
  | @last _ _ _ after hbefore hitem _ =>
    obtain ⟨c, more, rfl, hgap, hclose⟩ := hitem.exists_head
    refine ⟨c, more ++ (after ++ rest), ?_, hclose⟩
    rw [List.append_assoc, List.append_assoc, skipGap_append hbefore, List.cons_append, skipGap_cons hgap]
  | @cons _ _ _ _ after others hbefore hitem _ _ =>
    obtain ⟨c, more, rfl, hgap, hclose⟩ := hitem.exists_head
    refine ⟨c, more ++ (after ++ (',' :: others ++ rest)), ?_, hclose⟩
    rw [List.append_assoc, List.append_assoc, List.append_assoc, skipGap_append hbefore, List.cons_append, skipGap_cons hgap]

/-- Fields start with a quote. -/
theorem SpellsFields.exists_head {fields : List (String × Json)} {text : List Char} (h : SpellsFields fields text)
    (rest : List Char) : ∃ more, skipGap (text ++ rest) = '"' :: more := by
  cases h with
  | last hstart _ _ _ _ =>
    rw [List.append_assoc, List.append_assoc, List.append_assoc, skipGap_append hstart]
    exact ⟨_, skipGap_cons (by decide) _⟩
  | cons hstart _ _ _ _ _ =>
    rw [List.append_assoc, List.append_assoc, List.append_assoc, skipGap_append hstart]
    exact ⟨_, skipGap_cons (by decide) _⟩

/-- A bracket opens a list, which is empty or has its items taken. -/
theorem takeValue_bracket (fuel : Nat) (text : List Char) : takeValue (fuel + 1) ('[' :: text) =
    match skipGap text with
    | ']' :: after => some (arr [], after)
    | _ => takeItems fuel [] text := rfl

/-- A brace opens an object, which is empty or has its fields taken. -/
theorem takeValue_brace (fuel : Nat) (text : List Char) : takeValue (fuel + 1) ('\x7b' :: text) =
    match skipGap text with
    | '\x7d' :: after => some (obj [], after)
    | _ => takeFields fuel [] text := rfl

/-- A list that does not close at once has items. -/
theorem takeValue_list {text : List Char} (fuel : Nat) (h : ∃ c more, skipGap text = c :: more ∧ c ≠ ']') :
    takeValue (fuel + 1) ('[' :: text) = takeItems fuel [] text := by
  obtain ⟨c, more, hskip, hclose⟩ := h
  rw [takeValue_bracket, hskip]
  split
  · rename_i heq
    exact absurd (List.cons.inj heq).1 hclose
  · rfl

/-- An object whose first name opens has fields. -/
theorem takeValue_object {text : List Char} (fuel : Nat) (h : ∃ more, skipGap text = '"' :: more) :
    takeValue (fuel + 1) ('\x7b' :: text) = takeFields fuel [] text := by
  obtain ⟨more, hskip⟩ := h
  rw [takeValue_brace, hskip]
  rfl

/-- Nothing but a gap stands in an empty list or object. -/
theorem takeValue_empty {gap : List Char} (h : Gap gap) (fuel : Nat) (rest : List Char) :
    takeValue (fuel + 1) ('[' :: (gap ++ ']' :: rest)) = some (arr [], rest) ∧
      takeValue (fuel + 1) ('\x7b' :: (gap ++ '\x7d' :: rest)) = some (obj [], rest) := by
  rw [takeValue_bracket, takeValue_brace, skipGap_append h, skipGap_append h]
  exact ⟨rfl, rfl⟩

/-- A field is read up to its value. -/
theorem takeFields_field {start colon : List Char} (name : String) (fuel : Nat) (done : Record Json) (text : List Char)
    (hstart : Gap start) (hcolon : Gap colon) : takeFields (fuel + 1) done (start ++ quoted name ++ colon ++ ':' :: text) =
      match takeValue fuel text with
      | none => none
      | some (value, afterValue) =>
        match skipGap afterValue with
        | ',' :: remaining => takeFields fuel (Record.set done name value) remaining
        | '\x7d' :: remaining => some (obj (Record.set done name value), remaining)
        | _ => none := by
  rw [List.append_assoc, List.append_assoc, takeFields_gap hstart, takeFields]
  have hopen : skipGap (quoted name ++ (colon ++ ':' :: text)) =
      '"' :: (name.toList.flatMap escape ++ '"' :: (colon ++ ':' :: text)) := by
    rw [quoted, List.cons_append, skipGap_cons (by decide), List.append_assoc, List.singleton_append]
  rw [hopen]
  simp only [takeString_quoted]
  rw [skipGap_append hcolon, skipGap_cons (by decide)]
  rfl

mutual

/-- A text of a value is read as the value. -/
theorem takeValue_spells {j : Json} {text : List Char} (h : Spells j text) {fuel : Nat} {rest : List Char}
    (hfuel : text.length < fuel) (hrest : StopsNumeral rest) : takeValue fuel (text ++ rest) = some (j, rest) := by
  obtain ⟨fuel, rfl⟩ : ∃ n, fuel = n + 1 := ⟨fuel - 1, by omega⟩
  match h with
  | .null => rfl
  | .true => rfl
  | .false => rfl
  | .num hq => exact takeValue_number (takeNumber_text hq hrest) fuel
  | .str s => exact takeValue_quoted s fuel rest
  | .noItems hgap =>
    rw [List.cons_append, List.append_assoc]
    exact (takeValue_empty hgap fuel rest).1
  | .items hitems =>
    simp only [List.length_cons, List.length_append, List.length_nil] at hfuel
    rw [List.cons_append, List.append_assoc, takeValue_list fuel (hitems.exists_head _)]
    exact takeItems_spells hitems (by omega)
  | .noFields hgap =>
    rw [List.cons_append, List.append_assoc]
    exact (takeValue_empty hgap fuel rest).2
  | .fields hfields =>
    simp only [List.length_cons, List.length_append, List.length_nil] at hfuel
    rw [List.cons_append, List.append_assoc, takeValue_object fuel (hfields.exists_head _)]
    exact takeFields_spells hfields (by omega)

/-- The items that a text spells are taken one by one, up to the closing bracket. -/
theorem takeItems_spells {items : List Json} {text : List Char} (h : SpellsItems items text) {fuel : Nat} {done : List Json}
    {rest : List Char} (hfuel : text.length + 1 < fuel) :
    takeItems fuel done (text ++ ']' :: rest) = some (.arr (done.reverse ++ items), rest) := by
  obtain ⟨fuel, rfl⟩ : ∃ n, fuel = n + 1 := ⟨fuel - 1, by omega⟩
  match h with
  | .last hbefore hitem hafter =>
    simp only [List.length_append] at hfuel
    rw [takeItems, List.append_assoc, List.append_assoc, takeValue_gap hbefore, takeValue_spells hitem (by omega)
      (stopsNumeral_gap hafter (stopsNumeral_cons (by decide) _))]
    dsimp only
    rw [skipGap_append hafter, skipGap_cons (by decide)]
    simp
  | .cons hbefore hitem hafter hmore =>
    simp only [List.length_append, List.length_cons] at hfuel
    rw [takeItems, List.append_assoc, List.append_assoc, List.append_assoc, List.cons_append, takeValue_gap hbefore,
      takeValue_spells hitem (by omega) (stopsNumeral_gap hafter (stopsNumeral_cons (by decide) _))]
    dsimp only
    rw [skipGap_append hafter, skipGap_cons (by decide)]
    refine (takeItems_spells hmore (by omega)).trans ?_
    simp

/-- The fields that a text spells are taken one by one, up to the closing brace; a later field takes the place of one of its name. -/
theorem takeFields_spells {fields : List (String × Json)} {text : List Char} (h : SpellsFields fields text) {fuel : Nat}
    {done : Record Json} {rest : List Char} (hfuel : text.length + 1 < fuel) :
    takeFields fuel done (text ++ '\x7d' :: rest) =
      some (.obj (fields.foldl (fun r (name, value) => Record.set r name value) done), rest) := by
  obtain ⟨fuel, rfl⟩ : ∃ n, fuel = n + 1 := ⟨fuel - 1, by omega⟩
  match h with
  | .last hstart hcolon hbefore hvalue hafter =>
    simp only [List.length_append, List.length_cons] at hfuel
    rw [List.append_assoc, List.cons_append, takeFields_field _ _ _ _ hstart hcolon, List.append_assoc, List.append_assoc,
      takeValue_gap hbefore, takeValue_spells hvalue (by omega) (stopsNumeral_gap hafter (stopsNumeral_cons (by decide) _))]
    dsimp only
    rw [skipGap_append hafter, skipGap_cons (by decide)]
    rfl
  | .cons hstart hcolon hbefore hvalue hafter hmore =>
    simp only [List.length_append, List.length_cons] at hfuel
    rw [List.append_assoc, List.cons_append, takeFields_field _ _ _ _ hstart hcolon, List.append_assoc, List.append_assoc,
      List.append_assoc, List.cons_append, takeValue_gap hbefore, takeValue_spells hvalue (by omega)
        (stopsNumeral_gap hafter (stopsNumeral_cons (by decide) _))]
    dsimp only
    rw [skipGap_append hafter, skipGap_cons (by decide)]
    exact takeFields_spells hmore (by omega)

end

/-- A text of a value, with blanks around it, is read as the value. -/
theorem ofText?_spells {j : Json} {before text after : List Char} (hbefore : Gap before) (h : Spells j text) (hafter : Gap after) :
    ofText? (String.ofList (before ++ (text ++ after))) = some j := by
  have hstop : StopsNumeral after := by
    rw [← List.append_nil after]
    exact stopsNumeral_gap hafter nofun
  have hread : takeValue ((before ++ (text ++ after)).length + 1) (text ++ after) = some (j, after) :=
    takeValue_spells h (by simp only [List.length_append]; omega) hstop
  have hgap : skipGap after = [] := by
    have := skipGap_append hafter []
    rwa [List.append_nil] at this
  unfold ofText?
  dsimp only
  rw [String.toList_ofList, takeValue_gap hbefore, hread]
  dsimp only
  rw [hgap]
  rfl

/-! ## What is written -/

mutual

/-- The value that a value is written as: a number that is not finite is written as null, and a field that is given twice once. -/
def written : Json → Json
  | num x => if x.isFinite then num x else null
  | arr items => arr (writtenItems items)
  | obj fields => obj (Record.ofPairs (writtenFields fields))
  | other => other

def writtenItems : List Json → List Json
  | [] => []
  | item :: rest => written item :: writtenItems rest

def writtenFields : List (String × Json) → List (String × Json)
  | [] => []
  | (name, value) :: rest => (name, written value) :: writtenFields rest

end

mutual

/-- The numbers in a value are floating-point numbers. -/
def Rounded : Json → Prop
  | num x => x.IsRounded
  | arr items => RoundedItems items
  | obj fields => RoundedFields fields
  | _ => True

def RoundedItems : List Json → Prop
  | [] => True
  | item :: rest => Rounded item ∧ RoundedItems rest

def RoundedFields : List (String × Json) → Prop
  | [] => True
  | (_, value) :: rest => Rounded value ∧ RoundedFields rest

end

mutual

/-- Whether the numbers in a value are floating-point numbers can be decided. -/
def decideRounded : (j : Json) → Decidable j.Rounded
  | num x => inferInstanceAs (Decidable x.IsRounded)
  | arr items => decideRoundedItems items
  | obj fields => decideRoundedFields fields
  | null | bool _ | str _ => isTrue trivial

def decideRoundedItems : (items : List Json) → Decidable (RoundedItems items)
  | [] => isTrue trivial
  | item :: rest => @instDecidableAnd _ _ (decideRounded item) (decideRoundedItems rest)

def decideRoundedFields : (fields : List (String × Json)) → Decidable (RoundedFields fields)
  | [] => isTrue trivial
  | (_, value) :: rest => @instDecidableAnd _ _ (decideRounded value) (decideRoundedFields rest)

end

instance (j : Json) : Decidable j.Rounded := j.decideRounded

/-- A text is a field's name, a colon and its value. -/
def SpellsField (field : String × Json) (piece : List Char) : Prop :=
  ∃ gap text, Gap gap ∧ Spells field.2 text ∧ piece = quoted field.1 ++ ':' :: (gap ++ text)

/-- Pieces with a separator between them, from the first on. -/
theorem separated_cons_cons (separator p q : List Char) (pieces : List (List Char)) :
    separated separator (p :: q :: pieces) = p ++ (separator ++ separated separator (q :: pieces)) := by
  simp [separated, List.intercalate]

/-- Pieces that spell items, with commas between them, spell these items in order. -/
theorem spellsItems_separated {before after : List Char} (hbefore : Gap before) (hafter : Gap after) {items : List Json}
    {pieces : List (List Char)} (h : List.Forall₂ Spells items pieces) (hne : pieces ≠ []) :
    SpellsItems items (before ++ separated (',' :: before) pieces ++ after) := by
  induction h with
  | nil => exact absurd rfl hne
  | @cons item piece items pieces hitem hrest ih =>
    cases hrest with
    | nil =>
      have hone : separated (',' :: before) [piece] = piece := by simp [separated, List.intercalate]
      rw [hone]
      exact .last hbefore hitem hafter
    | cons hnext hmore =>
      rw [separated_cons_cons]
      have := SpellsItems.cons hbefore hitem gap_nil (ih (List.cons_ne_nil _ _))
      simpa using this

/-- Pieces that spell fields, with commas between them, spell these fields in order. -/
theorem spellsFields_separated {before after : List Char} (hbefore : Gap before) (hafter : Gap after)
    {fields : List (String × Json)} {pieces : List (List Char)} (h : List.Forall₂ SpellsField fields pieces) (hne : pieces ≠ []) :
    SpellsFields fields (before ++ separated (',' :: before) pieces ++ after) := by
  induction h with
  | nil => exact absurd rfl hne
  | @cons field piece fields pieces hfield hrest ih =>
    obtain ⟨gap, text, hgap, htext, rfl⟩ := hfield
    cases hrest with
    | nil =>
      have hone : ∀ piece, separated (',' :: before) [piece] = piece := by simp [separated, List.intercalate]
      rw [hone]
      have : SpellsFields [field] _ := .last hbefore gap_nil hgap htext hafter
      simpa using this
    | cons hnext hmore =>
      rw [separated_cons_cons]
      have : SpellsFields (field :: _) _ := .cons hbefore gap_nil hgap htext gap_nil (ih (List.cons_ne_nil _ _))
      simpa using this

/-- A rounded number is spelled by its numeral, or by `null` where it is none. -/
theorem spells_numeral {x : Number} (h : x.IsRounded) : Spells (written (.num x)) (numeral x) := by
  cases x with
  | finite q => exact .num (h q rfl)
  | nan => exact .null
  | infinite negative => exact .null

/-- A list is spelled by its items within brackets, however they are laid out. -/
theorem spells_list {before after : List Char} (hbefore : Gap before) (hafter : Gap after) {items : List Json}
    {pieces : List (List Char)} (h : List.Forall₂ Spells items pieces) (hne : pieces ≠ []) :
    Spells (.arr items) ('[' :: (before ++ separated (',' :: before) pieces ++ after ++ [']'])) :=
  .items (spellsItems_separated hbefore hafter h hne)

/-- An object is spelled by its fields within braces, however they are laid out. -/
theorem spells_object {before after : List Char} (hbefore : Gap before) (hafter : Gap after) {fields : List (String × Json)}
    {pieces : List (List Char)} (h : List.Forall₂ SpellsField fields pieces) (hne : pieces ≠ []) :
    Spells (.obj (Record.ofPairs fields)) ('\x7b' :: (before ++ separated (',' :: before) pieces ++ after ++ ['\x7d'])) :=
  .fields (spellsFields_separated hbefore hafter h hne)

mutual

/-- A value with no blanks in its text is read as what is written of it. -/
theorem spells_compact : ∀ j : Json, j.Rounded → Spells j.written j.compactChars
  | .null, _ => .null
  | .bool true, _ => .true
  | .bool false, _ => .false
  | .num _, h => spells_numeral h
  | .str s, _ => .str s
  | .arr [], _ => .noItems gap_nil
  | .arr (item :: rest), h => by
    have := spells_list gap_nil gap_nil (spells_compactItems (item :: rest) h) (List.cons_ne_nil _ _)
    rw [List.nil_append, List.append_nil] at this
    exact this
  | .obj [], _ => .noFields gap_nil
  | .obj ((name, value) :: rest), h => by
    have := spells_object gap_nil gap_nil (spells_compactFields ((name, value) :: rest) h)
      (List.cons_ne_nil _ _)
    rw [List.nil_append, List.append_nil] at this
    exact this

/-- The items that are printed on one line spell the items that are written. -/
theorem spells_compactItems : ∀ items : List Json, RoundedItems items → List.Forall₂ Spells (writtenItems items) (compactItems items)
  | [], _ => .nil
  | item :: rest, h => .cons (spells_compact item h.1) (spells_compactItems rest h.2)

/-- The fields that are printed on one line spell the fields that are written. -/
theorem spells_compactFields : ∀ fields : List (String × Json), RoundedFields fields →
    List.Forall₂ SpellsField (writtenFields fields) (compactFields fields)
  | [], _ => .nil
  | (_, value) :: rest, h =>
    .cons ⟨[], compactChars value, nofun, spells_compact value h.1, rfl⟩ (spells_compactFields rest h.2)

end

/-- A line break with its indentation is a gap. -/
theorem gap_newLine (level : Nat) : Gap (newLine level) := by
  intro c hc
  rcases List.mem_cons.mp hc with rfl | hc
  · decide
  · rw [List.eq_of_mem_replicate hc]
    decide

mutual

/-- A value with one item per line in its text is read as what is written of it. -/
theorem spells_pretty (level : Nat) : ∀ j : Json, j.Rounded → Spells j.written (j.prettyChars level)
  | .null, _ => .null
  | .bool true, _ => .true
  | .bool false, _ => .false
  | .num _, h => spells_numeral h
  | .str s, _ => .str s
  | .arr [], _ => .noItems gap_nil
  | .arr (item :: rest), h =>
    spells_list (gap_newLine (level + 1)) (gap_newLine level) (spells_prettyItems (level + 1) (item :: rest) h)
      (List.cons_ne_nil _ _)
  | .obj [], _ => .noFields gap_nil
  | .obj (field :: rest), h =>
    spells_object (gap_newLine (level + 1)) (gap_newLine level) (spells_prettyFields (level + 1) (field :: rest) h)
      (List.cons_ne_nil _ _)

/-- The items that are printed on lines of their own spell the items that are written. -/
theorem spells_prettyItems (level : Nat) : ∀ items : List Json, RoundedItems items →
    List.Forall₂ Spells (writtenItems items) (prettyItems level items)
  | [], _ => .nil
  | item :: rest, h => .cons (spells_pretty level item h.1) (spells_prettyItems level rest h.2)

/-- The fields that are printed on lines of their own spell the fields that are written. -/
theorem spells_prettyFields (level : Nat) : ∀ fields : List (String × Json), RoundedFields fields →
    List.Forall₂ SpellsField (writtenFields fields) (prettyFields level fields)
  | [], _ => .nil
  | (_, value) :: rest, h =>
    .cons ⟨[' '], prettyChars level value, by decide, spells_pretty level value h.1, rfl⟩ (spells_prettyFields level rest h.2)

end

/-- The text of a value with no blanks is read as what is written of the value. -/
theorem ofText?_compact {j : Json} (h : j.Rounded) : ofText? j.compact = some j.written := by
  have := ofText?_spells gap_nil (spells_compact j h) gap_nil
  simpa [compact] using this

/-- The text of a value with one item per line, and a line end, is read as what is written of the value. -/
theorem ofText?_pretty {j : Json} (h : j.Rounded) : ofText? (j.pretty ++ "\n") = some j.written := by
  have hend : Gap ['\n'] := by decide
  have := ofText?_spells gap_nil (spells_pretty 0 j h) hend
  simpa [pretty, String.ofList_append] using this

/-! ## The numbers that are read -/

/-- The numbers of a list are rounded when those of each item are. -/
theorem roundedItems_iff {items : List Json} : RoundedItems items ↔ ∀ item ∈ items, item.Rounded := by
  induction items with
  | nil => simp [RoundedItems]
  | cons item rest ih => simp [RoundedItems, ih]

/-- The numbers of an object are rounded when those of each field are. -/
theorem roundedFields_iff {fields : List (String × Json)} : RoundedFields fields ↔ ∀ field ∈ fields, field.2.Rounded := by
  induction fields with
  | nil => simp [RoundedFields]
  | cons field rest ih => simp [RoundedFields, ih]

/-- A number that is taken from a text is rounded. -/
theorem isRounded_takeNumber {text rest : List Char} {x : Number} (h : takeNumber text = some (x, rest)) : x.IsRounded := by
  unfold takeNumber at h
  split at h
  simp only [Option.bind_eq_bind, Option.bind_eq_some_iff] at h
  obtain ⟨⟨whole, afterWhole⟩, -, h⟩ := h
  split at h
  · cases h
  simp only [Option.bind_eq_some_iff] at h
  obtain ⟨⟨fraction, afterFraction⟩, -, ⟨scale, after⟩, -, h⟩ := h
  have hx := congrArg Prod.fst (Option.some.inj h)
  dsimp only at hx
  rw [← hx]
  split
  · exact (Number.isRounded_ofScaled _ _).neg
  · exact Number.isRounded_ofScaled _ _

/-- A word stands for one value only. -/
theorem eq_of_takeWord {word : String} {value j : Json} {text rest : List Char} (h : takeWord word value text = some (j, rest)) :
    j = value := by
  unfold takeWord at h
  split at h
  · cases h
    rfl
  · cases h

/-- A rounded value in a field leaves the numbers of the object rounded. -/
theorem roundedFields_set {fields : Record Json} {value : Json} (h : RoundedFields fields) (hvalue : value.Rounded) (name : String) :
    RoundedFields (fields.set name value) := by
  rw [roundedFields_iff] at h ⊢
  intro field hfield
  rcases Record.mem_set hfield with rfl | hmem
  · exact hvalue
  · exact h field hmem

/-! What is read with some fuel holds floating-point numbers only, when what is read with less does. -/

/-- A value that is taken has rounded numbers when its items and its fields have them. -/
theorem rounded_takeValue {fuel : Nat}
    (items : ∀ {text rest : List Char} {j : Json}, takeItems fuel [] text = some (j, rest) → j.Rounded)
    (fields : ∀ {text rest : List Char} {j : Json}, takeFields fuel [] text = some (j, rest) → j.Rounded)
    {text rest : List Char} {j : Json} (h : takeValue (fuel + 1) text = some (j, rest)) : j.Rounded := by
  rw [takeValue] at h
  split at h
  · obtain ⟨⟨s, after⟩, -, heq⟩ := Option.map_eq_some_iff.mp h
    cases heq
    trivial
  · split at h
    · cases h
      trivial
    · exact items h
  · split at h
    · cases h
      trivial
    · exact fields h
  · rw [eq_of_takeWord h]
    trivial
  · rw [eq_of_takeWord h]
    trivial
  · rw [eq_of_takeWord h]
    trivial
  · obtain ⟨⟨x, after⟩, hx, heq⟩ := Option.map_eq_some_iff.mp h
    cases heq
    exact isRounded_takeNumber hx

/-- Items that are taken have rounded numbers when each value has them. -/
theorem rounded_takeItems {fuel : Nat}
    (value : ∀ {text rest : List Char} {j : Json}, takeValue fuel text = some (j, rest) → j.Rounded)
    (items : ∀ {done : List Json} {text rest : List Char} {j : Json}, RoundedItems done →
      takeItems fuel done text = some (j, rest) → j.Rounded)
    {done : List Json} {text rest : List Char} {j : Json} (hdone : RoundedItems done)
    (h : takeItems (fuel + 1) done text = some (j, rest)) : j.Rounded := by
  rw [takeItems] at h
  split at h
  · cases h
  · rename_i item after hitem
    have hmore : RoundedItems (item :: done) := ⟨value hitem, hdone⟩
    split at h
    · exact items hmore h
    · cases h
      rw [roundedItems_iff] at hmore
      exact roundedItems_iff.mpr fun item hitem => hmore item (List.mem_reverse.mp hitem)
    · cases h

/-- Fields that are taken have rounded numbers when each value has them. -/
theorem rounded_takeFields {fuel : Nat}
    (value : ∀ {text rest : List Char} {j : Json}, takeValue fuel text = some (j, rest) → j.Rounded)
    (fields : ∀ {done : Record Json} {text rest : List Char} {j : Json}, RoundedFields done →
      takeFields fuel done text = some (j, rest) → j.Rounded)
    {done : Record Json} {text rest : List Char} {j : Json} (hdone : RoundedFields done)
    (h : takeFields (fuel + 1) done text = some (j, rest)) : j.Rounded := by
  rw [takeFields] at h
  split at h
  · split at h
    · cases h
    split at h
    · split at h
      · cases h
      · rename_i hvalue
        have hmore := roundedFields_set hdone (value hvalue)
        split at h
        · exact fields (hmore _) h
        · cases h
          exact hmore _
        · cases h
    · cases h
  · cases h

/-- Values, items and fields that are read hold floating-point numbers only. -/
theorem rounded_take (fuel : Nat) :
    (∀ {text rest : List Char} {j : Json}, takeValue fuel text = some (j, rest) → j.Rounded) ∧
    (∀ {done : List Json} {text rest : List Char} {j : Json}, RoundedItems done →
      takeItems fuel done text = some (j, rest) → j.Rounded) ∧
    (∀ {done : Record Json} {text rest : List Char} {j : Json}, RoundedFields done →
      takeFields fuel done text = some (j, rest) → j.Rounded) := by
  induction fuel with
  | zero => exact ⟨nofun, fun _ => nofun, fun _ => nofun⟩
  | succ fuel ih =>
    obtain ⟨value, items, fields⟩ := ih
    exact ⟨rounded_takeValue (items trivial) (fields trivial), rounded_takeItems value items, rounded_takeFields value fields⟩

/-- A text that is read holds floating-point numbers only. -/
theorem rounded_of_ofText? {text : String} {j : Json} (h : ofText? text = some j) : j.Rounded := by
  unfold ofText? at h
  dsimp only at h
  split at h
  · rename_i hread
    split at h
    · cases h
      exact (rounded_take _).1 hread
    · cases h
  · cases h

end Json

end QualityGate
