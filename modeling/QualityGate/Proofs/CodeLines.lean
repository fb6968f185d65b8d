import QualityGate.Proofs.Blocks
import QualityGate.Proofs.LiteralContents
import QualityGate.Proofs.PlanMarkers

/-!
# The code of lines

What a source holds as code is read off its lines one by one (`codesFrom`), each from the mode that the lines above it lead to. A
place within a source is one within a line (`through_eq_ahead`). What the rest of a line holds as code depends on the mode and on the
character before it, not on the code in front (`alongside_steps`). In code, a line without quotes and slashes is code as it stands
(`steps_unquoted`); inside a comment or a literal, a line shows nothing or a quote first (`steps_block_of_no_slash`,
`head_code_of_literal`).
-/

namespace QualityGate.Scan

open Toolchain

/-! ## Line by line -/

/-- The code of lines that are scanned from a mode on. -/
def codesFrom (t : Toolchain) : Mode → List (List Char) → List (List Char)
  | _, [] => []
  | mode, text :: rest =>
    (steps t (start mode) text).code.reverse :: codesFrom t (nextMode (steps t (start mode) text).mode) rest

/-- The code of lines behind others goes on from the mode that those lead to. -/
theorem codesFrom_append (t : Toolchain) (mode : Mode) (texts more : List (List Char)) :
    codesFrom t mode (texts ++ more) = codesFrom t mode texts ++ codesFrom t (modeFrom t mode texts) more := by
  induction texts generalizing mode with
  | nil => rfl
  | cons text texts ih => rw [List.cons_append, codesFrom, ih, codesFrom, modeFrom, List.cons_append]

/-- The code of scanned lines does not depend on their numbers. -/
theorem map_code_eq_codesFrom (t : Toolchain) (mode : Mode) (number : Nat) (texts : List (List Char)) :
    (linesFrom t mode number texts).map (·.code) = codesFrom t mode texts := by
  induction texts generalizing mode number with
  | nil => rfl
  | cons text rest ih =>
    rw [linesFrom, codesFrom, List.map_cons, ih]
    rfl

/-- There is a line with such code in a source when there is such code among that of its lines. -/
theorem exists_line_iff {t : Toolchain} {content : List Char} {P : List Char → Prop} :
    (∃ line ∈ scan t content, P line.code) ↔ ∃ code ∈ codesFrom t .code (splitLines content), P code := by
  rw [← map_code_eq_codesFrom t .code 1]
  simp only [List.mem_map, exists_exists_and_eq_and]
  rfl

/-! ## Places and lines -/

/-- A text ends with its last line, and the others are in front of it. -/
theorem exists_lastLine (text : List Char) : ∃ above last, splitLines text = above ++ [last] ∧
    text = above.flatMap (· ++ ['\n']) ++ last ∧ (∀ line ∈ above, '\n' ∉ line) ∧ '\n' ∉ last := by
  have hne : splitLines text ≠ [] := by
    rw [splitLines_eq_splitOn]
    exact List.splitOn_ne_nil '\n' text
  have hlines : ∀ line ∈ splitLines text, '\n' ∉ line := fun line hline => lineFeed_notMem_of_mem_splitLines hline
  have hsplit := (List.dropLast_append_getLast hne).symm
  generalize (splitLines text).dropLast = above at hsplit
  generalize (splitLines text).getLast hne = last at hsplit
  rw [hsplit] at hlines
  refine ⟨above, last, hsplit, ?_, fun line hline => hlines line (List.mem_append_left _ hline),
    hlines last (List.mem_append_right _ List.mem_cons_self)⟩
  rw [← joinLines_splitLines text, hsplit, joinLines_append_cons, joinLines_singleton]

/-- The last line of a text goes on with the first line of what follows. -/
theorem splitLines_append_of_eq {text more last first : List Char} {above below : List (List Char)}
    (htext : splitLines text = above ++ [last]) (hmore : splitLines more = first :: below) :
    splitLines (text ++ more) = above ++ (last ++ first) :: below := by
  have hfirst : ∀ line ∈ above ++ [last], '\n' ∉ line := fun line hline => lineFeed_notMem_of_mem_splitLines (htext ▸ hline)
  have hbehind : ∀ line ∈ first :: below, '\n' ∉ line := fun line hline => lineFeed_notMem_of_mem_splitLines (hmore ▸ hline)
  have hjoin : text ++ more = joinLines (above ++ (last ++ first) :: below) := by
    rw [joinLines_append_cons, joinLines_append_head, ← hmore, joinLines_splitLines, ← joinLines_splitLines text, htext,
      joinLines_append_cons, joinLines_singleton, List.append_assoc]
  rw [hjoin, splitLines_joinLines _ (List.append_ne_nil_of_right_ne_nil _ (List.cons_ne_nil _ _))]
  intro line hline
  rcases List.mem_append.mp hline with hline | hline
  · exact hfirst line (List.mem_append_left _ hline)
  rcases List.mem_cons.mp hline with rfl | hline
  · rw [List.mem_append, not_or]
    exact ⟨hfirst last (List.mem_append_right _ List.mem_cons_self), hbehind first List.mem_cons_self⟩
  · exact hbehind line (List.mem_cons_of_mem _ hline)

/-- A text begins with its first line. -/
theorem exists_firstLine (text : List Char) : ∃ below, splitLines text = lineRest text :: below := by
  have htext : text = lineRest text ++ text.dropWhile (· ≠ '\n') := List.takeWhile_append_dropWhile.symm
  have hfirst : '\n' ∉ lineRest text := fun hmem => absurd (List.mem_takeWhile_imp hmem) (by decide)
  cases hrest : text.dropWhile (· ≠ '\n') with
  | nil =>
    rw [hrest, List.append_nil] at htext
    exact ⟨[], by rw [← htext]; exact splitLines_of_notMem (htext ▸ hfirst)⟩
  | cons c rest =>
    have hc : c = '\n' := by
      have hnot := List.head_dropWhile_not (fun c => decide (c ≠ '\n')) (l := text) (by rw [hrest]; exact List.cons_ne_nil _ _)
      simp only [hrest, List.head_cons] at hnot
      simpa using hnot
    refine ⟨splitLines rest, ?_⟩
    have hsplit := splitLines_append (lineRest text) rest
    rw [splitLines_of_notMem hfirst, ← hc, ← hrest, ← htext] at hsplit
    exact hsplit

/-- Whole lines are gone through line by line. -/
theorem through_lines (t : Toolchain) (mode : Mode) {above : List (List Char)} (h : ∀ line ∈ above, '\n' ∉ line) (rest : List Char) :
    through t (start mode) (above.flatMap (· ++ ['\n'])) rest = start (modeFrom t mode above) := by
  induction above generalizing mode with
  | nil => rfl
  | cons line above ih =>
    obtain ⟨hline, habove⟩ := List.forall_mem_cons.mp h
    rw [List.flatMap_cons, List.append_assoc, through_append, through_append, List.append_assoc, List.singleton_append,
      through_line hline rfl, through, through, cross, if_pos rfl, ih _ habove, modeFrom]

/-- A text on one line is gone through as the scanner goes ahead on it. -/
theorem through_eq_ahead {t : Toolchain} {k : Cursor} {text : List Char} (h : '\n' ∉ text) (rest : List Char) :
    through t k text rest = ahead t k text (lineRest rest) := by
  induction text generalizing k with
  | nil => rfl
  | cons c text ih =>
    obtain ⟨hc, htext⟩ := not_or.mp (mt List.mem_cons.mpr h)
    have hrest : lineRest (text ++ rest) = text ++ lineRest rest := by
      have htake : ∀ d ∈ text, decide (d ≠ '\n') = true := fun d hd => decide_eq_true fun heq => htext (heq ▸ hd)
      rw [lineRest, List.takeWhile_append_of_pos htake]
      rfl
    rw [through, ahead, cross, if_neg (Ne.symm hc), hrest, ih htext]

/-- At a place, the scanner has followed the lines above and what stands in front on the line. -/
theorem through_eq {t : Toolchain} {mode : Mode} {text last : List Char} {above : List (List Char)}
    (h : splitLines text = above ++ [last]) (rest : List Char) :
    through t (start mode) text rest = ahead t (start (modeFrom t mode above)) last (lineRest rest) := by
  obtain ⟨above', last', hsplit, htext, habove, hlast⟩ := exists_lastLine text
  obtain ⟨rfl, hlast'⟩ := List.append_inj' (hsplit.symm.trans h) rfl
  obtain rfl : last' = last := List.singleton_inj.mp hlast'
  rw [htext, through_append, through_lines t mode habove, through_eq_ahead hlast]

/-! ## Code behind other code -/

/-- Two cursors that differ in what they hold of the line in front of a place. -/
structure Alongside (front front' : List Char) (k k' : Cursor) : Prop where
  mode : k'.mode = k.mode
  skip : k'.skip = k.skip
  previous : k'.previous = k.previous
  code : ∃ new, k.code = new ++ front ∧ k'.code = new ++ front'

namespace Alongside

variable {front front' : List Char} {k k' : Cursor}

/-- Two cursors stay alongside behind the same code. -/
theorem emit (h : Alongside front front' k k') (piece : List Char) : Alongside front front' (k.emit piece) (k'.emit piece) := by
  obtain ⟨new, hcode, hcode'⟩ := h.code
  refine { h with code := ⟨piece.reverse ++ new, ?_, ?_⟩ }
  · rw [Cursor.emit, hcode, List.append_assoc]
  · rw [Cursor.emit, hcode', List.append_assoc]

theorem comment_set (h : Alongside front front' k k') (said said' : Option (List Char)) :
    Alongside front front' { k with comment := said } { k' with comment := said' } := { h with }

theorem say (h : Alongside front front' k k') (piece : List Char) : Alongside front front' (k.say piece) (k'.say piece) :=
  h.comment_set _ _

theorem enter (h : Alongside front front' k k') (mode : Mode) (skip : Nat) :
    Alongside front front' (k.enter mode skip) (k'.enter mode skip) := { h with mode := rfl, skip := rfl }

/-- Two cursors stay alongside behind a mark. -/
theorem mark (h : Alongside front front' k k') (opens : Bool) : Alongside front front' (k.mark opens) (k'.mark opens) where
  mode := by simpa using h.mode
  skip := by simpa using h.skip
  previous := by simpa using h.previous
  code := by simpa using h.code

/-- Two cursors stay alongside behind a step in code. -/
theorem codeStep (h : Alongside front front' k k') (t : Toolchain) (c : Char) (rest : List Char) :
    Alongside front front' (codeStep t k c rest) (Scan.codeStep t k' c rest) := by
  have hmark := h.mark (opensComment t c rest)
  have hprevious : (k'.mark (opensComment t c rest)).previous = (k.mark (opensComment t c rest)).previous := hmark.previous
  unfold Scan.codeStep
  dsimp only
  by_cases hhash : (hashComments t && c = '#') = true
  · rw [if_pos hhash, if_pos hhash]
    exact (hmark.comment_set _ _).enter _ _
  rw [if_neg hhash, if_neg hhash]
  by_cases hslashes : (!hashComments t && c = '/' && rest.head? = some '/') = true
  · rw [if_pos hslashes, if_pos hslashes]
    exact (hmark.comment_set _ _).enter _ _
  rw [if_neg hslashes, if_neg hslashes]
  by_cases hblock : (!hashComments t && c = '/' && rest.head? = some '*') = true
  · rw [if_pos hblock, if_pos hblock]
    exact (hmark.say _).enter _ _
  rw [if_neg hblock, if_neg hblock]
  split
  · exact (hmark.emit _).enter _ _
  · rw [hprevious]
    split
    · exact (hmark.emit _).enter _ _
    · exact hmark.emit _

/-- Two cursors stay alongside behind a step, whatever they are inside of. -/
theorem modeStep (h : Alongside front front' k k') (t : Toolchain) (c : Char) (rest : List Char) :
    Alongside front front' (modeStep t k c rest) (Scan.modeStep t k' c rest) := by
  unfold Scan.modeStep
  rw [h.mode]
  cases k.mode with
  | code => exact h.codeStep t c rest
  | lineComment => exact h.say _
  | blockComment depth =>
    dsimp only
    split
    · exact (h.say _).enter _ _
    split
    · exact h.enter _ _
    · exact h.say _
  | literal close escapes =>
    dsimp only
    split
    · exact h.enter _ _
    split
    · exact (h.emit _).enter _ _
    · exact h

/-- Two cursors stay alongside behind a step with what is still to be skipped. -/
theorem step (h : Alongside front front' k k') (t : Toolchain) (c : Char) (rest : List Char) :
    Alongside front front' (step t k c rest) (Scan.step t k' c rest) := by
  unfold Scan.step
  dsimp only
  rw [h.skip]
  split
  · exact { h with skip := rfl, previous := rfl }
  · exact { h.modeStep t c rest with previous := rfl }

/-- What the rest of a line adds to the code does not depend on what stands in front. -/
theorem steps (h : Alongside front front' k k') (t : Toolchain) (text : List Char) :
    Alongside front front' (steps t k text) (Scan.steps t k' text) := by
  induction text generalizing k k' with
  | nil => exact h
  | cons c rest ih => exact ih (h.step t c rest)

end Alongside

/-! ## Lines that are code as they stand -/

/-- A text in which no literal and no comment begins. -/
def Unquoted (text : List Char) : Prop := ∀ c ∈ text, c ≠ '/' ∧ isQuote c = false

theorem Unquoted.append {text more : List Char} (h : Unquoted text) (h' : Unquoted more) : Unquoted (text ++ more) :=
  List.forall_mem_append.mpr ⟨h, h'⟩

instance (text : List Char) : Decidable (Unquoted text) := List.decidableBAll (fun c => c ≠ '/' ∧ isQuote c = false) text

section Unquoted

variable {k : Cursor} {c : Char} {rest text : List Char}

/-- In code, a character that begins no literal and no comment is code. -/
theorem step_plain (h : InCode k) (hslash : c ≠ '/') (hquote : isQuote c = false) (hraw : rawLiteral? (c :: rest) = none) :
    step rust k c rest = { k.emit [c] with previous := some c, position := k.position + 1 } := by
  have hsingle : c ≠ '\'' := by
    rintro rfl
    cases hquote
  have hopens := Block.opensComment_eq_false (t := rust) rfl hslash rest
  have hcode : codeStep rust k c rest = k.emit [c] := by
    rw [Block.codeStep_of_not_opens hopens, if_neg fun hc => hsingle hc.2, Block.literal?_eq_none hquote fun _ => hraw]
  rw [step, if_neg (Nat.not_lt.mpr (Nat.le_of_eq h.2)), modeStep, h.1]
  dsimp only
  rw [hcode]

/-- A text in code in which nothing begins is code, where what follows is no part of a raw literal that begins in it. -/
theorem ahead_unquoted (h : InCode k) (ht : Unquoted text) (hrest : '"' ∈ rest → ∀ c ∈ text.getLast?, isTokenChar c = false) :
    InCode (ahead rust k text rest) ∧ (ahead rust k text rest).code = text.reverse ++ k.code := by
  induction text generalizing k with
  | nil => exact ⟨h, rfl⟩
  | cons c text ih =>
    obtain ⟨⟨hslash, hquote⟩, htext⟩ := List.forall_mem_cons.mp ht
    have hraw : rawLiteral? (c :: (text ++ rest)) = none := by
      rw [Option.eq_none_iff_forall_ne_some]
      rintro ⟨opening, mode⟩ hraw
      obtain ⟨htoken, hprefix⟩ := (rawLiteral?_eq_some_iff _ opening mode).mp hraw
      have hmem : '"' ∈ opening := List.mem_of_getLast? htoken.getLast?_eq
      rw [← List.cons_append] at hprefix
      rcases List.prefix_or_prefix_of_prefix hprefix (List.prefix_append (c :: text) rest) with hshort | ⟨more, hlong⟩
      · exact absurd (ht _ (hshort.subset hmem)).2 (by decide)
      · -- the opening reads past the text, so its last character is one of the opening
        have hquoted : '"' ∈ rest := by
          rcases List.mem_append.mp (List.IsPrefix.subset hprefix hmem) with hin | hin
          · exact absurd (ht _ hin).2 (by decide)
          · exact hin
        obtain ⟨last, hlast⟩ := Option.ne_none_iff_exists'.mp (mt List.getLast?_eq_none_iff.mp (List.cons_ne_nil c text))
        have hin : last ∈ opening := hlong ▸ List.mem_append_left _ (List.mem_of_getLast? hlast)
        have hnot := hrest hquoted last hlast
        rw [isTokenChar, Bool.or_eq_false_iff, Bool.or_eq_false_iff, decide_eq_false_iff_not, decide_eq_false_iff_not] at hnot
        rcases (htoken.opens hprefix).letters last hin with hdelimiter | hr | hb
        · rw [hdelimiter] at hnot
          cases hnot.1.1
        · exact hnot.1.2 hr
        · exact hnot.2 hb
    have hrest' : '"' ∈ rest → ∀ d ∈ text.getLast?, isTokenChar d = false := by
      intro hquoted d hd
      refine hrest hquoted d ?_
      rw [List.getLast?_cons, Option.mem_def.mp hd]
      rfl
    rw [ahead, step_plain h hslash hquote hraw, List.reverse_cons, List.append_assoc]
    exact ih (k := { k.emit [c] with previous := some c, position := k.position + 1 }) h htext hrest'

/-- A text without literals and comments is code as it stands. -/
theorem steps_unquoted (h : InCode k) (ht : Unquoted text) :
    InCode (steps rust k text) ∧ (steps rust k text).code = text.reverse ++ k.code := by
  rw [← ahead_nil]
  exact ahead_unquoted h ht nofun

/-- A quote in code opens a literal, and is code. -/
theorem step_openQuote (h : InCode k) (rest : List Char) : step rust k '"' rest =
    { (k.emit ['"']).enter (.literal ['"'] true) 0 with previous := some '"', position := k.position + 1 } := by
  have hopens := Block.opensComment_eq_false (t := rust) (c := '"') rfl (by decide) rest
  have hliteral : literal? rust k.previous ('"' :: rest) = some (['"'], .literal ['"'] true) := by simp [literal?, rawLiteral?]
  have hcode : codeStep rust k '"' rest = (k.emit ['"']).enter (.literal ['"'] true) 0 := by
    rw [Block.codeStep_of_not_opens hopens, if_neg fun hc => absurd hc.2 (by decide), hliteral]
    rfl
  rw [step, if_neg (Nat.not_lt.mpr (Nat.le_of_eq h.2)), modeStep, h.1]
  dsimp only
  rw [hcode]

/-- The content of a literal is passed over, and is no code. -/
theorem ahead_content {t : Toolchain} {close : List Char} {escapes : Bool} (free : k.skip = 0) (mode : k.mode = .literal close escapes)
    (hk : Regular k.mode) (h : ∀ c ∈ text, isContent close c = true) (rest : List Char) :
    (ahead t k text rest).mode = .literal close escapes ∧ (ahead t k text rest).skip = 0 ∧ (ahead t k text rest).code = k.code := by
  induction text generalizing k with
  | nil => exact ⟨mode, free, rfl⟩
  | cons c text ih =>
    obtain ⟨hc, htext⟩ := List.forall_mem_cons.mp h
    rw [ahead, step_content hk mode hc]
    exact ih (k := { k with skip := k.skip - 1, previous := some c, position := k.position + 1 }) (by rw [free]) mode hk htext

/-- A line of code with one literal on it shows the quotes. -/
theorem steps_literal {before inside after : List Char} (h : InCode k) (hbefore : Unquoted before)
    (hlast : ∀ c ∈ before.getLast?, isTokenChar c = false) (hinside : ∀ c ∈ inside, isContent ['"'] c = true) (hafter : Unquoted after) :
    InCode (steps rust k (before ++ '"' :: (inside ++ '"' :: after))) ∧
      (steps rust k (before ++ '"' :: (inside ++ '"' :: after))).code = after.reverse ++ '"' :: '"' :: (before.reverse ++ k.code) := by
  obtain ⟨hfirst, hcode⟩ := ahead_unquoted h hbefore fun _ : '"' ∈ '"' :: (inside ++ '"' :: after) => hlast
  rw [steps_append]
  generalize ahead rust k before _ = k₁ at hfirst hcode
  rw [steps, step_openQuote hfirst, steps_append]
  obtain ⟨hmode₂, hskip₂, hcode₂⟩ := ahead_content (t := rust)
    (k := { (k₁.emit ['"']).enter (.literal ['"'] true) 0 with previous := some '"', position := k₁.position + 1 }) rfl rfl
    ⟨List.cons_ne_nil _ _, List.forall_mem_singleton.mpr rfl⟩ hinside ('"' :: after)
  generalize ahead rust _ inside _ = k₂ at hmode₂ hskip₂ hcode₂
  have hclose : step rust k₂ '"' after =
      { (k₂.emit ['"']).enter .code 0 with previous := some '"', position := k₂.position + 1 } := by
    simp [step, hskip₂, modeStep, hmode₂]
  rw [steps, hclose]
  obtain ⟨hin, hall⟩ := steps_unquoted
    (k := { (k₂.emit ['"']).enter .code 0 with previous := some '"', position := k₂.position + 1 }) ⟨rfl, rfl⟩ hafter
  refine ⟨hin, ?_⟩
  rw [hall, ← hcode]
  simp [Cursor.emit, Cursor.enter, hcode₂]

end Unquoted

/-! ## Lines within comments and literals -/

/-- Without a slash, a block comment goes on. -/
theorem steps_block_of_no_slash {t : Toolchain} {k : Cursor} {depth : Nat} {text : List Char} (free : k.skip = 0)
    (mode : k.mode = .blockComment depth) (h : '/' ∉ text) : (steps t k text).code = k.code := by
  induction text generalizing k with
  | nil => rfl
  | cons c rest ih =>
    obtain ⟨hc, hrest⟩ := not_or.mp (mt List.mem_cons.mpr h)
    have hhead : ¬rest.head? = some '/' := fun hhead => hrest (List.mem_of_mem_head? hhead)
    have hstep : step t k c rest = { k.say [c] with previous := some c, position := k.position + 1 } := by
      simp [step, free, modeStep, mode, hhead, Ne.symm hc]
    rw [steps, hstep]
    exact ih (k := { k.say [c] with previous := some c, position := k.position + 1 }) free mode hrest

/-- A line that begins inside a literal shows nothing yet, or a quote first. -/
def ShowsQuote (k : Cursor) : Prop :=
  k.code = [] ∧ isLiteral k.mode = true ∨ ∃ quote, k.code.getLast? = some quote ∧ isQuote quote = true

/-- A step shows nothing of the literal that a line begins in but the quote that closes it. -/
theorem ShowsQuote.step {t : Toolchain} {k : Cursor} (hregular : Regular k.mode) (hquoted : Quoted k.mode) (h : ShowsQuote k) (c : Char)
    (rest : List Char) : ShowsQuote (step t k c rest) := by
  rcases h with ⟨hcode, hmode⟩ | ⟨quote, hlast, hquote⟩
  · cases mode : k.mode with
    | literal close escapes =>
      rw [mode] at hquoted
      obtain ⟨quote, more, rfl, hquote⟩ := hquoted
      by_cases hskip : 0 < k.skip
      · rw [Scan.step, if_pos hskip]
        exact .inl ⟨hcode, hmode⟩
      · rw [Scan.step, if_neg hskip, modeStep, mode]
        dsimp only
        split
        · exact .inl ⟨hcode, by rw [← mode]; exact hmode⟩
        split
        · refine .inr ⟨quote, ?_, hquote⟩
          simp [Cursor.emit, Cursor.enter, hcode]
        · exact .inl ⟨hcode, hmode⟩
    | code | lineComment | blockComment =>
      rw [mode] at hmode
      cases hmode
  · obtain ⟨new, hcode, -⟩ := step_extends (t := t) c rest hregular
    refine .inr ⟨quote, ?_, hquote⟩
    rw [hcode, List.getLast?_append, hlast]
    rfl

/-- A text shows nothing of the literal that its line begins in but the quote that closes it. -/
theorem ShowsQuote.steps {t : Toolchain} {k : Cursor} (hregular : Regular k.mode) (hquoted : Quoted k.mode) (h : ShowsQuote k)
    (text : List Char) : ShowsQuote (steps t k text) := by
  induction text generalizing k with
  | nil => exact h
  | cons c rest ih =>
    obtain ⟨next, hmoves, hstep⟩ := step_cases t k c rest
    have hquoted' : Quoted (Scan.step t k c rest).mode := by
      rw [hstep]
      exact hmoves.quoted hquoted
    exact ih (step_regular c rest hregular) hquoted' (h.step hregular hquoted c rest)

/-- The code of a line that begins inside a literal begins with a quote, if there is any. -/
theorem head_code_of_literal {t : Toolchain} {close : List Char} {escapes : Bool} (h : AtLineStart (.literal close escapes))
    (text : List Char) : (steps t (start (.literal close escapes)) text).code.reverse.head?.all isQuote = true := by
  have hshows := ShowsQuote.steps (t := t) (k := start (.literal close escapes)) h.starts.1 h.quoted (.inl ⟨rfl, rfl⟩) text
  rw [List.head?_reverse]
  rcases hshows with ⟨hcode, -⟩ | ⟨quote, hlast, hquote⟩
  · rw [hcode]
    rfl
  · rw [hlast]
    exact hquote

/-! ## A line that is split in front of a closing brace -/

/-- A line that is split in front of a closing brace in code: both parts together hold what the line holds, and lead where it leads. -/
theorem exists_split {mode : Mode} {last : List Char} (rest : List Char)
    (h : InCode (ahead rust (start mode) last ('\x7d' :: rest))) :
    steps rust (start mode) last = ahead rust (start mode) last ('\x7d' :: rest) ∧ ∃ behind,
      (steps rust (start mode) (last ++ '\x7d' :: rest)).code.reverse =
        (ahead rust (start mode) last ('\x7d' :: rest)).code.reverse ++ '\x7d' :: behind ∧
      (steps rust (start .code) ('\x7d' :: rest)).code.reverse = '\x7d' :: behind ∧
      (steps rust (start .code) ('\x7d' :: rest)).mode = (steps rust (start mode) (last ++ '\x7d' :: rest)).mode := by
  refine ⟨steps_eq_ahead h.2, ?_⟩
  rw [steps_append]
  generalize ahead rust (start mode) last _ = k at h
  have hraw : rawLiteral? ('\x7d' :: rest) = none := by simp [rawLiteral?]
  have hstart : InCode (start .code) := ⟨rfl, rfl⟩
  rw [steps, steps, step_plain h (by decide) rfl hraw, step_plain hstart (by decide) rfl hraw]
  have hbrace : Alongside ('\x7d' :: k.code) ['\x7d'] { k.emit ['\x7d'] with previous := some '\x7d', position := k.position + 1 }
      { (start .code).emit ['\x7d'] with previous := some '\x7d', position := (start .code).position + 1 } :=
    ⟨h.1.symm, h.2.symm, rfl, [], rfl, rfl⟩
  have hrest := hbrace.steps rust rest
  obtain ⟨new, hcode, hcode'⟩ := hrest.code
  refine ⟨new.reverse, ?_, ?_, hrest.mode⟩
  · rw [hcode]
    simp
  · rw [hcode']
    simp

end QualityGate.Scan
