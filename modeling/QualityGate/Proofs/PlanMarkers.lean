import QualityGate.Plan
import QualityGate.Proofs.IdleLines
import QualityGate.Proofs.LineComments

/-!
# Markers above functions

A plan puts a marker line above each function that is too complex, unless the line above it is one already. A marker line is idle
wherever it stands (`idle_markerLine`): in code it is a comment, in a block comment it is part of it, and in a literal it holds
nothing that closes or escapes. So the functions of the planned content are those of the content, and each that is too complex has
a marker line above it, which is why a second plan has nothing to add (`planOf_newContent`).
-/

namespace QualityGate

open Scan Toolchain Plan

namespace Scan

/-! ## Marker lines -/

/-- Outside literals, or in one that a quote begins to close. -/
def Quoted : Mode → Prop
  | .literal close _ => ∃ quote more, close = quote :: more ∧ isQuote quote = true
  | _ => True

/-- A move opens no literal but one that a quote begins to close. -/
theorem Moves.quoted {t : Toolchain} {k next : Cursor} {c : Char} {rest : List Char} (h : Moves t k c rest next)
    (hk : Quoted k.mode) : Quoted next.mode := by
  cases h with
  | openLiteral _ _ found =>
    obtain ⟨quote, more, escapes, rfl, hquote⟩ := (opens_of_literal? found).quoted
    exact ⟨quote, more, rfl, hquote⟩
  | closeBlock =>
    unfold Cursor.enter
    dsimp only
    split <;> trivial
  | openLine | openBlock | char | deepen | closeLiteral => trivial
  | skip | plain | sayLine | sayBlock | escape | inLiteral => exact hk

/-- A text opens no literal but one that a quote begins to close. -/
theorem steps_quoted {t : Toolchain} {k : Cursor} (hk : Quoted k.mode) (text : List Char) : Quoted (steps t k text).mode := by
  rw [← ahead_nil]
  refine ahead_induction (P := fun k => Quoted k.mode) (fun k c rest h => ?_) hk text []
  obtain ⟨next, hmove, hstep⟩ := step_cases t k c rest
  rw [hstep]
  exact hmove.quoted h

/-- The modes in which a line of a source starts. -/
structure AtLineStart (mode : Mode) : Prop where
  starts : Satd.Starts mode
  quoted : Quoted mode

/-- Each line starts in a mode in which lines start. -/
theorem atLineStart_modeFrom {t : Toolchain} {mode : Mode} (h : AtLineStart mode) (texts : List (List Char)) :
    AtLineStart (modeFrom t mode texts) := by
  induction texts generalizing mode with
  | nil => exact h
  | cons text texts ih =>
    refine ih ⟨Satd.starts_nextMode (steps_regular (t := t) (k := start mode) h.starts.1 text), ?_⟩
    have hend := steps_quoted (t := t) (k := start mode) h.quoted text
    cases hmode : (steps t (start mode) text).mode with
    | literal =>
      rw [hmode] at hend
      exact hend
    | code | lineComment | blockComment => trivial

theorem atLineStart_code : AtLineStart .code := ⟨Satd.starts_code, trivial⟩

/-- The characters of a marker line: no star, no backslash and no quote. -/
def Harmless (text : List Char) : Prop := ∀ c ∈ text, c ≠ '*' ∧ c ≠ '\\' ∧ isQuote c = false

instance (text : List Char) : Decidable (Harmless text) :=
  List.decidableBAll (fun c => c ≠ '*' ∧ c ≠ '\\' ∧ isQuote c = false) text

theorem Harmless.tail {c : Char} {rest : List Char} (h : Harmless (c :: rest)) : Harmless rest :=
  fun d hd => h d (List.mem_cons_of_mem c hd)

/-- A harmless text inside a block comment is part of the comment, and no more. -/
theorem steps_block_harmless {t : Toolchain} {k : Cursor} {depth : Nat} {said text : List Char} (free : k.skip = 0)
    (mode : k.mode = .blockComment depth) (hsaid : k.comment = some said) (h : Harmless text) :
    (steps t k text).mode = .blockComment depth ∧ (steps t k text).code = k.code ∧
      (steps t k text).comment = some (text.reverse ++ said) := by
  induction text generalizing k said with
  | nil => exact ⟨mode, rfl, hsaid⟩
  | cons c rest ih =>
    have hstar : ¬rest.head? = some '*' := by
      intro hhead
      obtain ⟨more, rfl⟩ := List.head?_eq_some_iff.mp hhead
      exact (h.tail '*' List.mem_cons_self).1 rfl
    have hstep : step t k c rest = { k.say [c] with previous := some c, position := k.position + 1 } := by
      simp [step, free, modeStep, mode, hstar, (h c List.mem_cons_self).1]
    have hcomment : (k.say [c]).comment = some (c :: said) := by simp [Cursor.say, hsaid]
    obtain ⟨hmode, hcode, hall⟩ := @ih (step t k c rest) (c :: said) (by rw [hstep]; exact free)
      (by rw [hstep]; exact mode) (by rw [hstep]; exact hcomment) h.tail
    rw [hstep] at hmode hcode hall
    rw [steps, hstep, List.reverse_cons, List.append_assoc]
    exact ⟨hmode, hcode, hall⟩

/-- A harmless text inside a literal is part of the literal, and no more. -/
theorem steps_literal_harmless {t : Toolchain} {k : Cursor} {close : List Char} {escapes : Bool} {text : List Char}
    (free : k.skip = 0) (mode : k.mode = .literal close escapes) (hquoted : Quoted k.mode) (h : Harmless text) :
    (steps t k text).mode = .literal close escapes ∧ (steps t k text).code = k.code ∧
      (steps t k text).comment = k.comment := by
  induction text generalizing k with
  | nil => exact ⟨mode, rfl, rfl⟩
  | cons c rest ih =>
    have hquoted' := hquoted
    rw [mode] at hquoted'
    obtain ⟨quote, more, rfl, hquote⟩ := hquoted'
    obtain ⟨-, hslash, hc⟩ := h c List.mem_cons_self
    have hne : quote ≠ c := by
      rintro rfl
      rw [hc] at hquote
      cases hquote
    have hstep : step t k c rest = { k with previous := some c, position := k.position + 1 } := by
      simp [step, free, modeStep, mode, hslash, hne]
    obtain ⟨hmode, hcode, hcomment⟩ := ih (k := step t k c rest) (by rw [hstep]; exact free)
      (by rw [hstep]; exact mode) (by rw [hstep]; exact hquoted) h.tail
    rw [hstep] at hmode hcode hcomment
    rw [steps, hstep]
    exact ⟨hmode, hcode, hcomment⟩

/-- No comment opens with a blank. -/
theorem not_opensComment_of_isBlank {t : Toolchain} {c : Char} (h : isBlank c = true) (rest : List Char) :
    opensComment t c rest = false := by
  have hhash : c ≠ '#' := by
    rintro rfl
    exact absurd h (by decide)
  have hslash : c ≠ '/' := by
    rintro rfl
    exact absurd h (by decide)
  simp [opensComment, hhash, hslash]

/-- Blanks leave a scanner that has read nothing as it is. -/
theorem Quiet.ahead_blanks {t : Toolchain} {k : Cursor} (hk : Quiet k) {blanks : List Char} (h : ∀ c ∈ blanks, isBlank c = true)
    (rest : List Char) : Quiet (ahead t k blanks rest) := by
  induction blanks generalizing k with
  | nil => exact hk
  | cons c blanks ih =>
    rcases hk.step (t := t) c (blanks ++ rest) with ⟨-, -, hopens⟩ | hquiet
    · rw [not_opensComment_of_isBlank (h c List.mem_cons_self)] at hopens
      cases hopens
    · exact ih hquiet fun d hd => h d (List.mem_cons_of_mem c hd)

/-- The marker of a toolchain is a line comment without harm. -/
theorem marker_opens (t : Toolchain) : ∃ c rest, marker t = c :: rest ∧ opensComment t c rest = true ∧
    ¬"/*".toList <+: marker t ∧ Harmless (marker t) := by
  cases t with
  | rust | go | deno | pythonUv => exact ⟨_, _, rfl, by decide, by decide +kernel, by decide +kernel⟩

/-- Blanks are harmless. -/
theorem harmless_blanks {blanks : List Char} (h : ∀ c ∈ blanks, isBlank c = true) : Harmless blanks := by
  intro c hc
  have hblank := h c hc
  refine ⟨?_, ?_, ?_⟩
  · rintro rfl
    exact absurd hblank (by decide)
  · rintro rfl
    exact absurd hblank (by decide)
  · rw [Bool.eq_false_iff]
    intro hquote
    rw [not_isBlank_of_isDelimiter (isDelimiter_of_isQuote hquote)] at hblank
    cases hblank

/-- A line that is idle, with no comment but what it reads. -/
def IdleReading (t : Toolchain) (mode : Mode) (text : List Char) : Prop :=
  Idle t mode text ∧ ∀ said, (steps t (start mode) text).comment = some said → said.reverse <:+: text

/-- A harmless line inside a block comment is idle. -/
theorem idleReading_block {t : Toolchain} {depth : Nat} {text : List Char} (h : Harmless text) :
    IdleReading t (.blockComment depth) text := by
  obtain ⟨hnext, hcode, hsaid⟩ := steps_block_harmless (t := t) (k := start (.blockComment depth)) rfl rfl rfl h
  refine ⟨⟨fun d hd => ?_, by rw [hnext]; rfl⟩, fun said hsome => ?_⟩
  · rw [hcode] at hd
    cases hd
  · rw [hsaid, List.append_nil] at hsome
    have hsame : said.reverse = text := by rw [← Option.some.inj hsome, List.reverse_reverse]
    exact hsame ▸ List.infix_rfl

/-- A harmless line inside a literal is idle. -/
theorem idleReading_literal {t : Toolchain} {close : List Char} {escapes : Bool} {text : List Char}
    (hquoted : Quoted (.literal close escapes)) (h : Harmless text) : IdleReading t (.literal close escapes) text := by
  obtain ⟨hnext, hcode, hsaid⟩ := steps_literal_harmless (t := t) (k := start (.literal close escapes)) rfl rfl hquoted h
  refine ⟨⟨fun d hd => ?_, by rw [hnext]; rfl⟩, fun said hsome => ?_⟩
  · rw [hcode] at hd
    cases hd
  · rw [hsaid] at hsome
    cases hsome

/-- The text of a comment line stands behind the sign that opens the comment. -/
theorem isInfix_commentText {t : Toolchain} {blanks comment : List Char} : comment <:+: blanks ++ commentText t comment := by
  refine (?_ : comment <:+ blanks ++ commentText t comment).isInfix
  refine List.IsSuffix.trans ?_ (List.suffix_append _ _)
  unfold commentText
  split
  · exact List.suffix_cons _ _
  · exact List.suffix_rfl

/-- In code the marker is a line comment, with nothing but blanks before it. -/
theorem idleReading_code {t : Toolchain} {blanks : List Char} (h : ∀ c ∈ blanks, isBlank c = true) :
    IdleReading t .code (blanks ++ marker t) := by
  obtain ⟨c, rest, hmarker, hopens, hblock, -⟩ := marker_opens t
  obtain ⟨hahead, hfree, hcode⟩ := ahead_blanks (t := t) (k := start .code) trivial h (marker t)
  have hquiet := (quiet_start (.inl rfl)).ahead_blanks (t := t) h (marker t)
  rw [hmarker] at hahead hfree hcode hquiet hblock
  obtain ⟨comment, htext, hcomment⟩ := exists_commentBehind hquiet (hfree.trans (Nat.zero_sub _)) hahead hopens hblock
  have hmode := hcomment.mode
  have hcode' := hcomment.code
  have hsaid := hcomment.said
  rw [List.nil_append, ← htext, ← steps_append] at hmode hcode' hsaid
  rw [hmarker]
  refine ⟨⟨fun d hd => ?_, by rw [hmode]; rfl⟩, fun said hsome => ?_⟩
  · have hstart : (start .code).mode = .code := rfl
    rw [hcode', ahead, hcode rfl, if_pos hstart] at hd
    rcases List.mem_append.mp hd with hd | hd
    · exact h d (List.mem_reverse.mp hd)
    · cases hd
  · rw [hsaid] at hsome
    rw [← Option.some.inj hsome, List.reverse_reverse, htext]
    exact isInfix_commentText

/-- A marker line holds no code, leaves the scanner as it was, and says nothing but what it reads. -/
theorem idle_markerLine {t : Toolchain} {mode : Mode} (hmode : AtLineStart mode) {blanks : List Char}
    (h : ∀ c ∈ blanks, isBlank c = true) : IdleReading t mode (blanks ++ marker t) := by
  obtain ⟨-, -, -, -, -, hmarker⟩ := marker_opens t
  have hall : Harmless (blanks ++ marker t) := fun d hd => (List.mem_append.mp hd).elim (harmless_blanks h d) (hmarker d)
  cases mode with
  | lineComment => exact absurd rfl hmode.starts.2
  | blockComment depth => exact idleReading_block hall
  | literal close escapes => exact idleReading_literal hmode.quoted hall
  | code => exact idleReading_code h

/-- No marker of debt stands in a marker line. -/
theorem not_isMarked_of_infix {t : Toolchain} {blanks text : List Char} (h : ∀ c ∈ blanks, isBlank c = true)
    (htext : text <:+: blanks ++ marker t) : Satd.isMarked text = false := by
  rw [Bool.eq_false_iff]
  intro hmarked
  obtain ⟨entry, hentry, hword⟩ := Satd.exists_word_of_isMarked hmarked
  have hnone : ∀ entry ∈ Satd.markers, contains (marker t) entry.1.toList = false := by cases t <;> decide +kernel
  have hletters : ∀ entry ∈ Satd.markers, entry.1.toList.head?.any isBlank = false := by decide +kernel
  have hin := hword.trans htext
  clear hword htext
  induction blanks with
  | nil => exact Bool.false_ne_true ((hnone entry hentry).symm.trans (contains_iff_isInfix.mpr hin))
  | cons c blanks ih =>
    rw [List.cons_append, List.infix_cons_iff] at hin
    rcases hin with hprefix | hin
    · have hne : ∀ entry ∈ Satd.markers, entry.1.toList ≠ [] := by decide
      obtain ⟨d, word, hd⟩ := List.exists_cons_of_ne_nil (hne entry hentry)
      have hvisible := hletters entry hentry
      rw [hd, List.head?_cons, Option.any_some] at hvisible
      rw [hd] at hprefix
      rw [(List.cons_prefix_cons.mp hprefix).1, h c List.mem_cons_self] at hvisible
      cases hvisible
    · exact ih (fun d hd => h d (List.mem_cons_of_mem c hd)) hin

end Scan

/-- What a function is called and how complex it is. -/
def FunctionInfo.values (f : FunctionInfo) : String × Nat × Nat := (f.name, f.cyclomatic, f.cognitive)

namespace Plan

/-! ## The planned edits -/

/-- Whether a function is too complex. -/
def exceeds (p : Profile) (f : FunctionInfo) : Bool := p.complexityMax.lt (Number.ofNat f.cyclomatic)

/-- The lines on which functions that are too complex begin. -/
def overLines (p : Profile) (functions : List FunctionInfo) : List Nat := (functions.filter (exceeds p)).map (·.line)

/-- The lines of a content with a marker line above each of some, given by their numbers, that has none above it; `done` are the
lines above those at hand. -/
def withMarkers (t : Toolchain) (high : List Nat) (done : List (List Char)) : List (List Char) → List (List Char)
  | [] => []
  | text :: rest =>
    (if done.length + 1 ∈ high ∧ contains (done.getLast?.getD []) annotation = false then
        [leadingBlanks text ++ marker t, text] else [text]) ++
      withMarkers t high (done ++ [text]) rest

/-- The edit that puts a marker above a line, unless there is one. -/
def markerEdit? (t : Toolchain) (lines : List (List Char)) (number : Int) : Option LineEdit :=
  (lineAt? lines number).bind fun text =>
    if contains ((lineAt? lines (number - 1)).getD []) annotation then none else some (.replace (marked t text))

section Edits

variable {t : Toolchain} {lines : List (List Char)} {satd : LineEdits}

/-- A violation that tells of a function that is too complex. -/
structure OfComplexity (v : PlannedViolation) : Prop where
  lint : v.lintName = "high_complexity"
  strategy : v.fixStrategy = .extractFunction

theorem get?_append (edits more : LineEdits) (m : Int) : LineEdits.get? (edits ++ more) m = (edits.get? m).or (more.get? m) :=
  List.lookup_append

/-- A violation of the complexity adds the marker for its line, if there is no other edit for that. -/
theorem get?_addEdit {v : PlannedViolation} (hv : OfComplexity v) (edits : LineEdits) (m : Int) :
    (addEdit t lines satd edits v).get? m = (edits.get? m).or (if m = v.line then markerEdit? t lines v.line else none) := by
  have hother : ¬(v.fixStrategy = .removeDeadCode ∧ v.lintName = "satd_item") := by
    rintro ⟨hstrategy, -⟩
    rw [hv.strategy] at hstrategy
    cases hstrategy
  rw [addEdit, if_neg hother, if_pos ⟨hv.strategy, hv.lint⟩, markerEdit?]
  cases lineAt? lines v.line with
  | none => simp
  | some text =>
    simp only [Option.bind_some]
    by_cases hmarked : contains ((lineAt? lines (v.line - 1)).getD []) annotation = true
    · rw [if_pos (.inl hmarked), if_pos hmarked, ite_self, Option.or_none]
    · rw [if_neg hmarked]
      cases hget : edits.get? v.line with
      | some edit =>
        rw [if_pos (.inr rfl)]
        by_cases hm : m = v.line
        · rw [hm, hget, Option.some_or]
        · rw [if_neg hm, Option.or_none]
      | none =>
        rw [if_neg (by simpa using hmarked), LineEdits.set, hget, if_neg (by simp), get?_append]
        congr 1
        by_cases hm : m = v.line
        · rw [if_pos hm, hm]
          simp [LineEdits.get?]
        · rw [if_neg hm]
          simp [LineEdits.get?, List.lookup_cons, beq_eq_false_iff_ne.mpr hm]

/-- Violations of the complexity add the markers for their lines, and no edit for others. -/
theorem get?_foldl_addEdit {violations : List PlannedViolation} (h : ∀ v ∈ violations, OfComplexity v) (edits : LineEdits) (m : Int) :
    (violations.foldl (addEdit t lines satd) edits).get? m =
      (edits.get? m).or (if m ∈ violations.map (·.line) then markerEdit? t lines m else none) := by
  induction violations generalizing edits with
  | nil => simp
  | cons v violations ih =>
    rw [List.foldl_cons, ih (fun w hw => h w (List.mem_cons_of_mem v hw)), get?_addEdit (h v List.mem_cons_self), Option.or_assoc]
    congr 1
    by_cases hm : m = v.line
    · subst hm
      simp
      cases markerEdit? t lines v.line <;> simp
    · simp [hm]

end Edits

section Content

variable {t : Toolchain} {p : Profile} {high : List Nat}

/-- Lines are counted from one. -/
theorem lineAt?_natCast (lines : List (List Char)) (n : Nat) : lineAt? lines ((n + 1 : Nat) : Int) = lines[n]? := by
  have hnot : ¬((n + 1 : Nat) : Int) < 1 := by omega
  have hplace : (((n + 1 : Nat) : Int) - 1).toNat = n := by omega
  rw [lineAt?, if_neg hnot, hplace]

/-- The line above the first of some lines. -/
theorem lineAt?_length (done rest : List (List Char)) : lineAt? (done ++ rest) (done.length : Int) = done.getLast? := by
  cases hlength : done.length with
  | zero =>
    rw [List.length_eq_zero_iff.mp hlength]
    rfl
  | succ n =>
    rw [lineAt?_natCast, List.getLast?_eq_getElem?, hlength, Nat.add_sub_cancel, List.getElem?_append_left (by omega)]

/-- A line gets its marker unless the line above has one. -/
theorem markerEdit?_append (done : List (List Char)) (text : List Char) (rest : List (List Char)) :
    markerEdit? t (done ++ text :: rest) ((done.length + 1 : Nat) : Int) =
      if contains (done.getLast?.getD []) annotation then none else some (.replace (marked t text)) := by
  have hhere : lineAt? (done ++ text :: rest) ((done.length + 1 : Nat) : Int) = some text := by
    rw [lineAt?_natCast]
    simp
  have habove : ((done.length + 1 : Nat) : Int) - 1 = (done.length : Int) := by omega
  rw [markerEdit?, hhere, habove, lineAt?_length]
  rfl

/-- Several lines in the place of one. -/
theorem joinLines_joined {new first more : List (List Char)} (hnew : new ≠ []) (hnil : first = [] ↔ more = [])
    (hjoin : joinLines first = joinLines more) : joinLines (joinLines new :: first) = joinLines (new ++ more) := by
  by_cases hmore : more = []
  · rw [hnil.mpr hmore, hmore, joinLines_singleton, List.append_nil]
  · rw [joinLines_cons _ (fun hfirst => hmore (hnil.mp hfirst)), joinLines_append hnew hmore, hjoin]

/-- Carrying out the edits of some lines gives the lines with markers. -/
theorem joinLines_applyFrom {edits : LineEdits} {done rest : List (List Char)}
    (h : ∀ m : Nat, edits.get? m = if m ∈ high then markerEdit? t (done ++ rest) m else none) :
    (edits.applyFrom (done.length + 1) rest = [] ↔ withMarkers t high done rest = []) ∧
      joinLines (edits.applyFrom (done.length + 1) rest) = joinLines (withMarkers t high done rest) := by
  induction rest generalizing done with
  | nil => exact ⟨iff_of_true rfl rfl, rfl⟩
  | cons text rest ih =>
    have hrest : ∀ m : Nat, edits.get? m = if m ∈ high then markerEdit? t ((done ++ [text]) ++ rest) m else none := by
      intro m
      rw [h m, List.append_assoc, List.singleton_append]
    obtain ⟨hnil, hjoin⟩ := ih hrest
    rw [List.length_append, List.length_singleton] at hnil hjoin
    have hhere := h (done.length + 1)
    rw [markerEdit?_append] at hhere
    rw [LineEdits.applyFrom, withMarkers]
    by_cases hmarks : done.length + 1 ∈ high ∧ contains (done.getLast?.getD []) annotation = false
    · rw [if_pos hmarks.1, hmarks.2, if_neg (by decide)] at hhere
      rw [hhere, if_pos hmarks]
      have hmarked : marked t text = joinLines [leadingBlanks text ++ marker t, text] := by
        rw [joinLines_cons _ (List.cons_ne_nil _ _), joinLines_singleton]
        rfl
      dsimp only
      rw [hmarked]
      exact ⟨iff_of_false (by simp) (by simp), joinLines_joined (List.cons_ne_nil _ _) hnil hjoin⟩
    · have hnone : edits.get? ((done.length + 1 : Nat) : Int) = none := by
        rw [hhere]
        split
        · rename_i hover
          have hcontains : contains (done.getLast?.getD []) annotation = true := by
            rw [← Bool.not_eq_false]
            exact fun hfalse => hmarks ⟨hover, hfalse⟩
          exact if_pos hcontains
        · rfl
      rw [hnone, if_neg hmarks]
      have hsingle : text = joinLines [text] := (joinLines_singleton text).symm
      dsimp only
      exact ⟨iff_of_false (by simp) (by simp), by
        conv => lhs; rw [hsingle]
        exact joinLines_joined (List.cons_ne_nil _ _) hnil hjoin⟩

/-- A violation by that name tells of a function that is too complex. -/
theorem ofComplexity_planned {v : Violation} (h : v.lintName = "high_complexity") : OfComplexity (planned v) := by
  refine ⟨h, ?_⟩
  have hdead : ¬(v.lintName = "satd_item" ∨ Text.has v.lintName "unused" = true) := by
    rw [h]
    decide +kernel
  rw [planned, FixStrategy.forLint, if_neg hdead, if_pos (.inl h)]

/-- What is found about the complexity tells of functions that are too complex. -/
theorem ofComplexity_of_mem {file : String} {o : Outline} {v : PlannedViolation} (h : v ∈ (highComplexity file o p).map planned) :
    OfComplexity v := by
  obtain ⟨violation, hviolation, rfl⟩ := List.mem_map.mp h
  obtain ⟨f, -, rfl⟩ := List.mem_map.mp hviolation
  exact ofComplexity_planned rfl

/-- A plan without debt gives the content with markers above the functions that are too complex. -/
theorem annotate_highComplexity (file : String) (o : Outline) (content : List Char) :
    annotate t ((highComplexity file o p).map planned) content =
      joinLines (withMarkers t (overLines p o.functions) [] (splitLines content)) := by
  have hlines : ((highComplexity file o p).map planned).map (·.line) = (overLines p o.functions).map fun n : Nat => (n : Int) := by
    rw [highComplexity, overLines, List.map_map, List.map_map, List.map_map]
    rfl
  have hget : ∀ m : Nat, (((highComplexity file o p).map planned).foldl
      (addEdit t (splitLines content) (satdEdits t content)) []).get? m =
        if m ∈ overLines p o.functions then markerEdit? t ([] ++ splitLines content) m else none := by
    intro m
    rw [get?_foldl_addEdit fun v hv => ofComplexity_of_mem hv, hlines]
    have hmem : ((m : Int) ∈ (overLines p o.functions).map fun n : Nat => (n : Int)) ↔ m ∈ overLines p o.functions := by
      rw [List.mem_map]
      constructor
      · rintro ⟨n, hn, heq⟩
        obtain rfl : n = m := by omega
        exact hn
      · intro hm
        exact ⟨m, hm, rfl⟩
    simp only [hmem, List.nil_append]
    rfl
  exact (joinLines_applyFrom hget).2

end Content

/-! ## Marker lines above functions -/

/-- A marker stands in the line directly above a line, given by its number. -/
def Announced (lines : List (List Char)) (number : Nat) : Prop :=
  ∃ above, lineAt? lines ((number : Int) - 1) = some above ∧ contains above annotation = true

/-- A line is announced when the last of the lines above it is a marker. -/
theorem announced_succ (done rest : List (List Char)) :
    Announced (done ++ rest) (done.length + 1) ↔ contains (done.getLast?.getD []) annotation = true := by
  have habove : ((done.length + 1 : Nat) : Int) - 1 = (done.length : Int) := by omega
  have hnil : contains [] annotation = false := by decide +kernel
  rw [Announced, habove, lineAt?_length]
  cases done.getLast? with
  | none => simp only [Option.getD_none, hnil, reduceCtorEq, false_and, exists_false, Bool.false_eq_true]
  | some above => simp only [Option.some.injEq, exists_eq_left', Option.getD_some]

/-- Lines behind make no difference. -/
theorem Announced.append {lines : List (List Char)} {number : Nat} (h : Announced lines number) (more : List (List Char)) :
    Announced (lines ++ more) number := by
  obtain ⟨above, habove, hmarked⟩ := h
  refine ⟨above, ?_, hmarked⟩
  unfold lineAt? at habove ⊢
  split at habove
  · cases habove
  · rename_i hlow
    rw [if_neg hlow, List.getElem?_append_left]
    · exact habove
    · obtain ⟨hlt, -⟩ := List.getElem?_eq_some_iff.mp habove
      exact hlt

section Markers

variable {t : Toolchain} {p : Profile} {high : List Nat} {out done rest : List (List Char)} {text : List Char}

/-- A function begins on a line of the source. -/
theorem line_of_mem_functionsOf {texts : List (List Char)} {f : FunctionInfo} (h : f ∈ functionsOf t texts) :
    1 ≤ f.line ∧ f.line ≤ texts.length := by
  obtain ⟨span, hspan, rfl⟩ := List.mem_map.mp h
  have hstart : span.start < texts.length := by
    unfold Functions.spans at hspan
    split at hspan
    · obtain ⟨above, line, below, hlines, -, hstart, -⟩ := Functions.exists_of_mem_indentSpansFrom hspan
      rw [hstart, ← length_linesFrom t .code 1 texts, hlines, List.length_append, List.length_cons]
      omega
    · obtain ⟨above, code, below, hcodes, hspan⟩ := Functions.exists_of_mem_braceSpansFrom hspan
      have hlength := congrArg List.length hcodes
      rw [List.length_map, length_linesFrom, List.length_append, List.length_cons] at hlength
      rw [Functions.braceSpan?_eq, Option.bind_eq_some_iff] at hspan
      obtain ⟨name, -, hspan⟩ := hspan
      obtain ⟨length, -, rfl⟩ := Option.map_eq_some_iff.mp hspan
      dsimp only
      omega
  exact ⟨Nat.succ_pos _, hstart⟩

/-- A function that is too complex begins on a line of the source. -/
theorem line_of_mem_overLines {texts : List (List Char)} {n : Nat} (h : n ∈ overLines p (functionsOf t texts)) :
    1 ≤ n ∧ n ≤ texts.length := by
  obtain ⟨f, hf, rfl⟩ := List.mem_map.mp h
  exact line_of_mem_functionsOf (List.mem_of_mem_filter hf)

/-- Functions that move down begin further down. -/
theorem overLines_moved (place : Nat) (functions : List FunctionInfo) :
    overLines p (functions.map (FunctionInfo.moved place)) = (overLines p functions).map (Functions.moved (place + 1)) := by
  rw [overLines, List.filter_map, List.map_map, overLines, List.map_map]
  rfl

/-- Part of the way through putting markers in: `done` has become `out`, the functions still ahead begin where they are looked for,
and those behind that are too complex have their markers. -/
structure Marking (t : Toolchain) (p : Profile) (high : List Nat) (done out rest : List (List Char)) : Prop where
  last : out.getLast? = done.getLast?
  ahead : ∀ i, done.length + (i + 1) ∈ high ↔ out.length + (i + 1) ∈ overLines p (functionsOf t (out ++ rest))
  behind : ∀ n ∈ overLines p (functionsOf t (out ++ rest)), n ≤ out.length → Announced out n

/-- A line that needs no marker stays. -/
theorem Marking.keep (h : Marking t p high done out (text :: rest))
    (hmarked : done.length + 1 ∈ high → contains (done.getLast?.getD []) annotation = true) :
    Marking t p high (done ++ [text]) (out ++ [text]) rest := by
  have hsame : out ++ [text] ++ rest = out ++ text :: rest := by rw [List.append_assoc, List.singleton_append]
  refine ⟨by simp, fun i => ?_, fun n hn hle => ?_⟩
  · have hahead := h.ahead (i + 1)
    rw [hsame, List.length_append, List.length_append, List.length_singleton, Nat.add_assoc, Nat.add_assoc, Nat.add_comm 1]
    exact hahead
  · rw [hsame] at hn
    rw [List.length_append, List.length_singleton] at hle
    rcases Nat.lt_or_ge out.length n with hlt | hge
    · obtain rfl : n = out.length + 1 := by omega
      rw [announced_succ, h.last]
      exact hmarked ((h.ahead 0).mpr hn)
    · exact (h.behind n hn hge).append [text]

/-- A line that needs a marker gets one. -/
theorem Marking.put (h : Marking t p high done out (text :: rest)) {mark : List Char} (hmark : contains mark annotation = true)
    (hfunctions : functionsOf t (out ++ mark :: text :: rest) =
      (functionsOf t (out ++ text :: rest)).map (FunctionInfo.moved out.length)) :
    Marking t p high (done ++ [text]) (out ++ [mark, text]) rest := by
  have hsame : out ++ [mark, text] ++ rest = out ++ mark :: text :: rest := by rw [List.append_assoc]; rfl
  have hover : overLines p (functionsOf t (out ++ [mark, text] ++ rest)) =
      (overLines p (functionsOf t (out ++ text :: rest))).map (Functions.moved (out.length + 1)) := by
    rw [hsame, hfunctions, overLines_moved]
  have hlength : (out ++ [mark, text]).length = out.length + 2 := by rw [List.length_append]; rfl
  refine ⟨by simp, fun i => ?_, fun n hn hle => ?_⟩
  · have hahead := h.ahead (i + 1)
    have hmoved : Functions.moved (out.length + 1) (out.length + (i + 1 + 1)) = out.length + 2 + (i + 1) := by
      rw [Functions.moved_of_le (by omega)]
      omega
    have hdone : (done ++ [text]).length + (i + 1) = done.length + (i + 1 + 1) := by
      rw [List.length_append, List.length_singleton]
      omega
    rw [hover, hlength, ← hmoved, hdone, hahead, List.mem_map]
    constructor
    · intro hn
      exact ⟨_, hn, rfl⟩
    · rintro ⟨n, hn, heq⟩
      rwa [Functions.moved_inj.mp heq] at hn
  · rw [hover] at hn
    rw [hlength] at hle
    obtain ⟨m, hm, rfl⟩ := List.mem_map.mp hn
    rcases Nat.lt_or_ge m (out.length + 1) with hlt | hge
    · rw [Functions.moved_of_lt hlt]
      exact (h.behind m hm (Nat.le_of_lt_succ hlt)).append _
    · rw [Functions.moved_of_le hge] at hle ⊢
      obtain rfl : m = out.length + 1 := by omega
      have hlast := announced_succ (out ++ [mark]) [text]
      rw [List.append_assoc, List.length_append, List.length_singleton] at hlast
      rw [List.cons_append, List.nil_append] at hlast
      rw [hlast, List.getLast?_concat]
      exact hmark

/-- No comment of a source is marked. -/
def Unmarked (t : Toolchain) (texts : List (List Char)) : Prop :=
  ∀ comment ∈ (linesFrom t .code 1 texts).map (·.comment), comment.any Satd.isMarked = false

/-- No debt is found when no comment is marked. -/
theorem detectSatd_eq_nil_iff (file : String) (content : List Char) :
    detectSatd t file content = [] ↔ Unmarked t (splitLines content) := by
  rw [detectSatd, List.filterMap_eq_nil_iff, Unmarked, List.forall_mem_map]
  refine forall₂_congr fun line _ => ?_
  rw [← Satd.isSome_itemOf? file, Option.isSome_eq_false_iff, Option.isNone_iff_eq_none]

/-- The comments of lines do not depend on how the lines are numbered. -/
theorem map_comment_linesFrom (mode : Mode) (number number' : Nat) (texts : List (List Char)) :
    (linesFrom t mode number texts).map (·.comment) = (linesFrom t mode number' texts).map (·.comment) := by
  have hsame := congrArg (List.map (·.comment)) (map_unnumbered_linesFrom (t := t) mode number number' texts)
  rwa [List.map_map, List.map_map] at hsame

/-- A marker line that is put into a source moves the functions behind it and marks nothing. -/
theorem functionsOf_markerLine (out below : List (List Char)) (text : List Char) :
    functionsOf t (out ++ (leadingBlanks text ++ marker t) :: below) =
        (functionsOf t (out ++ below)).map (FunctionInfo.moved out.length) ∧
      (Unmarked t (out ++ below) → Unmarked t (out ++ (leadingBlanks text ++ marker t) :: below)) := by
  have hblanks := Satd.leadingBlanks_blank text
  obtain ⟨hidle, hsaid⟩ := idle_markerLine (atLineStart_modeFrom (t := t) atLineStart_code out) hblanks
  refine ⟨functionsOf_inserted hidle, fun hunmarked comment hcomment => ?_⟩
  rw [linesFrom_append, linesFrom, List.map_append, List.map_cons, hidle.next,
    map_comment_linesFrom _ (1 + out.length + 1) (1 + out.length)] at hcomment
  rw [Unmarked, linesFrom_append, List.map_append] at hunmarked
  rcases List.mem_append.mp hcomment with hcomment | hcomment
  · exact hunmarked comment (List.mem_append_left _ hcomment)
  rcases List.mem_cons.mp hcomment with rfl | hcomment
  · rw [Cursor.toLine]
    cases hsome : (steps t (start (modeFrom t .code out)) (leadingBlanks text ++ marker t)).comment with
    | none => rfl
    | some said => exact not_isMarked_of_infix hblanks (hsaid said hsome)
  · exact hunmarked comment (List.mem_append_right _ hcomment)

/-- A marker line is found to be one. -/
theorem contains_marker (t : Toolchain) (blanks : List Char) : contains (blanks ++ marker t) annotation = true := by
  rw [contains_iff_isInfix, marker]
  exact ((List.suffix_append _ _).trans (List.suffix_append _ _)).isInfix

/-- Putting all markers in leaves the values of the functions, has a marker above each that is too complex, and marks nothing. -/
theorem withMarkers_of_marking (h : Marking t p high done out rest) :
    (functionsOf t (out ++ withMarkers t high done rest)).map FunctionInfo.values =
        (functionsOf t (out ++ rest)).map FunctionInfo.values ∧
      (∀ n ∈ overLines p (functionsOf t (out ++ withMarkers t high done rest)),
        Announced (out ++ withMarkers t high done rest) n) ∧
      (Unmarked t (out ++ rest) → Unmarked t (out ++ withMarkers t high done rest)) := by
  induction rest generalizing done out with
  | nil =>
    refine ⟨rfl, fun n hn => ?_, id⟩
    have hle := (line_of_mem_overLines hn).2
    rw [withMarkers, List.append_nil] at hle
    exact (h.behind n hn hle).append []
  | cons text rest ih =>
    rw [withMarkers]
    by_cases hmarks : done.length + 1 ∈ high ∧ contains (done.getLast?.getD []) annotation = false
    · obtain ⟨hfunctions, hunmarked⟩ := functionsOf_markerLine (t := t) out (text :: rest) text
      obtain ⟨hvalues, hannounced, hrest⟩ := ih (h.put (contains_marker t (leadingBlanks text)) hfunctions)
      rw [if_pos hmarks, ← List.append_assoc]
      refine ⟨hvalues.trans ?_, hannounced, fun hbefore => hrest ?_⟩
      · rw [List.append_assoc, List.cons_append, List.singleton_append, hfunctions, List.map_map]
        rfl
      · rw [List.append_assoc]
        exact hunmarked hbefore
    · have hkeep := h.keep fun hover => by
        rw [← Bool.not_eq_false]
        exact fun hfalse => hmarks ⟨hover, hfalse⟩
      have hsame : out ++ [text] ++ rest = out ++ text :: rest := by rw [List.append_assoc, List.singleton_append]
      obtain hall := ih hkeep
      rw [hsame, List.append_assoc] at hall
      rw [if_neg hmarks]
      exact hall

/-- Where each function that is too complex has its marker, nothing is put in. -/
theorem withMarkers_of_announced (h : ∀ n ∈ high, Announced (done ++ rest) n) : withMarkers t high done rest = rest := by
  induction rest generalizing done with
  | nil => rfl
  | cons text rest ih =>
    have hnot : ¬(done.length + 1 ∈ high ∧ contains (done.getLast?.getD []) annotation = false) := by
      rintro ⟨hover, hfalse⟩
      rw [(announced_succ done (text :: rest)).mp (h _ hover)] at hfalse
      cases hfalse
    rw [withMarkers, if_neg hnot, ih fun n hn => by
      rw [List.append_assoc]
      exact h n hn]
    rfl

/-- Markers are lines, and leave the others lines. -/
theorem lineFeed_notMem_withMarkers (h : ∀ text ∈ rest, '\n' ∉ text) : ∀ line ∈ withMarkers t high done rest, '\n' ∉ line := by
  have hmarker : '\n' ∉ marker t := by cases t <;> decide +kernel
  induction rest generalizing done with
  | nil => exact List.forall_mem_nil _
  | cons text rest ih =>
    have htext := h text List.mem_cons_self
    have hlead : '\n' ∉ leadingBlanks text := fun hmem => htext ((List.takeWhile_prefix _).subset hmem)
    intro line hline
    rw [withMarkers] at hline
    rcases List.mem_append.mp hline with hline | hline
    · split at hline
      · rcases List.mem_cons.mp hline with rfl | hline
        · rw [List.mem_append, not_or]
          exact ⟨hlead, hmarker⟩
        · rwa [List.mem_singleton.mp hline]
      · rwa [List.mem_singleton.mp hline]
    · exact ih (fun other hother => h other (List.mem_cons_of_mem _ hother)) line hline

/-- No line is taken away. -/
theorem withMarkers_ne_nil (h : rest ≠ []) : withMarkers t high done rest ≠ [] := by
  obtain ⟨text, rest, rfl⟩ := List.exists_cons_of_ne_nil h
  rw [withMarkers]
  split <;> simp

end Markers

/-! ## Plans -/

/-- The plan for a content with its own outline, where no violations are given. -/
def planOf (t : Toolchain) (path : String) (p : Profile) (content : List Char) : RewritePlan :=
  buildPlan { filePath := path, content := some content, toolchain := t, violations := [], outline := outline t content, profile := p }

/-- A plan for a content without debt puts markers above the functions that are too complex. -/
theorem newContent_planOf {t : Toolchain} {path : String} {content : List Char} (h : detectSatd t path content = []) (p : Profile) :
    (planOf t path p content).newContent =
      joinLines (withMarkers t (overLines p (outline t content).functions) [] (splitLines content)) := by
  rw [planOf, buildPlan]
  dsimp only [Option.map_some, Option.getD_some]
  rw [findings]
  dsimp only
  rw [h, List.map_nil, List.append_nil, List.nil_append, annotate_highComplexity]

end Plan

/-- The plan of a content without debt puts one marker line above each function that is too complex and has none; the functions keep
their names and values, each that is too complex has its marker in the line above, and a second plan leaves all as it is. -/
theorem planOf_newContent {t : Toolchain} {path : String} {content : List Char} (h : detectSatd t path content = []) (p : Profile) :
    (planOf t path p content).newContent =
        joinLines (withMarkers t (overLines p (outline t content).functions) [] (splitLines content)) ∧
      (outline t (planOf t path p content).newContent).functions.map FunctionInfo.values =
        (outline t content).functions.map FunctionInfo.values ∧
      (∀ f ∈ (outline t (planOf t path p content).newContent).functions, exceeds p f = true →
        Announced (splitLines (planOf t path p content).newContent) f.line) ∧
      (planOf t path p (planOf t path p content).newContent).newContent = (planOf t path p content).newContent := by
  have hplan := newContent_planOf h p
  generalize hover : overLines p (outline t content).functions = high at hplan
  -- the lines are gone through from the first one on, with none done
  have hstart : Marking t p high [] [] (splitLines content) := by
    refine ⟨rfl, fun i => ?_, fun n hn hle => ?_⟩
    · rw [← hover]
      rfl
    · have hlow := (line_of_mem_overLines hn).1
      rw [List.length_nil] at hle
      omega
  obtain ⟨hvalues, hannounced, hunmarked⟩ := withMarkers_of_marking hstart
  simp only [List.nil_append] at hvalues hannounced hunmarked
  have hne : splitLines content ≠ [] := by
    rw [splitLines_eq_splitOn]
    exact List.splitOn_ne_nil '\n' content
  have hlines : splitLines (planOf t path p content).newContent = withMarkers t high [] (splitLines content) := by
    rw [hplan]
    exact splitLines_joinLines (lineFeed_notMem_withMarkers fun text htext => lineFeed_notMem_of_mem_splitLines htext)
      (withMarkers_ne_nil hne)
  have hfunctions : (outline t (planOf t path p content).newContent).functions =
      functionsOf t (withMarkers t high [] (splitLines content)) := by
    rw [← hlines]
    rfl
  have hclean : detectSatd t path (planOf t path p content).newContent = [] := by
    rw [detectSatd_eq_nil_iff, hlines]
    exact hunmarked ((detectSatd_eq_nil_iff path content).mp h)
  refine ⟨hplan, ?_, ?_, ?_⟩
  · rw [hfunctions]
    exact hvalues
  · intro f hf hexceeds
    rw [hlines]
    rw [hfunctions] at hf
    exact hannounced f.line (List.mem_map.mpr ⟨f, List.mem_filter.mpr ⟨hf, hexceeds⟩, rfl⟩)
  · rw [newContent_planOf hclean, hfunctions, hlines]
    have hkeeps : ∀ lines, (∀ n ∈ overLines p (functionsOf t lines), Announced lines n) →
        withMarkers t (overLines p (functionsOf t lines)) [] lines = lines := fun lines hall => withMarkers_of_announced hall
    rw [hkeeps _ hannounced, ← hplan]

namespace NestedFunctions

/-- A function inside another, each with a condition. -/
def content : List Char :=
  joinLines ["function outer(a) \x7b".toList, "  function inner(b) \x7b".toList, "    return b ? 1 : 0 || 2;".toList, "  \x7d".toList,
    "  if (a) return inner(a);".toList, "\x7d".toList]

/-- No decision is allowed. -/
def strict : Profile := ⟨80, 1, 1, 0⟩

end NestedFunctions

open NestedFunctions in
/-- Both functions get a marker, the inner one within the outer, and keep their values. -/
theorem nestedFunctions_marked :
    detectSatd deno "a.ts" content = [] ∧
      (outline deno content).functions.map FunctionInfo.values = [("outer", 2, 1), ("inner", 2, 0)] ∧
      (outline deno (planOf deno "a.ts" strict content).newContent).functions.map FunctionInfo.values =
        [("outer", 2, 1), ("inner", 2, 0)] ∧
      (splitLines (planOf deno "a.ts" strict content).newContent)[2]? =
        some "  // COMPLEXITY: This function needs to be broken down".toList ∧
      (planOf deno "a.ts" strict (planOf deno "a.ts" strict content).newContent).newContent =
        (planOf deno "a.ts" strict content).newContent := by
  have hclean : detectSatd deno "a.ts" content = [] := by decide +kernel
  have hvalues : (outline deno content).functions.map FunctionInfo.values = [("outer", 2, 1), ("inner", 2, 0)] := by decide +kernel
  obtain ⟨hplan, hsame, -, hagain⟩ := planOf_newContent hclean strict
  exact ⟨hclean, hvalues, hsame.trans hvalues, by decide +kernel, hagain⟩

end QualityGate
