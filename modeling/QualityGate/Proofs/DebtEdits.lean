import QualityGate.Proofs.Lines
import QualityGate.Proofs.Scanning
import QualityGate.Source.Satd

/-!
# What the removal of markers leaves

The removal works line by line: every scanned line leaves nothing, itself, or another text (`editLine`). What the lines left of a
source hold as code is `codeFrom`, and the mode they lead to is `modeFrom`. Here is what either comes to on an edited line, by the
kind of edit.
-/

namespace QualityGate

open Scan

/-! ## Line by line -/

/-- The code of a line without trailing blanks, if it has any. -/
def shown (code : List Char) : List (List Char) := [trimEnd code].filter fun code => !code.isEmpty

/-- The code of a source, line by line: without trailing blanks, and without the lines that hold none. -/
def codeOf (t : Toolchain) (content : List Char) : List (List Char) :=
  ((scan t content).map fun line => trimEnd line.code).filter fun code => !code.isEmpty

/-- The code of lines that are scanned from a mode on. -/
def codeFrom (t : Toolchain) : Mode → List (List Char) → List (List Char)
  | _, [] => []
  | mode, text :: rest => shown (steps t (start mode) text).code.reverse ++ codeFrom t (nextMode (steps t (start mode) text).mode) rest

/-- The code of lines behind others goes on from the mode that those lead to. -/
theorem codeFrom_append (t : Toolchain) (mode : Mode) (texts more : List (List Char)) :
    codeFrom t mode (texts ++ more) = codeFrom t mode texts ++ codeFrom t (modeFrom t mode texts) more := by
  induction texts generalizing mode with
  | nil => rfl
  | cons text texts ih => rw [List.cons_append, codeFrom, ih, codeFrom, modeFrom, List.append_assoc]

/-- The code of scanned lines does not depend on their numbers. -/
theorem codeFrom_eq (t : Toolchain) (mode : Mode) (number : Nat) (texts : List (List Char)) :
    ((linesFrom t mode number texts).map fun line => trimEnd line.code).filter (fun code => !code.isEmpty) =
      codeFrom t mode texts := by
  induction texts generalizing mode number with
  | nil => rfl
  | cons text texts ih =>
    rw [linesFrom, codeFrom, List.map_cons, ← List.singleton_append, List.filter_append, ih]
    rfl

theorem codeOf_eq_codeFrom (t : Toolchain) (content : List Char) : codeOf t content = codeFrom t .code (splitLines content) :=
  codeFrom_eq t .code 1 (splitLines content)

/-- Lines that are joined and split again hold the code they held; no lines at all become an empty one. -/
theorem codeOf_joinLines (t : Toolchain) {lines : List (List Char)} (h : ∀ line ∈ lines, '\n' ∉ line) :
    codeOf t (joinLines lines) = codeFrom t .code lines := by
  rw [codeOf_eq_codeFrom]
  by_cases hne : lines = []
  · subst hne
    rfl
  · rw [splitLines_joinLines h hne]

namespace Satd

/-- What the removal leaves of a scanned line. -/
def editLine (line : Line) : List (List Char) :=
  match editOf? line with
  | none => [line.text]
  | some .drop => []
  | some (.replace other) => [other]

/-- The edits of the lines from a number on that are looked at. -/
theorem applyFrom_congr {edits edits' : LineEdits} {number : Nat} (texts : List (List Char))
    (h : ∀ m : Nat, number ≤ m → edits.get? m = edits'.get? m) : edits.applyFrom number texts = edits'.applyFrom number texts := by
  induction texts generalizing number with
  | nil => rfl
  | cons text texts ih =>
    rw [LineEdits.applyFrom, LineEdits.applyFrom, h number (Nat.le_refl number),
      ih fun m hm => h m (Nat.le_of_succ_le hm)]

/-- Lines are numbered upwards. -/
theorem number_le_of_mem_linesFrom {t : Toolchain} {mode : Mode} {number : Nat} {texts : List (List Char)} {line : Line}
    (h : line ∈ linesFrom t mode number texts) : number ≤ line.number := by
  induction texts generalizing mode number with
  | nil => cases h
  | cons text texts ih =>
    rcases List.mem_cons.mp h with rfl | h
    · exact Nat.le_refl _
    · exact Nat.le_of_succ_le (ih h)

/-- A line has its own edit, and the others have theirs. -/
theorem get?_editsOf_cons (line : Line) (lines : List Line) (m : Int) :
    (editsOf (line :: lines)).get? m = if m = line.number then (editOf? line).or ((editsOf lines).get? m)
      else (editsOf lines).get? m := by
  unfold editsOf LineEdits.get?
  cases hedit : editOf? line with
  | none => simp [hedit]
  | some edit =>
    rw [List.filterMap_cons_some (by rw [hedit]; rfl), List.lookup_cons]
    by_cases hm : m = line.number
    · simp [hm]
    · rw [beq_eq_false_iff_ne.mpr hm, if_neg hm]

/-- There is no edit for a line above those that are edited. -/
theorem get?_editsOf_of_lt {lines : List Line} {m : Nat} (h : ∀ line ∈ lines, m < line.number) :
    (editsOf lines).get? m = none := by
  induction lines with
  | nil => rfl
  | cons line lines ih =>
    have hne : (m : Int) ≠ line.number := by
      have := h line List.mem_cons_self
      omega
    rw [get?_editsOf_cons, if_neg hne, ih fun l hl => h l (List.mem_cons_of_mem _ hl)]

/-- Carrying out the edits of scanned lines leaves what the edit of each line leaves. -/
theorem applyFrom_editsOf (t : Toolchain) (mode : Mode) (number : Nat) (texts : List (List Char)) :
    (editsOf (linesFrom t mode number texts)).applyFrom number texts = (linesFrom t mode number texts).flatMap editLine := by
  induction texts generalizing mode number with
  | nil => rfl
  | cons text texts ih =>
    rw [linesFrom]
    generalize hline : (steps t (start mode) text).toLine number text = line
    generalize hlines : linesFrom t (nextMode (steps t (start mode) text).mode) (number + 1) texts = lines
    have hnumber : line.number = number := by rw [← hline]; rfl
    have hlater : ∀ l ∈ lines, number < l.number := fun l hl => number_le_of_mem_linesFrom (hlines ▸ hl)
    have hhead : (editsOf (line :: lines)).get? number = editOf? line := by
      rw [get?_editsOf_cons, if_pos (by rw [hnumber]), get?_editsOf_of_lt hlater, Option.or_none]
    have hrest : (editsOf (line :: lines)).applyFrom (number + 1) texts = lines.flatMap editLine := by
      rw [← hlines, ← ih, hlines]
      refine applyFrom_congr texts fun m hm => ?_
      rw [get?_editsOf_cons, if_neg (by rw [hnumber]; omega)]
    rw [LineEdits.applyFrom, hhead, hrest, List.flatMap_cons, editLine]
    cases editOf? line with
    | none => rw [← hline]; rfl
    | some edit => cases edit <;> rfl

/-! ## The kinds of edits -/

/-- Whether a text opens a block comment and holds no end of one. -/
def opensOnly (text : List Char) : Bool := "/*".toList.isPrefixOf text && !contains text "*/".toList

/-- Whether a text holds an end of a block comment and opens none. -/
def closesOnly (text : List Char) : Bool := !"/*".toList.isPrefixOf text && contains text "*/".toList

/-- A line that is nothing but a comment leaves the sign that opens or closes one, or goes. -/
theorem editBare_eq (text : List Char) :
    editBare text = if opensOnly (trim text) then .replace (leadingBlanks text ++ ['/', '*'])
      else if closesOnly (trim text) then .replace (leadingBlanks text ++ ['*', '/']) else .drop := rfl

/-- What is left of a line up to a place, and the start of a comment that goes on behind the line. -/
def keptOf (text : List Char) (at_ : Nat) : List Char :=
  trimEnd (text.take at_) ++ if opensOnly (text.drop at_) then [' ', '/', '*'] else []

/-- An edited line has a comment. With code on it, what stands before the trailing comment is kept; without, at most a delimiter. -/
theorem editOf?_cases {line : Line} {edit : LineEdit} (h : editOf? line = some edit) :
    line.comment ≠ none ∧ (line.hasCode = true ∧ (∃ at_, line.commentAt = some at_ ∧ edit = .replace (keptOf line.text at_)) ∨
      line.hasCode = false ∧ edit = editBare line.text) := by
  unfold editOf? at h
  cases hcomment : line.comment with
  | none => simp [hcomment] at h
  | some comment =>
    refine ⟨Option.some_ne_none _, ?_⟩
    simp only [hcomment, Option.bind_eq_bind, Option.bind_some] at h
    split at h
    · cases h
    · split at h
      · rename_i hcode
        refine .inl ⟨hcode, ?_⟩
        unfold editTail? at h
        cases hat : line.commentAt with
        | none => simp [hat] at h
        | some at_ =>
          refine ⟨at_, rfl, ?_⟩
          simp only [hat, Option.bind_eq_bind, Option.bind_some] at h
          unfold keptOf opensOnly
          split at h
          · cases h
          · split at h
            · rename_i hopens
              rw [if_pos hopens]
              exact (Option.some.inj h).symm
            · rename_i hopens
              rw [if_neg hopens, List.append_nil]
              exact (Option.some.inj h).symm
      · rename_i hcode
        exact .inr ⟨Bool.eq_false_iff.mpr hcode, (Option.some.inj h).symm⟩

/-- A line without a marker in its comment is not edited. -/
theorem editOf?_eq_none {line : Line} (h : ∀ comment, line.comment = some comment → isMarked comment = false) :
    editOf? line = none := by
  unfold editOf?
  cases hcomment : line.comment with
  | none => rfl
  | some comment =>
    simp only [Option.bind_eq_bind, Option.bind_some, h comment hcomment]
    rfl

/-- What is left of a line is a line, or none. -/
theorem lineFeed_notMem_editLine {line : Line} (hline : '\n' ∉ line.text) : ∀ text ∈ editLine line, '\n' ∉ text := by
  have hlead : '\n' ∉ leadingBlanks line.text := fun hmem => hline ((List.takeWhile_prefix _).subset hmem)
  have hkept : ∀ at_, '\n' ∉ trimEnd (line.text.take at_) := fun at_ hmem =>
    hline (List.mem_of_mem_take ((trimEnd_isPrefix _).subset hmem))
  intro text htext
  unfold editLine at htext
  cases hedit : editOf? line with
  | none =>
    rw [hedit, List.mem_singleton] at htext
    rwa [htext]
  | some edit =>
    rw [hedit] at htext
    obtain ⟨-, ⟨-, at_, -, rfl⟩ | ⟨-, rfl⟩⟩ := editOf?_cases hedit
    · rw [List.mem_singleton] at htext
      rw [htext, keptOf]
      split <;> simp [hkept at_]
    · rw [editBare_eq] at htext
      split_ifs at htext <;> simp_all

/-! ## Modes by their depth -/

/-- How deep inside block comments a mode is. -/
def depth : Mode → Nat
  | .blockComment depth => depth
  | _ => 0

/-- The mode at the start of a line that is so deep inside block comments. -/
def atDepth : Nat → Mode
  | 0 => .code
  | depth + 1 => .blockComment (depth + 1)

/-- The modes that a line can start in. -/
def Starts (mode : Mode) : Prop := Regular mode ∧ mode ≠ .lineComment

@[simp] theorem depth_atDepth (n : Nat) : depth (atDepth n) = n := by cases n <;> rfl

/-- Behind each line there is a mode that a line can start in. -/
theorem starts_nextMode {mode : Mode} (h : Regular mode) : Starts (nextMode mode) := by
  cases mode with
  | lineComment => exact ⟨trivial, nofun⟩
  | code => exact ⟨trivial, nofun⟩
  | blockComment => exact ⟨h, nofun⟩
  | literal => exact ⟨h, nofun⟩

/-- Outside literals the depth tells in which mode the next line starts. -/
theorem nextMode_eq_atDepth {mode : Mode} (h : Regular mode) (hliteral : isLiteral mode = false) :
    nextMode mode = atDepth (depth mode) := by
  cases mode with
  | lineComment | code => rfl
  | literal => cases hliteral
  | blockComment n =>
    obtain ⟨m, rfl⟩ := Nat.exists_eq_succ_of_ne_zero (Nat.ne_of_gt h)
    rfl

/-- A line that starts outside literals starts in code or inside so many comments. -/
theorem Starts.eq_atDepth {mode : Mode} (h : Starts mode) (hliteral : isLiteral mode = false) : mode = atDepth (depth mode) := by
  rw [← nextMode_eq_atDepth h.1 hliteral]
  cases mode with
  | lineComment => exact absurd rfl h.2
  | _ => rfl

/-! ## The code of one line -/

theorem codeFrom_singleton (t : Toolchain) (mode : Mode) (text : List Char) :
    codeFrom t mode [text] = shown (steps t (start mode) text).code.reverse := List.append_nil _

/-- Nothing is shown of blanks only. -/
theorem shown_eq_nil_iff {code : List Char} : shown code = [] ↔ ∀ c ∈ code, isBlank c = true := by
  rw [← trimEnd_eq_nil_iff]
  simp [shown]

/-- Blanks behind the code of a line are not shown. -/
theorem shown_append_blanks (code : List Char) {blanks : List Char} (h : ∀ c ∈ blanks, isBlank c = true) :
    shown (code ++ blanks) = shown code := by
  rw [shown, trimEnd_append_blanks code h, shown]

theorem isBlank_of_mem_space : ∀ c ∈ [' '], isBlank c = true := List.forall_mem_singleton.mpr (by decide)

/-- No token reaches into the sign that opens a comment, behind a blank. -/
theorem inert_open : Inert [' ', '/', '*'] := by
  refine ⟨⟨' ', ['/', '*'], rfl, by decide⟩, fun c hc => ?_⟩
  have hnone : [' ', '/', '*'].all (fun c => !isDelimiter c) = true := by decide
  exact (Bool.not_eq_true' _).mp (List.all_eq_true.mp hnone c hc)

/-- The scanner at the trailing comment of a line: all the code of the line is behind it. -/
theorem exists_ahead_of_commentAt {t : Toolchain} {mode : Mode} {number at_ : Nat} {text : List Char} (hmode : Regular mode)
    (hcode : ((steps t (start mode) text).toLine number text).hasCode = true)
    (hat : ((steps t (start mode) text).toLine number text).commentAt = some at_) :
    ∃ c rest, text.drop at_ = c :: rest ∧ (ahead t (start mode) (text.take at_) (c :: rest)).skip = 0 ∧
      (ahead t (start mode) (text.take at_) (c :: rest)).mode = .code ∧ opensComment t c rest = true ∧
      (ahead t (start mode) (text.take at_) (c :: rest)).code = (steps t (start mode) text).code ∧
      isLiteral (steps t (start mode) text).mode = false := by
  have hnonempty : (steps t (start mode) text).code ≠ [] := by
    intro hnil
    simp [Line.hasCode, Cursor.toLine, hnil] at hcode
  obtain ⟨⟨place, length⟩, htail, rfl⟩ := Option.map_eq_some_iff.mp hat
  obtain ⟨htail, hlength⟩ := Option.filter_eq_some_iff.mp htail
  rw [decide_eq_true_eq] at hlength
  rcases steps_tail t (start mode) text with hsame | ⟨done, c, rest, rfl, hskip, hcodeMode, hopens, hset⟩
  · rw [htail] at hsame
    cases mode with
    | blockComment =>
      obtain ⟨-, rfl⟩ := Prod.mk.inj (Option.some.inj hsame)
      exact absurd (List.length_eq_zero_iff.mp hlength) hnonempty
    | _ => cases hsame
  · rw [htail] at hset
    obtain ⟨rfl, rfl⟩ := Prod.mk.inj (Option.some.inj hset)
    have hplace : (start mode).position + done.length = done.length := Nat.zero_add _
    rw [hplace, List.take_left, List.drop_left]
    refine ⟨c, rest, rfl, hskip, hcodeMode, hopens, ?_⟩
    obtain ⟨new, hnew, hkeeps⟩ := steps_extends (t := t) (ahead_regular (t := t) (k := start mode) hmode done (c :: rest)) (c :: rest)
    rw [← steps_append] at hnew hkeeps
    obtain rfl : new = [] := by
      rw [hnew, List.length_append] at hlength
      exact List.length_eq_zero_iff.mp (by omega)
    rcases hkeeps with ⟨c, hc, -⟩ | ⟨hliteral, -⟩
    · cases hc
    · exact ⟨hnew.symm, hliteral.trans (by rw [hcodeMode]; rfl)⟩

/-- A text that opens a comment begins with a slash. -/
theorem opensOnly_head {c : Char} {rest : List Char} (h : opensOnly (c :: rest) = true) : c = '/' := by
  simp only [opensOnly, Bool.and_eq_true] at h
  have := h.1
  simp at this
  exact this.1.symm

/-- What is kept of a line with code is all its code, and leads into a block comment where the line's last comment went on. -/
theorem kept_of_commentAt {t : Toolchain} {mode : Mode} {number at_ : Nat} {text : List Char} (hmode : Regular mode)
    (hcode : ((steps t (start mode) text).toLine number text).hasCode = true)
    (hat : ((steps t (start mode) text).toLine number text).commentAt = some at_) :
    codeFrom t mode [keptOf text at_] = codeFrom t mode [text] ∧
      modeFrom t mode [keptOf text at_] = atDepth (if opensOnly (text.drop at_) then 1 else 0) := by
  obtain ⟨c, rest, hdrop, hskip, hcodeMode, hopens, hcodeEq, -⟩ := exists_ahead_of_commentAt hmode hcode hat
  obtain ⟨blanks, hblanks, hblank⟩ := exists_trimEnd_append (text.take at_)
  generalize hkept : trimEnd (text.take at_) = kept at hblanks
  rw [hblanks] at hskip hcodeMode hcodeEq
  obtain ⟨hkeptMode, hkeptSkip, hkeptCode⟩ := code_before_blanks hmode rfl hblank hcodeMode hskip
  have hshown : shown (steps t (start mode) text).code.reverse = shown (steps t (start mode) kept).code.reverse := by
    rw [← hcodeEq, hkeptCode, List.reverse_append, List.reverse_reverse, shown_append_blanks _ hblank]
  rw [codeFrom_singleton, codeFrom_singleton, modeFrom, modeFrom, keptOf, hkept, hshown]
  by_cases hopen : opensOnly (text.drop at_) = true
  · rw [if_pos hopen, if_pos hopen]
    have hhash : hashComments t = false := by
      rw [hdrop] at hopen
      rw [opensOnly_head hopen, opensComment] at hopens
      by_contra h
      rw [Bool.not_eq_false] at h
      rw [if_pos h] at hopens
      exact absurd hopens (by decide)
    have hsteps : steps t (start mode) (kept ++ [' ', '/', '*']) =
        steps t (ahead t (steps t (start mode) kept) [' '] ['/', '*']) ['/', '*'] := by
      rw [steps_append, inert_open.ahead_eq_steps hmode kept, ← List.singleton_append, steps_append]
    have hregular := steps_regular (t := t) (k := start mode) hmode kept
    obtain ⟨hblankMode, hblankSkip, hblankCode⟩ :=
      ahead_blanks (t := t) hregular isBlank_of_mem_space ['/', '*']
    rw [hkeptMode] at hblankMode
    rw [hkeptSkip] at hblankSkip
    rw [if_pos hkeptMode] at hblankCode
    obtain ⟨hopenMode, hopenCode⟩ := steps_open_of_code hhash hblankSkip hblankMode
    rw [hsteps, hopenMode, hopenCode, hblankCode hkeptSkip, List.reverse_append, List.reverse_reverse,
      shown_append_blanks _ isBlank_of_mem_space]
    exact ⟨rfl, rfl⟩
  · rw [if_neg hopen, if_neg hopen, List.append_nil, hkeptMode]
    exact ⟨rfl, rfl⟩

/-! ## Lines without code -/

/-- A line with such a sign has it right behind its leading blanks. -/
theorem exists_leadingBlanks_append {text delimiter : List Char} (h : delimiter.isPrefixOf (trim text) = true) :
    ∃ rest, text = leadingBlanks text ++ (delimiter ++ rest) := by
  have hp : delimiter <+: trimStart text :=
    (List.isPrefixOf_iff_prefix.mp h).trans (trimEnd_isPrefix _)
  obtain ⟨rest, hrest⟩ := hp
  refine ⟨rest, ?_⟩
  rw [hrest]
  exact List.takeWhile_append_dropWhile.symm

theorem leadingBlanks_blank (text : List Char) : ∀ c ∈ leadingBlanks text, isBlank c = true :=
  fun _ hc => List.mem_takeWhile_imp hc

/-- A line with a comment and no code starts and ends outside literals, and its code is blank. -/
theorem outside_of_bare {t : Toolchain} {mode : Mode} {number : Nat} {text : List Char} (hmode : Regular mode)
    (hcode : ((steps t (start mode) text).toLine number text).hasCode = false)
    (hcomment : ((steps t (start mode) text).toLine number text).comment ≠ none) :
    isLiteral mode = false ∧ isLiteral (steps t (start mode) text).mode = false ∧
      ∀ c ∈ (steps t (start mode) text).code, isBlank c = true := by
  have hblank : ∀ c ∈ (steps t (start mode) text).code, isBlank c = true := by
    intro c hc
    simp only [Line.hasCode, Cursor.toLine, List.any_reverse, List.any_eq_false] at hcode
    simpa using hcode c hc
  obtain ⟨new, hnew, hkeeps⟩ := steps_extends (t := t) (k := start mode) hmode text
  rcases hkeeps with ⟨c, hc, hvisible⟩ | ⟨hliteral, hkeepsComment⟩
  · rw [hblank c (by rw [hnew]; exact List.mem_append_left _ hc)] at hvisible
    cases hvisible
  · have hstart : isLiteral mode = false := by
      cases mode with
      | literal close escapes =>
        exact absurd (congrArg (Option.map List.reverse) (hkeepsComment rfl)) hcomment
      | _ => rfl
    exact ⟨hstart, hliteral.trans hstart, hblank⟩

/-- Behind the leading blanks the mode is that at the start of the line, and there is no code. -/
theorem ahead_leadingBlanks {t : Toolchain} {mode : Mode} (hmode : Regular mode) (text rest : List Char) :
    (ahead t (start mode) (leadingBlanks text) rest).mode = mode ∧ (ahead t (start mode) (leadingBlanks text) rest).skip = 0 ∧
      ∀ c ∈ (ahead t (start mode) (leadingBlanks text) rest).code, isBlank c = true := by
  obtain ⟨hmode', hskip, hcode⟩ := ahead_blanks (t := t) (k := start mode) hmode (leadingBlanks_blank text) rest
  refine ⟨hmode', hskip.trans (Nat.zero_sub _), ?_⟩
  rw [hcode rfl]
  intro c hc
  split at hc
  · rw [List.mem_append, List.mem_reverse] at hc
    rcases hc with hc | hc
    · exact leadingBlanks_blank text c hc
    · cases hc
  · cases hc

/-- Where `#` opens comments, a slash in code is code. -/
theorem not_hashComments_of_blank {t : Toolchain} {text rest : List Char} (htext : text = leadingBlanks text ++ '/' :: rest)
    (hblank : ∀ c ∈ (steps t (start .code) text).code, isBlank c = true) : hashComments t = false := by
  rw [← Bool.not_eq_true]
  intro hhash
  obtain rfl : t = .pythonUv := of_decide_eq_true hhash
  have hregular : Regular (start .code).mode := trivial
  obtain ⟨hmode, hskip, -⟩ := ahead_leadingBlanks (t := .pythonUv) (show Regular .code from trivial) text ('/' :: rest)
  have hslash : (step .pythonUv (ahead .pythonUv (start .code) (leadingBlanks text) ('/' :: rest)) '/' rest).code =
      '/' :: (ahead .pythonUv (start .code) (leadingBlanks text) ('/' :: rest)).code := by
    simp [step, hskip, modeStep, hmode, codeStep, opensComment, hashComments, literal?, Cursor.emit]
  obtain ⟨new, hnew, -⟩ := steps_extends (t := .pythonUv) (step_regular (t := .pythonUv) '/' rest
    (ahead_regular (t := .pythonUv) hregular (leadingBlanks text) ('/' :: rest))) rest
  rw [hslash, ← steps, ← steps_append, ← htext] at hnew
  exact absurd (hblank '/' (by rw [hnew]; simp)) (by decide)

/-- The start of a block comment that is left of a line without code: a block comment opens there, unless one is open already that
holds no others. -/
theorem opening_of_bare {t : Toolchain} {mode : Mode} {text : List Char} (hmode : Starts mode) (hliteral : isLiteral mode = false)
    (hblank : ∀ c ∈ (steps t (start mode) text).code, isBlank c = true) (hopens : opensOnly (trim text) = true) :
    codeFrom t mode [leadingBlanks text ++ ['/', '*']] = [] ∧ modeFrom t mode [leadingBlanks text ++ ['/', '*']] =
      atDepth (if depth mode = 0 ∨ nestedBlocks t = true then depth mode + 1 else depth mode) := by
  obtain ⟨hmode', hskip, hcode⟩ := ahead_leadingBlanks (t := t) hmode.1 text ['/', '*']
  have hatDepth := hmode.eq_atDepth hliteral
  rw [codeFrom_singleton, modeFrom, modeFrom, steps_append, shown_eq_nil_iff]
  cases hdepth : depth mode with
  | zero =>
    rw [hdepth] at hatDepth
    subst hatDepth
    have hhash : hashComments t = false := by
      simp only [opensOnly, Bool.and_eq_true] at hopens
      obtain ⟨rest, htext⟩ := exists_leadingBlanks_append hopens.1
      exact not_hashComments_of_blank htext hblank
    obtain ⟨hopenMode, hopenCode⟩ := steps_open_of_code hhash hskip hmode'
    rw [hopenMode, hopenCode]
    exact ⟨fun c hc => hcode c (List.mem_reverse.mp hc), rfl⟩
  | succ n =>
    rw [hdepth] at hatDepth
    subst hatDepth
    obtain ⟨hopenMode, hopenCode⟩ := steps_open_of_block hskip hmode'
    rw [hopenMode, hopenCode]
    refine ⟨fun c hc => hcode c (List.mem_reverse.mp hc), ?_⟩
    cases hnested : nestedBlocks t <;> rfl

/-- The end of a block comment that is left of a line without code: it ends the block comment that is open, and is code where none
is. -/
theorem closing_of_bare {t : Toolchain} {mode : Mode} (hmode : Starts mode) (hliteral : isLiteral mode = false)
    (text : List Char) :
    if depth mode = 0 then codeFrom t mode [leadingBlanks text ++ ['*', '/']] ≠ []
    else codeFrom t mode [leadingBlanks text ++ ['*', '/']] = [] ∧
      modeFrom t mode [leadingBlanks text ++ ['*', '/']] = atDepth (depth mode - 1) := by
  obtain ⟨hmode', hskip, hcode⟩ := ahead_leadingBlanks (t := t) hmode.1 text ['*', '/']
  have hatDepth := hmode.eq_atDepth hliteral
  rw [codeFrom_singleton, modeFrom, modeFrom, steps_append, ne_eq, shown_eq_nil_iff]
  cases hdepth : depth mode with
  | zero =>
    rw [hdepth] at hatDepth
    subst hatDepth
    rw [if_pos rfl, steps_close_of_code hskip hmode']
    exact fun hall => absurd (hall '/' (by simp)) (by decide)
  | succ n =>
    rw [hdepth] at hatDepth
    subst hatDepth
    obtain ⟨hcloseMode, hcloseCode⟩ := steps_close_of_block hskip hmode'
    rw [if_neg (Nat.succ_ne_zero n), hcloseMode, hcloseCode]
    refine ⟨fun c hc => hcode c (List.mem_reverse.mp hc), ?_⟩
    cases n <;> rfl

end Satd

end QualityGate
