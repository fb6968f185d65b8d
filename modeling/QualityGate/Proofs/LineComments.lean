import QualityGate.Proofs.DebtRemoval
import QualityGate.Proofs.Markers

/-!
# Sources without block comments

Where no block comment opens, the only comment on a line is the one that runs to its end, and the scanner is outside comments at the
start of every line (`exists_comment`). Taking a marked comment away leaves what stands before it, which the scanner reads as it read
it in the line: without a comment, and in code at its end. So nothing is left that admits debt, and everything else stays
(`detectSatd_removeSatd`).
-/

namespace QualityGate

open Scan Satd

/-- The text of a line before its comment. -/
def Line.beforeComment (line : Line) : List Char := line.text.take (line.commentAt.getD line.text.length)

/-- What is left of a line without its comment: the text before it up to trailing blanks, and no line where there is none. -/
def Line.uncommented (line : Line) : List (List Char) := [trimEnd line.beforeComment].filter fun text => !text.isEmpty

/-- A comment as it stands in the text, with the sign that opens it. -/
def commentText (t : Toolchain) (comment : List Char) : List Char := if hashComments t then '#' :: comment else comment

namespace Scan

/-! ## The comment of a line -/

/-- The scanner outside comments, on a line that has had none. -/
structure Quiet (k : Cursor) : Prop where
  mode : k.mode = .code ∨ isLiteral k.mode = true
  comment : k.comment = none
  tail : k.tail = none

/-- A line that begins outside comments begins quietly. -/
theorem quiet_start {mode : Mode} (h : mode = .code ∨ isLiteral mode = true) : Quiet (start mode) := by
  cases mode with
  | code | literal => exact ⟨h, rfl, rfl⟩
  | lineComment | blockComment => simp [isLiteral] at h

/-- A step from outside comments stays there, or a comment opens. -/
theorem Quiet.step {t : Toolchain} {k : Cursor} (hk : Quiet k) (c : Char) (rest : List Char) :
    k.skip = 0 ∧ k.mode = .code ∧ opensComment t c rest = true ∨ Quiet (step t k c rest) := by
  obtain ⟨next, hmove, hstep⟩ := step_cases t k c rest
  have hnot : ∀ {depth : Nat}, ¬k.mode = .blockComment depth := by
    intro depth hmode
    rcases hk.mode with h | h <;> simp [hmode, isLiteral] at h
  suffices h : k.skip = 0 ∧ k.mode = .code ∧ opensComment t c rest = true ∨ Quiet next by
    rw [hstep]
    exact h.imp_right fun h => ⟨h.mode, h.comment, h.tail⟩
  cases hmove with
  | openLine free mode opens | openBlock free mode opens => exact .inl ⟨free, mode, opens⟩
  | openLiteral _ _ found =>
    obtain ⟨close, escapes, rfl, -⟩ := (opens_of_literal? found).closes
    exact .inr ⟨.inr rfl, hk.comment, hk.tail⟩
  | char | closeLiteral => exact .inr ⟨.inl rfl, hk.comment, hk.tail⟩
  | skip | plain | escape | inLiteral => exact .inr ⟨hk.mode, hk.comment, hk.tail⟩
  | sayLine _ mode => rcases hk.mode with h | h <;> simp [mode, isLiteral] at h
  | deepen _ mode | closeBlock _ mode | sayBlock _ mode => exact absurd mode hnot

/-- In a line comment everything is said. -/
theorem steps_lineComment (t : Toolchain) {k : Cursor} {said : List Char} (free : k.skip = 0) (mode : k.mode = .lineComment)
    (hsaid : k.comment = some said) (text : List Char) :
    (steps t k text).mode = .lineComment ∧ (steps t k text).comment = some (text.reverse ++ said) ∧
      (steps t k text).tail = k.tail ∧ (steps t k text).code = k.code := by
  induction text generalizing k said with
  | nil => exact ⟨mode, hsaid, rfl, rfl⟩
  | cons c text ih =>
    have hstep : step t k c text = { k.say [c] with previous := some c, position := k.position + 1 } := by
      simp [step, free, modeStep, mode]
    have hcomment : (k.say [c]).comment = some (c :: said) := by simp [Cursor.say, hsaid]
    obtain ⟨hmode, hall, htail, hcode⟩ := @ih (step t k c text) (c :: said) (by rw [hstep]; exact free)
      (by rw [hstep]; exact mode) (by rw [hstep]; exact hcomment)
    rw [hstep] at hmode hall htail hcode
    rw [steps, hstep, List.reverse_cons, List.append_assoc]
    exact ⟨hmode, hall, htail, hcode⟩

/-- A comment that runs to the end of a line, behind some text of it. -/
structure CommentBehind (t : Toolchain) (k : Cursor) (before comment : List Char) : Prop where
  free : (ahead t k before (commentText t comment)).skip = 0
  outside : (ahead t k before (commentText t comment)).mode = .code
  mode : (steps t k (before ++ commentText t comment)).mode = .lineComment
  said : (steps t k (before ++ commentText t comment)).comment = some comment.reverse
  tail : (steps t k (before ++ commentText t comment)).tail =
    some (k.position + before.length, (steps t k (before ++ commentText t comment)).code.length)
  code : (steps t k (before ++ commentText t comment)).code = (ahead t k before (commentText t comment)).code

/-- A comment stands behind a text when it does behind its first character. -/
theorem commentBehind_cons {t : Toolchain} {k : Cursor} {c : Char} {before comment : List Char} :
    CommentBehind t k (c :: before) comment ↔ CommentBehind t (step t k c (before ++ commentText t comment)) before comment := by
  have hposition : (step t k c (before ++ commentText t comment)).position + before.length = k.position + (c :: before).length := by
    rw [List.length_cons, Nat.add_comm before.length, ← Nat.add_assoc]
    rfl
  constructor
  · intro h
    exact ⟨h.free, h.outside, h.mode, h.said, hposition ▸ h.tail, h.code⟩
  · intro h
    exact ⟨h.free, h.outside, h.mode, h.said, hposition ▸ h.tail, h.code⟩

/-- The scanner behind the sign of a line comment. -/
theorem exists_opened {t : Toolchain} {k : Cursor} (hk : Quiet k) {c : Char} {rest : List Char} (free : k.skip = 0)
    (mode : k.mode = .code) (hopens : opensComment t c rest = true) (hblock : ¬"/*".toList <+: c :: rest) :
    ∃ sign more said, c :: rest = sign ++ more ∧ commentText t (said.reverse ++ more) = c :: rest ∧
      (ahead t k sign more).skip = 0 ∧ (ahead t k sign more).mode = .lineComment ∧ (ahead t k sign more).comment = some said ∧
      (ahead t k sign more).tail = some (k.position, k.code.length) ∧ (ahead t k sign more).code = k.code := by
  have hmark : k.mark true = { k with tail := some (k.position, k.code.length) } := by simp [Cursor.mark, hk.tail]
  cases hhash : hashComments t with
  | true =>
    obtain rfl : c = '#' := by simpa [opensComment, hhash] using hopens
    refine ⟨['#'], rest, [], rfl, by simp [commentText, hhash], ?_⟩
    simp [ahead, step, free, modeStep, mode, codeStep, hopens, hmark, hhash, Cursor.enter]
  | false =>
    have hopens' := hopens
    simp only [opensComment, hhash, Bool.false_eq_true, if_false, Bool.and_eq_true, Bool.or_eq_true, decide_eq_true_eq] at hopens
    obtain ⟨rfl, hhead | hhead⟩ := hopens <;> obtain ⟨more, rfl⟩ := List.head?_eq_some_iff.mp hhead
    · refine ⟨['/', '/'], more, ['/', '/'], rfl, by simp [commentText, hhash], ?_⟩
      simp [ahead, step, free, modeStep, mode, codeStep, hopens', hmark, hhash, Cursor.enter]
    · exact absurd ⟨more, rfl⟩ hblock

/-- Where a comment opens that is no block comment, it runs to the end of the line. -/
theorem exists_commentBehind {t : Toolchain} {k : Cursor} (hk : Quiet k) {c : Char} {rest : List Char} (free : k.skip = 0)
    (mode : k.mode = .code) (hopens : opensComment t c rest = true) (hblock : ¬"/*".toList <+: c :: rest) :
    ∃ comment, c :: rest = commentText t comment ∧ CommentBehind t k [] comment := by
  obtain ⟨sign, more, said, htext, hcomment, hfree, hmode, hsaid, htail, hcode⟩ := exists_opened hk free mode hopens hblock
  obtain ⟨hmode', hsaid', htail', hcode'⟩ := steps_lineComment t hfree hmode hsaid more
  rw [← steps_append, ← htext, ← hcomment] at hmode' hsaid' htail' hcode'
  refine ⟨said.reverse ++ more, hcomment.symm, ?_⟩
  exact {
    free := free
    outside := mode
    mode := hmode'
    said := by rw [List.reverse_append, List.reverse_reverse]; exact hsaid'
    tail := by rw [List.nil_append, htail', htail, hcode', hcode]; rfl
    code := hcode'.trans hcode }

/-- A line in which no block comment opens has no comment, or one that runs to its end. -/
theorem quiet_or_commentBehind {t : Toolchain} {k : Cursor} (hk : Quiet k) {text : List Char} (hblock : ¬"/*".toList <:+: text) :
    Quiet (steps t k text) ∨ ∃ before comment, text = before ++ commentText t comment ∧ CommentBehind t k before comment := by
  induction text generalizing k with
  | nil => exact .inl hk
  | cons c rest ih =>
    rcases hk.step (t := t) c rest with ⟨free, mode, hopens⟩ | hquiet
    · obtain ⟨comment, htext, hcomment⟩ := exists_commentBehind hk free mode hopens fun h => hblock h.isInfix
      exact .inr ⟨[], comment, htext, hcomment⟩
    · rcases ih hquiet fun h => hblock (List.infix_cons h) with hquiet | ⟨before, comment, rfl, hcomment⟩
      · exact .inl hquiet
      · exact .inr ⟨c :: before, comment, rfl, commentBehind_cons.mpr hcomment⟩

/-! ## Text and code before a comment -/

/-- A line has one comment. -/
theorem CommentBehind.length_eq {t : Toolchain} {k : Cursor} {before before' comment comment' : List Char}
    (h : CommentBehind t k before comment) (h' : CommentBehind t k before' comment')
    (htext : before ++ commentText t comment = before' ++ commentText t comment') : before.length = before'.length := by
  have htail := h.tail
  rw [htext, h'.tail] at htail
  have hplace := (Prod.mk.inj (Option.some.inj htail)).1
  omega

/-- Where there is no code before a comment there is no text either. -/
theorem CommentBehind.blank_of_code {t : Toolchain} {k : Cursor} {before comment : List Char} (h : CommentBehind t k before comment)
    (hk : Quiet k) (free : k.skip = 0) (mode : k.mode = .code) (hblock : ¬"/*".toList <:+: before ++ commentText t comment)
    (hcode : ∀ c ∈ (steps t k (before ++ commentText t comment)).code, isBlank c = true) : ∀ c ∈ before, isBlank c = true := by
  induction before generalizing k with
  | nil => exact fun c hc => absurd hc List.not_mem_nil
  | cons c before ih =>
    have hregular : Regular k.mode := by rw [mode]; trivial
    -- no comment opens at `c`, and what the step puts on the code channel stays there
    have hquiet : ¬opensComment t c (before ++ commentText t comment) = true := by
      intro hopens
      obtain ⟨comment', htext, hcomment⟩ := exists_commentBehind hk free mode hopens fun h => hblock h.isInfix
      exact absurd (h.length_eq hcomment htext) (by simp)
    have hstays : ∀ d ∈ (step t k c (before ++ commentText t comment)).code, isBlank d = true := by
      intro d hd
      obtain ⟨new, hnew, -⟩ := steps_extends (step_regular (t := t) c (before ++ commentText t comment) hregular)
        (before ++ commentText t comment)
      exact hcode d (by rw [List.cons_append, steps, hnew]; exact List.mem_append_right _ hd)
    obtain ⟨next, hmove, hstep⟩ := step_cases t k c (before ++ commentText t comment)
    rw [hstep] at hstays
    cases hmove with
    | openLine _ _ opens | openBlock _ _ opens => exact absurd opens hquiet
    | char =>
      have hquote := hstays '\'' (by simp [Cursor.enter, Cursor.emit])
      exact absurd hquote (by decide)
    | openLiteral _ _ found =>
      obtain ⟨d, hlast, hd⟩ := (opens_of_literal? found).last
      have hblank := hstays d (List.mem_append_left _ (List.mem_reverse.mpr (List.mem_of_getLast? hlast)))
      rw [not_isBlank_of_isDelimiter hd] at hblank
      cases hblank
    | plain =>
      have hblank : isBlank c = true := hstays c List.mem_cons_self
      rw [List.forall_mem_cons]
      refine ⟨hblank, ih (commentBehind_cons.mp h) ?_ ?_ ?_ (fun h => hblock (List.infix_cons h)) hcode⟩
      · rw [hstep]
        exact ⟨hk.mode, hk.comment, hk.tail⟩
      · rw [hstep]
        exact free
      · rw [hstep]
        exact mode
    | skip some_ => exact absurd free (Nat.ne_of_gt some_)
    | sayLine _ other | deepen _ other | closeBlock _ other | sayBlock _ other | escape _ other | closeLiteral _ other
    | inLiteral _ other =>
      rw [mode] at other
      cases other

/-! ## Lines -/

/-- The modes that a line can start in where no block comment is open. -/
def StartsOutside (mode : Mode) : Prop := Regular mode ∧ (mode = .code ∨ isLiteral mode = true)

/-- A line that is scanned from a mode on. -/
abbrev lineOf (t : Toolchain) (mode : Mode) (number : Nat) (text : List Char) : Line :=
  (steps t (start mode) text).toLine number text

section Line

variable {t : Toolchain} {mode : Mode} {number : Nat} {before comment : List Char}

/-- The line has the comment. -/
theorem CommentBehind.comment_lineOf (h : CommentBehind t (start mode) before comment) (number : Nat) :
    (lineOf t mode number (before ++ commentText t comment)).comment = some comment := by
  rw [lineOf, Cursor.toLine, h.said, Option.map_some, List.reverse_reverse]

/-- The comment begins where the text before it ends. -/
theorem CommentBehind.commentAt_lineOf (h : CommentBehind t (start mode) before comment) (number : Nat) :
    (lineOf t mode number (before ++ commentText t comment)).commentAt = some before.length := by
  have hplace : (start mode).position + before.length = before.length := Nat.zero_add _
  rw [lineOf, Cursor.toLine, h.tail, hplace]
  simp

/-- The text before the comment is found again. -/
theorem CommentBehind.beforeComment_lineOf (h : CommentBehind t (start mode) before comment) (number : Nat) :
    (lineOf t mode number (before ++ commentText t comment)).beforeComment = before := by
  rw [Line.beforeComment, h.commentAt_lineOf]
  exact List.take_left

/-- There is code on a line with a comment exactly where there is text before the comment. -/
theorem CommentBehind.hasCode_iff (h : CommentBehind t (start mode) before comment) (hmode : StartsOutside mode)
    (hblock : ¬"/*".toList <:+: before ++ commentText t comment) (number : Nat) :
    (lineOf t mode number (before ++ commentText t comment)).hasCode = true ↔
      trimEnd before ≠ [] := by
  rw [ne_eq, trimEnd_eq_nil_iff]
  constructor
  · intro hcode hblank
    obtain ⟨-, -, hahead⟩ := ahead_blanks (t := t) (k := start mode) hmode.1 hblank (commentText t comment)
    have hcode' : ∀ c ∈ (steps t (start mode) (before ++ commentText t comment)).code, isBlank c = true := by
      intro c hc
      rw [h.code, hahead rfl] at hc
      split at hc
      · rw [List.mem_append, List.mem_reverse] at hc
        rcases hc with hc | hc
        · exact hblank c hc
        · cases hc
      · cases hc
    obtain ⟨c, hc, hvisible⟩ := List.any_eq_true.mp hcode
    rw [hcode' c (List.mem_reverse.mp hc)] at hvisible
    cases hvisible
  · intro hvisible
    by_contra hcode
    rw [Bool.not_eq_true] at hcode
    have hcomment : (lineOf t mode number (before ++ commentText t comment)).comment ≠ none := by
      rw [h.comment_lineOf]
      exact Option.some_ne_none comment
    obtain ⟨hliteral, -, hblank⟩ := outside_of_bare hmode.1 hcode hcomment
    have hstart : mode = .code := hmode.2.resolve_right (by rw [hliteral]; decide)
    exact hvisible (h.blank_of_code (quiet_start hmode.2) rfl hstart hblock hblank)

/-- What is left of a line without its comment is read as before: no comment, and in code behind it. -/
theorem CommentBehind.uncommented (h : CommentBehind t (start mode) before comment) (hmode : StartsOutside mode)
    (hblock : ¬"/*".toList <:+: before ++ commentText t comment) (number : Nat) :
    modeFrom t mode (lineOf t mode number (before ++ commentText t comment)).uncommented = .code ∧
      ∀ m, ∀ line ∈ linesFrom t mode m (lineOf t mode number (before ++ commentText t comment)).uncommented,
        line.comment = none := by
  rw [Line.uncommented, h.beforeComment_lineOf]
  obtain ⟨blanks, hbefore, hblank⟩ := exists_trimEnd_append before
  generalize hkept : trimEnd before = kept at hbefore
  cases kept with
  | nil =>
    -- nothing but blanks stands before the comment, so the line starts in code
    rw [List.nil_append] at hbefore
    rw [← hbefore] at hblank
    obtain ⟨hahead, -, -⟩ := ahead_blanks (t := t) (k := start mode) hmode.1 hblank (commentText t comment)
    refine ⟨?_, fun m line hline => absurd hline List.not_mem_nil⟩
    rw [h.outside] at hahead
    exact hahead.symm
  | cons c kept =>
    have hprefix : c :: kept <+: before ++ commentText t comment :=
      (hbefore ▸ List.prefix_append _ _ : c :: kept <+: before).trans (List.prefix_append _ _)
    have houtside := h.outside
    have hfree := h.free
    rw [hbefore] at houtside hfree
    obtain ⟨hcode, -, -⟩ := code_before_blanks (t := t) (k := start mode) hmode.1 rfl hblank houtside hfree
    have hlines : ([c :: kept].filter fun text => !text.isEmpty) = [c :: kept] := rfl
    rw [hlines, modeFrom, modeFrom, hcode]
    refine ⟨rfl, fun m line hline => ?_⟩
    rw [linesFrom, linesFrom, List.mem_singleton] at hline
    subst hline
    rcases quiet_or_commentBehind (t := t) (quiet_start hmode.2) fun hpart => hblock (hpart.trans hprefix.isInfix)
      with hquiet | ⟨before', comment', htext, hcomment⟩
    · rw [Cursor.toLine, hquiet.comment, Option.map_none]
    · have hend := hcomment.mode
      rw [← htext, hcode] at hend
      cases hend

end Line

end Scan

namespace Satd

section Edits

variable {t : Toolchain} {mode : Mode}

/-- A text without the sign that opens a block comment opens none. -/
theorem opensOnly_eq_false {text part : List Char} (hblock : ¬"/*".toList <:+: text) (hpart : part <:+: text) :
    opensOnly part = false := by
  rw [opensOnly, Bool.and_eq_false_iff]
  left
  rw [Bool.eq_false_iff]
  intro hopens
  exact hblock ((List.isPrefixOf_iff_prefix.mp hopens).isInfix.trans hpart)

/-- A text without the sign that closes a block comment closes none. -/
theorem closesOnly_eq_false {text part : List Char} (hblock : ¬"*/".toList <:+: text) (hpart : part <:+: text) :
    closesOnly part = false := by
  rw [closesOnly, Bool.and_eq_false_iff]
  right
  rw [Bool.eq_false_iff]
  intro hcloses
  exact hblock ((contains_iff_isInfix.mp hcloses).trans hpart)

/-- A marked comment is marked as it stands in the text. -/
theorem isMarked_commentText {comment : List Char} (h : isMarked comment = true) : isMarked (commentText t comment) = true := by
  unfold commentText
  split
  · exact isMarked_cons (by decide) h
  · exact h

/-- The edit of a marked line takes its comment away. -/
theorem editLine_of_commentBehind {before comment : List Char} (h : CommentBehind t (start mode) before comment)
    (hmode : StartsOutside mode) (hopen : ¬"/*".toList <:+: before ++ commentText t comment)
    (hclose : ¬"*/".toList <:+: before ++ commentText t comment) (hmarked : isMarked comment = true) (number : Nat) :
    editLine (lineOf t mode number (before ++ commentText t comment)) =
      (lineOf t mode number (before ++ commentText t comment)).uncommented := by
  have hcode := h.hasCode_iff hmode hopen number
  have hdrop : (before ++ commentText t comment).drop before.length = commentText t comment := List.drop_left
  have htake : (before ++ commentText t comment).take before.length = before := List.take_left
  have htext : (lineOf t mode number (before ++ commentText t comment)).text = before ++ commentText t comment := rfl
  have htail : opensOnly (commentText t comment) = false := opensOnly_eq_false hopen (List.suffix_append _ _).isInfix
  have htrim : trim (before ++ commentText t comment) <:+: before ++ commentText t comment :=
    (trimEnd_isPrefix _).isInfix.trans (List.dropWhile_suffix _).isInfix
  rw [Line.uncommented, h.beforeComment_lineOf]
  by_cases hblank : trimEnd before = []
  · have hbare : editOf? (lineOf t mode number (before ++ commentText t comment)) = some .drop := by
      rw [editOf?, h.comment_lineOf]
      simp only [Option.bind_eq_bind, Option.bind_some, hmarked, Bool.not_true, Bool.false_eq_true, if_false]
      rw [if_neg fun hvisible => hcode.mp hvisible hblank, htext, editBare_eq, opensOnly_eq_false hopen htrim,
        closesOnly_eq_false hclose htrim]
      rfl
    rw [editLine, hbare, hblank]
    rfl
  · have hkept : editOf? (lineOf t mode number (before ++ commentText t comment)) = some (.replace (trimEnd before)) := by
      rw [editOf?, h.comment_lineOf]
      simp only [Option.bind_eq_bind, Option.bind_some, hmarked, Bool.not_true, Bool.false_eq_true, if_false]
      rw [if_pos (hcode.mpr hblank), editTail?, h.commentAt_lineOf]
      simp only [Option.bind_eq_bind, Option.bind_some, htext, hdrop, htake, isMarked_commentText hmarked, Bool.not_true,
        Bool.false_eq_true, if_false]
      exact if_neg (by rw [← opensOnly, htail]; decide)
    rw [editLine, hkept]
    simp [hblank]

/-- What the removal leaves of a line: the text before the comment if that is marked, and else all of it. -/
def leftOf (line : Line) : List (List Char) := if line.comment.any isMarked then line.uncommented else [line.text]

/-- What a line leaves, in a source without block comments. -/
structure Leaves (t : Toolchain) (mode : Mode) (number : Nat) (text : List Char) : Prop where
  edit : editLine (lineOf t mode number text) = leftOf (lineOf t mode number text)
  next : modeFrom t mode (leftOf (lineOf t mode number text)) = modeFrom t mode [text]
  outside : StartsOutside (modeFrom t mode [text])
  unmarked : ∀ m, ∀ line ∈ linesFrom t mode m (leftOf (lineOf t mode number text)), line.comment.any isMarked = false
  shows : ∀ comment, (lineOf t mode number text).comment = some comment →
    text = (lineOf t mode number text).beforeComment ++ commentText t comment

/-- A line whose comment is not marked is left as it is. -/
theorem leaves_of_unmarked {number : Nat} {text : List Char} (hunmarked : (lineOf t mode number text).comment.any isMarked = false)
    (houtside : StartsOutside (modeFrom t mode [text]))
    (hshows : ∀ comment, (lineOf t mode number text).comment = some comment →
      text = (lineOf t mode number text).beforeComment ++ commentText t comment) : Leaves t mode number text := by
  have hleft : leftOf (lineOf t mode number text) = [text] := by
    rw [leftOf, hunmarked]
    rfl
  have hedit : editOf? (lineOf t mode number text) = none := by
    refine editOf?_eq_none fun comment hcomment => ?_
    rwa [hcomment, Option.any_some] at hunmarked
  refine ⟨?_, by rw [hleft], houtside, fun m line hline => ?_, hshows⟩
  · rw [hleft, editLine, hedit]
    rfl
  · rw [hleft, linesFrom, linesFrom, List.mem_singleton] at hline
    rw [hline]
    exact hunmarked

/-- A line without a comment is left as it is. -/
theorem leaves_of_quiet (hmode : StartsOutside mode) {text : List Char} (h : Quiet (steps t (start mode) text)) (number : Nat) :
    Leaves t mode number text := by
  have hnone : (lineOf t mode number text).comment = none := by rw [lineOf, Cursor.toLine, h.comment, Option.map_none]
  have hregular := starts_nextMode (steps_regular (t := t) (k := start mode) hmode.1 text)
  have hnext : nextMode (steps t (start mode) text).mode = (steps t (start mode) text).mode := by
    rcases h.mode with hcode | hliteral
    · rw [hcode]
      rfl
    · cases hend : (steps t (start mode) text).mode <;> simp [hend, isLiteral] at hliteral
      rfl
  refine leaves_of_unmarked (by rw [hnone]; rfl) ⟨hregular.1, ?_⟩ fun comment hsome => ?_
  · rw [modeFrom, modeFrom, hnext]
    exact h.mode
  · rw [hnone] at hsome
    cases hsome

/-- A line with a comment at its end leaves the text before it, if that is marked. -/
theorem leaves_of_commentBehind (hmode : StartsOutside mode) {before comment : List Char}
    (h : CommentBehind t (start mode) before comment) (hopen : ¬"/*".toList <:+: before ++ commentText t comment)
    (hclose : ¬"*/".toList <:+: before ++ commentText t comment) (number : Nat) :
    Leaves t mode number (before ++ commentText t comment) := by
  have hnext : modeFrom t mode [before ++ commentText t comment] = .code := by
    rw [modeFrom, modeFrom, h.mode]
    rfl
  have houtside : StartsOutside (modeFrom t mode [before ++ commentText t comment]) := by
    rw [hnext]
    exact ⟨trivial, .inl rfl⟩
  have hshows : ∀ comment', (lineOf t mode number (before ++ commentText t comment)).comment = some comment' →
      before ++ commentText t comment =
        (lineOf t mode number (before ++ commentText t comment)).beforeComment ++ commentText t comment' := by
    intro comment' hsome
    rw [h.comment_lineOf] at hsome
    rw [h.beforeComment_lineOf, Option.some.inj hsome]
  by_cases hmarked : isMarked comment = true
  · have hleft : leftOf (lineOf t mode number (before ++ commentText t comment)) =
        (lineOf t mode number (before ++ commentText t comment)).uncommented := by
      rw [leftOf, h.comment_lineOf, Option.any_some, if_pos hmarked]
    obtain ⟨hcode, hnone⟩ := h.uncommented hmode hopen number
    refine ⟨?_, ?_, houtside, fun m line hline => ?_, hshows⟩
    · rw [hleft]
      exact editLine_of_commentBehind h hmode hopen hclose hmarked number
    · rw [hleft, hcode, hnext]
    · rw [hleft] at hline
      rw [hnone m line hline]
      rfl
  · rw [Bool.not_eq_true] at hmarked
    refine leaves_of_unmarked ?_ houtside hshows
    rw [h.comment_lineOf]
    exact hmarked

/-- A line without block comments is left so in either case. -/
theorem leaves_of_no_block (hmode : StartsOutside mode) {text : List Char} (hopen : ¬"/*".toList <:+: text)
    (hclose : ¬"*/".toList <:+: text) (number : Nat) : Leaves t mode number text := by
  rcases quiet_or_commentBehind (t := t) (quiet_start hmode.2) hopen with hquiet | ⟨before, comment, rfl, hcomment⟩
  · exact leaves_of_quiet hmode hquiet number
  · exact leaves_of_commentBehind hmode hcomment hopen hclose number

end Edits

end Satd

/-! ## Whole sources -/

/-- A line is a part of its text. -/
theorem isInfix_of_mem_splitLines {content text : List Char} (h : text ∈ splitLines content) : text <:+: content := by
  rcases exists_of_mem_splitLines h with ⟨rest, rfl⟩ | ⟨before, rest, rfl⟩
  · exact (List.prefix_append text rest).isInfix
  · exact ⟨before ++ ['\n'], rest, by simp⟩

section Sources

variable {t : Toolchain} {mode : Mode} {number : Nat} {texts : List (List Char)}

/-- Lines without block comments leave what they are to leave, and nothing of that is marked. -/
theorem editLine_of_no_block (hmode : StartsOutside mode) (hopen : ∀ text ∈ texts, ¬"/*".toList <:+: text)
    (hclose : ∀ text ∈ texts, ¬"*/".toList <:+: text) :
    (linesFrom t mode number texts).flatMap editLine = (linesFrom t mode number texts).flatMap leftOf ∧
      (∀ m, ∀ line ∈ linesFrom t mode m ((linesFrom t mode number texts).flatMap leftOf), line.comment.any isMarked = false) ∧
      ∀ line ∈ linesFrom t mode number texts, ∀ comment, line.comment = some comment →
        line.text = line.beforeComment ++ commentText t comment := by
  induction texts generalizing mode number with
  | nil => exact ⟨rfl, fun m => List.forall_mem_nil _, List.forall_mem_nil _⟩
  | cons text texts ih =>
    have hline := leaves_of_no_block (t := t) hmode (hopen text List.mem_cons_self) (hclose text List.mem_cons_self) number
    obtain ⟨hedits, hunmarked, hshows⟩ := @ih (modeFrom t mode [text]) (number + 1) hline.outside
      (fun other hother => hopen other (List.mem_cons_of_mem _ hother))
      fun other hother => hclose other (List.mem_cons_of_mem _ hother)
    have hcons : linesFrom t mode number (text :: texts) =
        lineOf t mode number text :: linesFrom t (modeFrom t mode [text]) (number + 1) texts := rfl
    rw [hcons, List.flatMap_cons, List.flatMap_cons, hline.edit, hedits]
    refine ⟨rfl, fun m line hmem => ?_, List.forall_mem_cons.mpr ⟨hline.shows, hshows⟩⟩
    rw [linesFrom_append, hline.next] at hmem
    rcases List.mem_append.mp hmem with hmem | hmem
    · exact hline.unmarked m line hmem
    · exact hunmarked _ line hmem

/-- A line leaves the text before its comment when a debt item is made of it. -/
theorem leftOf_eq (file : String) (line : Line) :
    leftOf line = if (itemOf? file line).isSome then line.uncommented else [line.text] := by
  rw [leftOf, isSome_itemOf?]

/-- In a source without block comments the removal of markers leaves every line without one as it is, and of the others the text
before the comment; and no marker is found in what is left. -/
theorem detectSatd_removeSatd (t : Toolchain) (file : String) {content : List Char} (hopen : ¬"/*".toList <:+: content)
    (hclose : ¬"*/".toList <:+: content) :
    detectSatd t file (removeSatd t content) = [] ∧
      removeSatd t content = joinLines ((scan t content).flatMap fun line =>
        if (itemOf? file line).isSome then line.uncommented else [line.text]) ∧
      ∀ line ∈ scan t content, ∀ comment, line.comment = some comment →
        line.text = line.beforeComment ++ commentText t comment := by
  have hwithin : ∀ {sign : List Char}, ¬sign <:+: content → ∀ text ∈ splitLines content, ¬sign <:+: text :=
    fun hsign text htext hpart => hsign (hpart.trans (isInfix_of_mem_splitLines htext))
  obtain ⟨hedits, hunmarked, hshows⟩ :=
    @editLine_of_no_block t .code 1 (splitLines content) ⟨trivial, .inl rfl⟩ (hwithin hopen) (hwithin hclose)
  have hleft : (linesFrom t .code 1 (splitLines content)).flatMap leftOf = (scan t content).flatMap fun line =>
      if (itemOf? file line).isSome then line.uncommented else [line.text] :=
    congrArg (List.flatMap · _) (funext (leftOf_eq file))
  have hremoved : removeSatd t content = joinLines ((linesFrom t .code 1 (splitLines content)).flatMap leftOf) := by
    rw [removeSatd, satdEdits, LineEdits.apply, scan, applyFrom_editsOf, hedits]
  refine ⟨?_, by rw [hremoved, hleft], hshows⟩
  have hnone : ∀ lines : List Line, (∀ line ∈ lines, line.comment.any isMarked = false) → lines.filterMap (itemOf? file) = [] := by
    intro lines hlines
    refine List.filterMap_eq_nil_iff.mpr fun line hline => ?_
    have hitem := isSome_itemOf? file line
    rw [hlines line hline] at hitem
    exact Option.isSome_eq_false_iff.mp hitem |> Option.isNone_iff_eq_none.mp
  rw [detectSatd, hremoved]
  by_cases hne : (linesFrom t .code 1 (splitLines content)).flatMap leftOf = []
  · rw [hne]
    rfl
  · have hfeed : ∀ text ∈ (linesFrom t .code 1 (splitLines content)).flatMap leftOf, '\n' ∉ text := by
      intro text htext
      rw [← hedits] at htext
      obtain ⟨line, hline, htext⟩ := List.mem_flatMap.mp htext
      exact lineFeed_notMem_editLine (lineFeed_notMem_of_mem_splitLines (text_mem_of_mem_linesFrom hline)) text htext
    rw [scan, splitLines_joinLines hfeed hne]
    exact hnone _ (hunmarked 1)

end Sources

/-- A comment behind code goes and leaves the code, a line of its own goes altogether, and a marker in a text stays. -/
theorem detectSatd_removeSatd_markedLines :
    removeSatd .deno "let a = 1; // TODO: b\n  // FIXME(me): c\nlet d = '// HACK: e'; // f".toList =
        "let a = 1;\nlet d = '// HACK: e'; // f".toList ∧
      detectSatd .deno "a.ts" (removeSatd .deno "let a = 1; // TODO: b\n  // FIXME(me): c\nlet d = '// HACK: e'; // f".toList) = [] :=
  ⟨by decide +kernel, (detectSatd_removeSatd .deno "a.ts" (by decide +kernel) (by decide +kernel)).1⟩

end QualityGate
