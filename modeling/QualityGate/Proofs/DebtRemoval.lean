import QualityGate.Proofs.DebtEdits

/-!
# When the removal of markers leaves the code alone

The removal is meant to take comments away and no code. It decides from the text of a line what becomes of its delimiters of block
comments; the scanner decides from the mode it is in. The code of a source is safe exactly where the two agree on every edited line
about how deep block comments are behind it (`Settled`). They do not always: a marker in a line comment may have the end of a block
comment in its text.
-/

namespace QualityGate

open Scan Satd

namespace Satd

/-- How deep block comments are behind what is left of an edited line, where they are `before` deep at its start. Nothing, when the
end of a block comment is left where none is open. -/
def depthLeft? (t : Toolchain) (before : Nat) (line : Line) : Option Nat :=
  if line.hasCode then some (if line.commentAt.any fun at_ => opensOnly (line.text.drop at_) then 1 else 0)
  else if opensOnly (trim line.text) then some (if before = 0 ∨ nestedBlocks t = true then before + 1 else before)
  else if closesOnly (trim line.text) then if before = 0 then none else some (before - 1)
  else some before

/-- A line that is edited leaves block comments as deep as it found them or made them. -/
def SettledLine (t : Toolchain) (before after : Nat) (line : Line) : Prop :=
  (editOf? line).isSome = true → depthLeft? t before line = some after

instance (t : Toolchain) (before after : Nat) (line : Line) : Decidable (SettledLine t before after line) :=
  inferInstanceAs (Decidable (_ → _))

/-- Every edited line is settled, of lines that are scanned from a mode on. -/
def SettledFrom (t : Toolchain) : Mode → Nat → List (List Char) → Prop
  | _, _, [] => True
  | mode, number, text :: rest =>
    SettledLine t (depth mode) (depth (steps t (start mode) text).mode) ((steps t (start mode) text).toLine number text) ∧
      SettledFrom t (nextMode (steps t (start mode) text).mode) (number + 1) rest

instance decidableSettledFrom (t : Toolchain) : ∀ mode number texts, Decidable (SettledFrom t mode number texts)
  | _, _, [] => inferInstanceAs (Decidable True)
  | mode, number, text :: rest =>
    have := decidableSettledFrom t (nextMode (steps t (start mode) text).mode) (number + 1) rest
    inferInstanceAs (Decidable (SettledLine _ _ _ _ ∧ SettledFrom _ _ _ _))

section Line

variable {t : Toolchain} {mode : Mode} {number : Nat} {text : List Char} {edit : LineEdit}

/-- An edited line ends outside literals. -/
theorem modeFrom_of_edited (hmode : Starts mode) (hedit : editOf? ((steps t (start mode) text).toLine number text) = some edit) :
    modeFrom t mode [text] = atDepth (depth (steps t (start mode) text).mode) := by
  have hregular := steps_regular (t := t) (k := start mode) hmode.1 text
  obtain ⟨hcomment, ⟨hcode, at_, hat, -⟩ | ⟨hcode, -⟩⟩ := editOf?_cases hedit
  · obtain ⟨c, rest, -, -, -, -, -, hliteral⟩ := exists_ahead_of_commentAt hmode.1 hcode hat
    exact nextMode_eq_atDepth hregular hliteral
  · exact nextMode_eq_atDepth hregular (outside_of_bare hmode.1 hcode hcomment).2.1

/-- What is left of a line has the code of the line and leads to the depth foreseen; where none is foreseen it has other code. -/
theorem editLine_of_edited (hmode : Starts mode) (hedit : editOf? ((steps t (start mode) text).toLine number text) = some edit) :
    (∀ d, depthLeft? t (depth mode) ((steps t (start mode) text).toLine number text) = some d →
      codeFrom t mode (editLine ((steps t (start mode) text).toLine number text)) = codeFrom t mode [text] ∧
        modeFrom t mode (editLine ((steps t (start mode) text).toLine number text)) = atDepth d) ∧
      (depthLeft? t (depth mode) ((steps t (start mode) text).toLine number text) = none →
        codeFrom t mode (editLine ((steps t (start mode) text).toLine number text)) ≠ codeFrom t mode [text]) := by
  have htext : ((steps t (start mode) text).toLine number text).text = text := rfl
  rw [editLine, hedit]
  unfold depthLeft?
  obtain ⟨hcomment, ⟨hcode, at_, hat, rfl⟩ | ⟨hcode, rfl⟩⟩ := editOf?_cases hedit
  · rw [if_pos hcode, hat]
    refine ⟨fun d hd => ?_, fun h => absurd h (Option.some_ne_none _)⟩
    rw [← Option.some.inj hd]
    exact kept_of_commentAt hmode.1 hcode hat
  obtain ⟨hliteral, -, hblank⟩ := outside_of_bare hmode.1 hcode hcomment
  have hnone : codeFrom t mode [text] = [] := by
    rw [codeFrom_singleton, shown_eq_nil_iff]
    exact fun c hc => hblank c (List.mem_reverse.mp hc)
  rw [if_neg (by rw [hcode]; decide), hnone, editBare_eq, htext]
  by_cases hopens : opensOnly (trim text) = true
  · rw [if_pos hopens, if_pos hopens]
    refine ⟨fun d hd => ?_, fun h => absurd h (Option.some_ne_none _)⟩
    rw [← Option.some.inj hd]
    exact opening_of_bare hmode hliteral hblank hopens
  rw [if_neg hopens, if_neg hopens]
  by_cases hcloses : closesOnly (trim text) = true
  · rw [if_pos hcloses, if_pos hcloses]
    have hclosing := closing_of_bare (t := t) hmode hliteral text
    by_cases hzero : depth mode = 0
    · rw [if_pos hzero] at hclosing ⊢
      exact ⟨fun d hd => absurd hd.symm (Option.some_ne_none d), fun _ => hclosing⟩
    · rw [if_neg hzero] at hclosing ⊢
      refine ⟨fun d hd => ?_, fun h => absurd h (Option.some_ne_none _)⟩
      rw [← Option.some.inj hd]
      exact hclosing
  rw [if_neg hcloses, if_neg hcloses]
  refine ⟨fun d hd => ⟨rfl, ?_⟩, fun h => absurd h (Option.some_ne_none _)⟩
  rw [← Option.some.inj hd]
  exact hmode.eq_atDepth hliteral

end Line

/-! ## Whole sources -/

/-- Lines that no edit is for are left as they are. -/
theorem flatMap_editLine_of_unedited {t : Toolchain} {mode : Mode} {number : Nat} {texts : List (List Char)}
    (h : ∀ line ∈ linesFrom t mode number texts, editOf? line = none) :
    (linesFrom t mode number texts).flatMap editLine = texts := by
  induction texts generalizing mode number with
  | nil => rfl
  | cons text texts ih =>
    rw [linesFrom] at h ⊢
    rw [List.flatMap_cons, ih fun line hline => h line (List.mem_cons_of_mem _ hline), editLine, h _ List.mem_cons_self]
    rfl

/-- A scanned line has one of the texts. -/
theorem text_mem_of_mem_linesFrom {t : Toolchain} {mode : Mode} {number : Nat} {texts : List (List Char)} {line : Line}
    (h : line ∈ linesFrom t mode number texts) : line.text ∈ texts := by
  induction texts generalizing mode number with
  | nil => cases h
  | cons text texts ih =>
    rcases List.mem_cons.mp h with rfl | h
    · exact List.mem_cons_self
    · exact List.mem_cons_of_mem _ (ih h)

/-- The code of a source without its markers is that of what its lines leave. -/
theorem codeOf_removeSatd (t : Toolchain) (content : List Char) :
    codeOf t (removeSatd t content) = codeFrom t .code ((scan t content).flatMap editLine) := by
  unfold removeSatd satdEdits LineEdits.apply scan
  rw [applyFrom_editsOf, codeOf_joinLines]
  intro text htext
  obtain ⟨line, hline, htext⟩ := List.mem_flatMap.mp htext
  exact lineFeed_notMem_editLine (lineFeed_notMem_of_mem_splitLines (text_mem_of_mem_linesFrom hline)) text htext

/-- Behind each line there is a mode that a line can start in. -/
theorem modeFrom_starts {t : Toolchain} {mode : Mode} (hmode : Starts mode) (texts : List (List Char)) :
    Starts (modeFrom t mode texts) := by
  induction texts generalizing mode with
  | nil => exact hmode
  | cons text texts ih => exact ih (starts_nextMode (steps_regular (t := t) (k := start mode) hmode.1 text))

/-- A settled line leaves the code and the mode that it has and leads to. -/
theorem editLine_of_settled {t : Toolchain} {mode : Mode} {number : Nat} {text : List Char} (hmode : Starts mode)
    (h : SettledLine t (depth mode) (depth (steps t (start mode) text).mode) ((steps t (start mode) text).toLine number text)) :
    codeFrom t mode (editLine ((steps t (start mode) text).toLine number text)) = codeFrom t mode [text] ∧
      modeFrom t mode (editLine ((steps t (start mode) text).toLine number text)) = modeFrom t mode [text] := by
  cases hedit : editOf? ((steps t (start mode) text).toLine number text) with
  | none =>
    rw [editLine, hedit]
    exact ⟨rfl, rfl⟩
  | some edit =>
    rw [modeFrom_of_edited hmode hedit]
    exact (editLine_of_edited hmode hedit).1 _ (h (by rw [hedit]; rfl))

/-- Settled lines leave the code and the mode that they have and lead to. -/
theorem codeFrom_of_settled {t : Toolchain} {mode : Mode} {number : Nat} {texts : List (List Char)} (hmode : Starts mode)
    (h : SettledFrom t mode number texts) :
    codeFrom t mode ((linesFrom t mode number texts).flatMap editLine) = codeFrom t mode texts ∧
      modeFrom t mode ((linesFrom t mode number texts).flatMap editLine) = modeFrom t mode texts := by
  induction texts generalizing mode number with
  | nil => exact ⟨rfl, rfl⟩
  | cons text texts ih =>
    obtain ⟨hcode, hnext⟩ := editLine_of_settled hmode h.1
    obtain ⟨ihcode, ihmode⟩ := ih (modeFrom_starts hmode [text]) h.2
    rw [linesFrom, List.flatMap_cons, codeFrom_append, modeFrom_append, hcode, hnext]
    refine ⟨?_, ihmode⟩
    rw [← List.singleton_append (l := texts), codeFrom_append t mode [text] texts]
    exact congrArg _ ihcode

/-- The first lines are settled when all are. -/
theorem settledFrom_of_append {t : Toolchain} {mode : Mode} {number : Nat} {texts more : List (List Char)}
    (h : SettledFrom t mode number (texts ++ more)) : SettledFrom t mode number texts := by
  induction texts generalizing mode number with
  | nil => trivial
  | cons text texts ih => exact ⟨h.1, ih h.2⟩

/-! ## Lines that tell two depths apart -/

/-- A line that closes a comment has no code, and leaves one comment less open. -/
theorem steps_closing (t : Toolchain) (d : Nat) :
    (steps t (start (atDepth (d + 1))) ['*', '/']).code = [] ∧ (steps t (start (atDepth (d + 1))) ['*', '/']).comment = some [] ∧
      nextMode (steps t (start (atDepth (d + 1))) ['*', '/']).mode = atDepth d := by
  cases d <;> simp [steps, step, start, atDepth, modeStep, Cursor.enter, nextMode]

/-- Ends of block comments lead that many comments out, and hold no code. -/
theorem codeFrom_closings (t : Toolchain) (n d : Nat) (rest : List (List Char)) :
    codeFrom t (atDepth (d + n)) (List.replicate n ['*', '/'] ++ rest) = codeFrom t (atDepth d) rest := by
  induction n with
  | zero => rfl
  | succ n ih =>
    obtain ⟨hcode, -, hnext⟩ := steps_closing t (d + n)
    rw [List.replicate_succ, List.cons_append, codeFrom, ← Nat.add_assoc, hcode, hnext, ih]
    rfl

/-- Lines that close comments are not edited. -/
theorem unedited_closings {t : Toolchain} {d : Nat} {rest : List (List Char)}
    (h : ∀ number, ∀ line ∈ linesFrom t (atDepth d) number rest, editOf? line = none) (n number : Nat) :
    ∀ line ∈ linesFrom t (atDepth (d + n)) number (List.replicate n ['*', '/'] ++ rest), editOf? line = none := by
  induction n generalizing number with
  | zero => exact h number
  | succ n ih =>
    obtain ⟨-, hcomment, hnext⟩ := steps_closing t (d + n)
    intro line hline
    rw [List.replicate_succ, List.cons_append, linesFrom, ← Nat.add_assoc, hnext] at hline
    rcases List.mem_cons.mp hline with rfl | hline
    · refine editOf?_eq_none fun comment h => ?_
      rw [Cursor.toLine, hcomment] at h
      rw [← Option.some.inj h]
      decide
    · exact ih (number + 1) line hline

/-- A word on a line of its own is code where no comment is open. -/
theorem codeFrom_word (t : Toolchain) (d : Nat) : codeFrom t (atDepth d) [['x']] = if d = 0 then [['x']] else [] := by
  cases d with
  | zero => cases t <;> decide
  | succ d =>
    rw [codeFrom_singleton, if_neg (Nat.succ_ne_zero d)]
    simp [steps, step, start, atDepth, modeStep, Cursor.say, shown_eq_nil_iff]

/-- A word on a line of its own is not edited. -/
theorem unedited_word (t : Toolchain) (d number : Nat) : ∀ line ∈ linesFrom t (atDepth d) number [['x']], editOf? line = none := by
  intro line hline
  rw [linesFrom, linesFrom, List.mem_singleton] at hline
  subst hline
  refine editOf?_eq_none fun comment h => ?_
  cases d with
  | zero =>
    have hcomment : (steps t (start (atDepth 0)) ['x']).comment = none := by cases t <;> decide
    rw [Cursor.toLine, hcomment] at h
    cases h
  | succ d =>
    have hcomment : (steps t (start (atDepth (d + 1))) ['x']).comment = some ['x'] := by
      simp [steps, step, start, atDepth, modeStep, Cursor.say]
    rw [Cursor.toLine, hcomment] at h
    rw [← Option.some.inj h]
    decide

/-- Two depths are told apart by lines that hold no marker. -/
theorem exists_continuation (t : Toolchain) {a b : Nat} (hne : a ≠ b) :
    ∃ more, (∀ line ∈ more, '\n' ∉ line) ∧ (∀ number, ∀ line ∈ linesFrom t (atDepth a) number more, editOf? line = none) ∧
      codeFrom t (atDepth b) more ≠ codeFrom t (atDepth a) more := by
  refine ⟨List.replicate (min a b) ['*', '/'] ++ [['x']], ?_, ?_, ?_⟩
  · intro line hline
    rcases List.mem_append.mp hline with hline | hline
    · rw [List.eq_of_mem_replicate hline]
      decide
    · rw [List.mem_singleton.mp hline]
      decide
  · intro number
    have h := unedited_closings (unedited_word t (a - min a b)) (min a b) number
    rwa [Nat.sub_add_cancel (Nat.min_le_left a b)] at h
  · have ha := codeFrom_closings t (min a b) (a - min a b) [['x']]
    have hb := codeFrom_closings t (min a b) (b - min a b) [['x']]
    rw [Nat.sub_add_cancel (Nat.min_le_left a b)] at ha
    rw [Nat.sub_add_cancel (Nat.min_le_right a b)] at hb
    rw [ha, hb, codeFrom_word, codeFrom_word]
    rcases Nat.lt_or_gt_of_ne hne with hlt | hgt
    · rw [if_neg (by omega), if_pos (by omega)]
      decide
    · rw [if_pos (by omega), if_neg (by omega)]
      decide

/-- Lines are settled when what is left of their first ones has the code that those have, whatever comes after. -/
theorem settledFrom_of_continuations {t : Toolchain} {mode : Mode} {number : Nat} {texts : List (List Char)} (hmode : Starts mode)
    (h : ∀ kept more, kept <+: texts → (∀ line ∈ more, '\n' ∉ line) →
      (∀ line ∈ linesFrom t (modeFrom t mode kept) (number + kept.length) more, editOf? line = none) →
      codeFrom t mode ((linesFrom t mode number kept).flatMap editLine ++ more) = codeFrom t mode (kept ++ more)) :
    SettledFrom t mode number texts := by
  induction texts generalizing mode number with
  | nil => trivial
  | cons text texts ih =>
    have hline : SettledLine t (depth mode) (depth (steps t (start mode) text).mode)
        ((steps t (start mode) text).toLine number text) := by
      intro hsome
      obtain ⟨edit, hedit⟩ := Option.isSome_iff_exists.mp hsome
      obtain ⟨hleft, hnone⟩ := editLine_of_edited hmode hedit
      have hone := fun more => h [text] more (by simp)
      rw [linesFrom, linesFrom, List.flatMap_singleton] at hone
      cases hdepth : depthLeft? t (depth mode) ((steps t (start mode) text).toLine number text) with
      | none =>
        have hsame := hone [] (List.forall_mem_nil _) (List.forall_mem_nil _)
        rw [List.append_nil, List.append_nil] at hsame
        exact absurd hsame (hnone hdepth)
      | some d =>
        obtain ⟨hcode, hnext⟩ := hleft d hdepth
        by_contra hne
        obtain ⟨more, hfeed, hunedited, hdiff⟩ :=
          exists_continuation t (a := depth (steps t (start mode) text).mode) (b := d) fun he => hne (congrArg some he.symm)
        have hsame := hone more hfeed (by rw [modeFrom_of_edited hmode hedit]; exact hunedited _)
        rw [codeFrom_append, codeFrom_append, hcode, hnext, modeFrom_of_edited hmode hedit] at hsame
        exact hdiff (List.append_cancel_left hsame)
    refine ⟨hline, ih (modeFrom_starts hmode [text]) fun kept more hkept hfeed hunedited => ?_⟩
    obtain ⟨hcode, hnext⟩ := editLine_of_settled hmode hline
    have hsame := h (text :: kept) more (List.cons_prefix_cons.mpr ⟨rfl, hkept⟩) hfeed (by
      rw [List.length_cons, ← Nat.add_assoc, Nat.add_right_comm]
      exact hunedited)
    rw [linesFrom, List.flatMap_cons, List.append_assoc, codeFrom_append, hcode, hnext, List.cons_append,
      ← List.singleton_append (l := kept ++ more), codeFrom_append t mode [text]] at hsame
    exact List.append_cancel_left hsame

/-- Whether the edits of a source leave block comments as deep behind every edited line as the source has them. -/
def Settled (t : Toolchain) (content : List Char) : Prop := SettledFrom t .code 1 (splitLines content)

instance (t : Toolchain) (content : List Char) : Decidable (Settled t content) := decidableSettledFrom t .code 1 (splitLines content)

theorem starts_code : Starts .code := ⟨trivial, nofun⟩

end Satd

/-- The removal of markers keeps the code of a source, and of every source that goes on otherwise without markers behind some of its
lines, exactly when every edited line is settled. -/
theorem settled_iff_codeOf_removeSatd (t : Toolchain) (content : List Char) :
    Settled t content ↔ ∀ (shared : Nat) (other : List Char),
      (splitLines other).take shared = (splitLines content).take shared →
      (∀ line ∈ (scan t other).drop shared, editOf? line = none) →
      codeOf t (removeSatd t other) = codeOf t other := by
  constructor
  · intro hsettled shared other hshared hunedited
    have hlines := List.take_append_drop shared (splitLines other)
    have hkept : SettledFrom t .code 1 ((splitLines other).take shared) := by
      rw [hshared]
      rw [Settled, ← List.take_append_drop shared (splitLines content)] at hsettled
      exact settledFrom_of_append hsettled
    have hmore : ∀ line ∈ linesFrom t (modeFrom t .code ((splitLines other).take shared))
        (1 + ((splitLines other).take shared).length) ((splitLines other).drop shared), editOf? line = none := by
      rw [scan_drop] at hunedited
      exact hunedited
    obtain ⟨hcode, hnext⟩ := codeFrom_of_settled starts_code hkept
    rw [codeOf_removeSatd, codeOf_eq_codeFrom, scan, ← hlines, linesFrom_append, List.flatMap_append,
      flatMap_editLine_of_unedited hmore, codeFrom_append, hcode, hnext, ← codeFrom_append]
  · -- each first part of the source, with whatever lines behind it, is one of the other sources
    intro h
    refine settledFrom_of_continuations starts_code fun kept more hkept hfeed hunedited => ?_
    have hfeeds : ∀ line ∈ kept ++ more, '\n' ∉ line := by
      intro line hline
      rcases List.mem_append.mp hline with hline | hline
      · exact lineFeed_notMem_of_mem_splitLines (hkept.subset hline)
      · exact hfeed line hline
    by_cases hne : kept ++ more = []
    · obtain ⟨rfl, rfl⟩ := List.append_eq_nil_iff.mp hne
      rfl
    have hlines := splitLines_joinLines hfeeds hne
    have hsame := h kept.length (joinLines (kept ++ more)) (by
      rw [hlines, List.take_left]
      exact (List.prefix_iff_eq_take.mp hkept)) (by
      rw [scan_drop, hlines, List.take_left, List.drop_left]
      exact hunedited)
    rw [codeOf_removeSatd, codeOf_eq_codeFrom, scan, hlines, linesFrom_append, List.flatMap_append,
      flatMap_editLine_of_unedited hunedited] at hsame
    exact hsame

/-- A line that ends one block comment and opens the next is taken for one that only opens a comment, with the first still open. -/
example : ¬Settled .rust "/* TODO: a */ /* b\nc */\nfn a() {}".toList := by decide +kernel

/-- The end of a block comment in a line comment with a marker stays behind as code. -/
theorem codeOf_removeSatd_ne :
    codeOf .rust (removeSatd .rust "// TODO: drop the */ here\nfn a() {}".toList) ≠
      codeOf .rust "// TODO: drop the */ here\nfn a() {}".toList := by
  decide +kernel

end QualityGate
