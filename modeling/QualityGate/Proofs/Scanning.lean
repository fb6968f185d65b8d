import QualityGate.Proofs.LiteralTokens

/-!
# What the scanner does along a line

`Moves` says once what a character can do to the scanner, and everything below is read off it: the modes that occur, how the code
channel grows, and where blanks go. `ahead` is the scanner part of the way through a line, with the rest of the line in view; where
no token is left open there, the part that was scanned does not depend on that rest.
-/

namespace QualityGate.Scan

/-! ## What a character can do -/

@[simp] theorem Cursor.mark_mode (k : Cursor) (opens : Bool) : (k.mark opens).mode = k.mode := by
  unfold Cursor.mark
  split <;> rfl

@[simp] theorem Cursor.mark_skip (k : Cursor) (opens : Bool) : (k.mark opens).skip = k.skip := by
  unfold Cursor.mark
  split <;> rfl

@[simp] theorem Cursor.mark_code (k : Cursor) (opens : Bool) : (k.mark opens).code = k.code := by
  unfold Cursor.mark
  split <;> rfl

@[simp] theorem Cursor.mark_comment (k : Cursor) (opens : Bool) : (k.mark opens).comment = k.comment := by
  unfold Cursor.mark
  split <;> rfl

@[simp] theorem Cursor.mark_previous (k : Cursor) (opens : Bool) : (k.mark opens).previous = k.previous := by
  unfold Cursor.mark
  split <;> rfl

@[simp] theorem Cursor.mark_false (k : Cursor) : k.mark false = k := rfl

/-- A mark stands where it stood or is set here. -/
theorem Cursor.mark_tail (k : Cursor) (opens : Bool) :
    (k.mark opens).tail = k.tail ∨ (k.mark opens).tail = some (k.position, k.code.length) := by
  unfold Cursor.mark
  split
  · exact .inr rfl
  · exact .inl rfl

/-- What a character can do to the scanner, its place in the line aside. -/
inductive Moves (t : Toolchain) (k : Cursor) (c : Char) (rest : List Char) : Cursor → Prop
  | skip (some_ : 0 < k.skip) : Moves t k c rest { k with skip := k.skip - 1 }
  | openLine (free : k.skip = 0) (mode : k.mode = .code) (opens : opensComment t c rest = true) (said : List Char) (n : Nat) :
      Moves t k c rest (({ k.mark true with comment := some said }).enter .lineComment n)
  | openBlock (free : k.skip = 0) (mode : k.mode = .code) (opens : opensComment t c rest = true) :
      Moves t k c rest (((k.mark true).say ['/', '*']).enter (.blockComment 1) 1)
  | char {n : Nat} (free : k.skip = 0) (mode : k.mode = .code) (found : charLiteral? (c :: rest) = some n) :
      Moves t k c rest ((k.emit ['\'', '\'']).enter .code (n - 1))
  | openLiteral {opening : List Char} {mode' : Mode} (free : k.skip = 0) (mode : k.mode = .code)
      (found : literal? t k.previous (c :: rest) = some (opening, mode')) :
      Moves t k c rest ((k.emit opening).enter mode' (opening.length - 1))
  | plain (free : k.skip = 0) (mode : k.mode = .code) : Moves t k c rest (k.emit [c])
  | sayLine (free : k.skip = 0) (mode : k.mode = .lineComment) : Moves t k c rest (k.say [c])
  | deepen {depth : Nat} (free : k.skip = 0) (mode : k.mode = .blockComment depth) (slash : c = '/') :
      Moves t k c rest ((k.say ['/', '*']).enter (.blockComment (depth + 1)) 1)
  | closeBlock {depth : Nat} (free : k.skip = 0) (mode : k.mode = .blockComment depth) (star : c = '*')
      (slash : rest.head? = some '/') :
      Moves t k c rest (k.enter (if depth ≤ 1 then .code else .blockComment (depth - 1)) 1)
  | sayBlock {depth : Nat} (free : k.skip = 0) (mode : k.mode = .blockComment depth) : Moves t k c rest (k.say [c])
  | escape {close : List Char} {escapes : Bool} (free : k.skip = 0) (mode : k.mode = .literal close escapes) (slash : c = '\\') :
      Moves t k c rest (k.enter k.mode 1)
  | closeLiteral {close : List Char} {escapes : Bool} (free : k.skip = 0) (mode : k.mode = .literal close escapes)
      (closes : close.isPrefixOf (c :: rest) = true) :
      Moves t k c rest ((k.emit close).enter .code (close.length - 1))
  | inLiteral {close : List Char} {escapes : Bool} (free : k.skip = 0) (mode : k.mode = .literal close escapes) :
      Moves t k c rest k

/-- The three ways in which a comment opens. -/
theorem opensComment_eq (t : Toolchain) (c : Char) (rest : List Char) :
    opensComment t c rest = (hashComments t && c = '#' || !hashComments t && c = '/' && rest.head? = some '/' ||
      !hashComments t && c = '/' && rest.head? = some '*') := by
  unfold opensComment
  cases hashComments t <;> simp [← Bool.and_or_distrib_left]

/-- In code the scanner makes one of the moves that are named here. -/
theorem moves_codeStep {t : Toolchain} {k : Cursor} {c : Char} {rest : List Char} (free : k.skip = 0) (mode : k.mode = .code) :
    Moves t k c rest (codeStep t k c rest) := by
  have ho := opensComment_eq t c rest
  unfold codeStep
  dsimp only
  split
  · rename_i hash
    rw [hash, Bool.true_or, Bool.true_or] at ho
    rw [ho]
    exact .openLine free mode ho _ _
  rename_i hash
  split
  · rename_i slashes
    rw [slashes, Bool.or_true, Bool.true_or] at ho
    rw [ho]
    exact .openLine free mode ho _ _
  rename_i slashes
  split
  · rename_i star
    rw [star, Bool.or_true] at ho
    rw [ho]
    exact .openBlock free mode ho
  rename_i star
  rw [Bool.not_eq_true] at hash slashes star
  rw [hash, slashes, star, Bool.or_false, Bool.or_false] at ho
  rw [ho, Cursor.mark_false]
  split
  · rename_i n hn
    split at hn
    · exact .char free mode hn
    · cases hn
  · split
    · rename_i opening mode' hfound
      exact .openLiteral free mode hfound
    · exact .plain free mode

/-- A character does one of the things listed, and the scanner goes on behind it. -/
theorem step_cases (t : Toolchain) (k : Cursor) (c : Char) (rest : List Char) :
    ∃ next, Moves t k c rest next ∧ step t k c rest = { next with previous := some c, position := k.position + 1 } := by
  refine ⟨_, ?_, rfl⟩
  split
  · rename_i some_
    exact .skip some_
  rename_i free
  rw [Nat.not_lt, Nat.le_zero] at free
  cases mode : k.mode with
  | code =>
    simp only [modeStep, mode]
    exact moves_codeStep free mode
  | lineComment =>
    simp only [modeStep, mode]
    exact .sayLine free mode
  | blockComment depth =>
    simp only [modeStep, mode]
    split
    · rename_i hdeepen
      simp only [Bool.and_eq_true, decide_eq_true_eq] at hdeepen
      exact .deepen free mode hdeepen.1.2
    · split
      · rename_i hclose
        simp only [Bool.and_eq_true, decide_eq_true_eq] at hclose
        exact .closeBlock free mode hclose.1 hclose.2
      · exact .sayBlock free mode
  | literal close escapes =>
    simp only [modeStep, mode]
    split
    · rename_i hescape
      simp only [Bool.and_eq_true, decide_eq_true_eq] at hescape
      rw [← mode]
      exact .escape free mode hescape.2
    · split
      · rename_i hclose
        exact .closeLiteral free mode hclose
      · exact .inLiteral free mode

/-! ## Modes and channels -/

/-- The modes that the scanner is in: a block comment has a depth, and a literal is closed by delimiters. -/
def Regular : Mode → Prop
  | .blockComment depth => 0 < depth
  | .literal close _ => close ≠ [] ∧ ∀ c ∈ close, isDelimiter c = true
  | _ => True

/-- Whether the scanner is inside a literal. -/
def isLiteral : Mode → Bool
  | .literal _ _ => true
  | _ => false

/-- A text that opens a comment or a literal leads to a mode that occurs. -/
theorem Opens.regular {text opening : List Char} {mode : Mode} (h : Opens text opening mode) : Regular mode := by
  obtain ⟨close, escapes, rfl, hne, hclose⟩ := h.closes
  exact ⟨hne, hclose⟩

/-- A move leads from a mode that occurs to one that does. -/
theorem Moves.regular {t : Toolchain} {k next : Cursor} {c : Char} {rest : List Char} (h : Moves t k c rest next)
    (hk : Regular k.mode) : Regular next.mode := by
  cases h with
  | openBlock => exact Nat.one_pos
  | deepen => exact Nat.succ_pos _
  | @closeBlock depth =>
    unfold Cursor.enter
    dsimp only
    split
    · trivial
    · exact Nat.sub_pos_of_lt (Nat.lt_of_not_le ‹_›)
  | openLiteral _ _ found => exact (opens_of_literal? found).regular
  | openLine => trivial
  | char => trivial
  | closeLiteral => trivial
  | skip | plain | sayLine | sayBlock | escape | inLiteral => exact hk

/-- The code channel of a cursor goes on from that of an earlier one, and where a literal was entered or left, or a comment was
made from inside a literal, there is more on it than blanks. -/
def Extends (k k' : Cursor) : Prop :=
  ∃ new, k'.code = new ++ k.code ∧ ((∃ c ∈ new, isBlank c = false) ∨
    isLiteral k'.mode = isLiteral k.mode ∧ (isLiteral k.mode = true → k'.comment = k.comment))

theorem Extends.refl (k : Cursor) : Extends k k := ⟨[], rfl, .inr ⟨rfl, fun _ => rfl⟩⟩

/-- What is read behind what has been read goes on with it. -/
theorem Extends.trans {a b c : Cursor} (hab : Extends a b) (hbc : Extends b c) : Extends a c := by
  obtain ⟨new₁, h₁, hab⟩ := hab
  obtain ⟨new₂, h₂, hbc⟩ := hbc
  refine ⟨new₂ ++ new₁, by rw [h₂, h₁, List.append_assoc], ?_⟩
  rcases hab with ⟨d, hd, hblank⟩ | ⟨hmode₁, hcomment₁⟩
  · exact .inl ⟨d, List.mem_append_right _ hd, hblank⟩
  · rcases hbc with ⟨d, hd, hblank⟩ | ⟨hmode₂, hcomment₂⟩
    · exact .inl ⟨d, List.mem_append_left _ hd, hblank⟩
    · exact .inr ⟨hmode₂.trans hmode₁, fun hl => (hcomment₂ (hmode₁.trans hl)).trans (hcomment₁ hl)⟩

/-- A delimiter on the code channel is no blank. -/
theorem extends_of_delimiter {k k' : Cursor} {new : List Char} {d : Char} (hcode : k'.code = new ++ k.code) (hd : d ∈ new)
    (hdelimiter : isDelimiter d = true) : Extends k k' :=
  ⟨new, hcode, .inl ⟨d, hd, not_isBlank_of_isDelimiter hdelimiter⟩⟩

/-- Outside literals nothing has to be shown of a cursor that stays outside. -/
theorem extends_of_not_literal {k k' : Cursor} {new : List Char} (hcode : k'.code = new ++ k.code)
    (hk : isLiteral k.mode = false) (hk' : isLiteral k'.mode = false) : Extends k k' :=
  ⟨new, hcode, .inr ⟨hk'.trans hk.symm, fun hl => by rw [hk] at hl; cases hl⟩⟩

/-- A move adds to the code and the comment, and takes nothing from them. -/
theorem Moves.toExtends {t : Toolchain} {k next : Cursor} {c : Char} {rest : List Char} (h : Moves t k c rest next)
    (hk : Regular k.mode) : Extends k next := by
  cases h with
  | skip | inLiteral => exact ⟨[], rfl, .inr ⟨rfl, fun _ => rfl⟩⟩
  | escape => exact ⟨[], rfl, .inr ⟨rfl, fun _ => rfl⟩⟩
  | openLine _ mode | openBlock _ mode =>
    exact extends_of_not_literal (show _ = [] ++ k.code from k.mark_code true) (by rw [mode]; rfl) rfl
  | char => exact extends_of_delimiter (d := '\'') rfl (by simp) (by decide)
  | openLiteral _ _ found =>
    obtain ⟨d, hlast, hd⟩ := (opens_of_literal? found).last
    exact extends_of_delimiter rfl (List.mem_reverse.mpr (List.mem_of_getLast? hlast)) hd
  | plain _ mode => exact extends_of_not_literal rfl (by rw [mode]; rfl) (by simp [Cursor.emit, mode, isLiteral])
  | sayLine _ mode | sayBlock _ mode =>
    exact extends_of_not_literal (List.nil_append _).symm (by rw [mode]; rfl) (by simp [Cursor.say, mode, isLiteral])
  | deepen _ mode => exact extends_of_not_literal (List.nil_append _).symm (by rw [mode]; rfl) rfl
  | closeBlock _ mode =>
    exact extends_of_not_literal (List.nil_append _).symm (by rw [mode]; rfl) (by unfold Cursor.enter; dsimp only; split <;> rfl)
  | @closeLiteral close escapes _ mode =>
    rw [mode] at hk
    obtain ⟨d, close, rfl⟩ := List.exists_cons_of_ne_nil hk.1
    exact extends_of_delimiter rfl (List.mem_reverse.mpr List.mem_cons_self) (hk.2 d List.mem_cons_self)

/-- The mark of a run of comments is set where a comment opens in code. -/
theorem Moves.tail {t : Toolchain} {k next : Cursor} {c : Char} {rest : List Char} (h : Moves t k c rest next) :
    next.tail = k.tail ∨ k.skip = 0 ∧ k.mode = .code ∧ opensComment t c rest = true ∧
      next.tail = some (k.position, k.code.length) := by
  cases h with
  | openLine free mode opens | openBlock free mode opens =>
    rcases k.mark_tail true with h | h
    · exact .inl h
    · exact .inr ⟨free, mode, opens, h⟩
  | _ => exact .inl rfl

/-! ## Part of the way through a line -/

/-- The scanner behind some characters of a line, with the rest of the line ahead. -/
def ahead (t : Toolchain) : Cursor → List Char → List Char → Cursor
  | k, [], _ => k
  | k, c :: done, rest => ahead t (step t k c (done ++ rest)) done rest

/-- Two texts are read one behind the other when the first is read with the second in view. -/
theorem steps_append (t : Toolchain) (k : Cursor) (done rest : List Char) :
    steps t k (done ++ rest) = steps t (ahead t k done rest) rest := by
  induction done generalizing k with
  | nil => rfl
  | cons c done ih => exact ih _

/-- A text in two parts is read part by part, each with all in view that follows. -/
theorem ahead_append (t : Toolchain) (k : Cursor) (done more rest : List Char) :
    ahead t k (done ++ more) rest = ahead t (ahead t k done (more ++ rest)) more rest := by
  induction done generalizing k with
  | nil => rfl
  | cons c done ih =>
    rw [List.cons_append, ahead, ahead, ih, List.append_assoc]

/-- A text that nothing follows is read by itself. -/
theorem ahead_nil (t : Toolchain) (k : Cursor) (done : List Char) : ahead t k done [] = steps t k done := by
  induction done generalizing k with
  | nil => rfl
  | cons c done ih => rw [ahead, ih, List.append_nil, steps]

/-- What every step keeps holds part of the way through a line. -/
theorem ahead_induction {t : Toolchain} {P : Cursor → Prop} (hstep : ∀ k c rest, P k → P (step t k c rest)) {k : Cursor}
    (hk : P k) (done rest : List Char) : P (ahead t k done rest) := by
  induction done generalizing k with
  | nil => exact hk
  | cons c done ih => exact ih (hstep k c _ hk)

/-- A step leads to a mode that occurs. -/
theorem step_regular {t : Toolchain} {k : Cursor} (c : Char) (rest : List Char) (hk : Regular k.mode) :
    Regular (step t k c rest).mode := by
  obtain ⟨next, hmove, hstep⟩ := step_cases t k c rest
  rw [hstep]
  exact hmove.regular hk

/-- A text leads to a mode that occurs, whatever follows it. -/
theorem ahead_regular {t : Toolchain} {k : Cursor} (hk : Regular k.mode) (done rest : List Char) :
    Regular (ahead t k done rest).mode :=
  ahead_induction (P := fun k => Regular k.mode) (fun _ c rest h => step_regular c rest h) hk done rest

/-- A step takes nothing from what has been read. -/
theorem step_extends {t : Toolchain} {k : Cursor} (c : Char) (rest : List Char) (hk : Regular k.mode) :
    Extends k (step t k c rest) := by
  obtain ⟨next, hmove, hstep⟩ := step_cases t k c rest
  rw [hstep]
  exact hmove.toExtends hk

/-- A text takes nothing from what has been read, whatever follows it. -/
theorem ahead_extends {t : Toolchain} {k : Cursor} (hk : Regular k.mode) (done rest : List Char) :
    Extends k (ahead t k done rest) := by
  have hboth : Regular (ahead t k done rest).mode ∧ Extends k (ahead t k done rest) :=
    ahead_induction (P := fun k' => Regular k'.mode ∧ Extends k k')
      (fun _ c rest h => ⟨step_regular c rest h.1, h.2.trans (step_extends c rest h.1)⟩) ⟨hk, .refl k⟩ done rest
  exact hboth.2

/-- A text leads to a mode that occurs. -/
theorem steps_regular {t : Toolchain} {k : Cursor} (hk : Regular k.mode) (text : List Char) : Regular (steps t k text).mode := by
  rw [← ahead_nil]
  exact ahead_regular hk text []

/-- A text takes nothing from what has been read. -/
theorem steps_extends {t : Toolchain} {k : Cursor} (hk : Regular k.mode) (text : List Char) : Extends k (steps t k text) := by
  rw [← ahead_nil]
  exact ahead_extends hk text []

/-- The mark of a run of comments stands where it stood before, or a comment opens there in code. -/
theorem steps_tail (t : Toolchain) (k : Cursor) (text : List Char) :
    (steps t k text).tail = k.tail ∨ ∃ done c rest, text = done ++ c :: rest ∧ (ahead t k done (c :: rest)).skip = 0 ∧
      (ahead t k done (c :: rest)).mode = .code ∧ opensComment t c rest = true ∧
      (steps t k text).tail = some (k.position + done.length, (ahead t k done (c :: rest)).code.length) := by
  induction text generalizing k with
  | nil => exact .inl rfl
  | cons d text ih =>
    rw [steps]
    rcases ih (step t k d text) with hsame | ⟨done, c, rest, rfl, hskip, hmode, hopens, htail⟩
    · obtain ⟨next, hmove, hstep⟩ := step_cases t k d text
      rw [hsame, hstep]
      rcases hmove.tail with h | ⟨hskip, hmode, hopens, h⟩
      · exact .inl h
      · exact .inr ⟨[], d, text, rfl, hskip, hmode, hopens, h⟩
    · refine .inr ⟨d :: done, c, rest, rfl, hskip, hmode, hopens, htail.trans ?_⟩
      rw [List.length_cons, ← Nat.add_assoc, Nat.add_right_comm]
      rfl

/-! ## The rest of a line -/

/-- Whether a comment opens at a slash, by the character that has to stand behind it. -/
theorem codeStep_skip_of_opens {t : Toolchain} {k : Cursor} {c d : Char} {rest : List Char} (hd : d = '/' ∨ d = '*')
    (h : (!hashComments t && c = '/' && rest.head? = some d) = true) : (codeStep t k c rest).skip = 1 := by
  simp only [Bool.and_eq_true, Bool.not_eq_true', decide_eq_true_eq] at h
  obtain ⟨⟨hhash, rfl⟩, hhead⟩ := h
  unfold codeStep
  dsimp only
  rw [hhash, hhead]
  rcases hd with rfl | rfl <;> rfl

/-- A step in code looks no further than the characters that it takes. -/
theorem codeStep_of_append {t : Toolchain} {k : Cursor} {c : Char} {x y : List Char}
    (h : (codeStep t k c (x ++ y)).skip ≤ x.length) : codeStep t k c (x ++ y) = codeStep t k c x := by
  have hopens : ∀ d, d = '/' ∨ d = '*' → (!hashComments t && c = '/' && (x ++ y).head? = some d) =
      (!hashComments t && c = '/' && x.head? = some d) := by
    intro d hd
    cases x with
    | cons => rfl
    | nil =>
      rw [Bool.eq_iff_iff]
      refine ⟨fun hopen => ?_, fun hnone => by simp at hnone⟩
      rw [List.nil_append] at h hopen
      rw [codeStep_skip_of_opens hd hopen] at h
      exact absurd h (Nat.not_succ_le_zero 0)
  have hslash := hopens '/' (.inl rfl)
  have hstar := hopens '*' (.inr rfl)
  unfold codeStep at h ⊢
  dsimp only at h ⊢
  rw [opensComment_eq, opensComment_eq, hslash, hstar]
  rw [opensComment_eq, hslash, hstar] at h
  split
  · rfl
  rename_i hhash
  split
  · rfl
  rename_i hslashes
  split
  · rfl
  rename_i hopen
  rw [if_neg hhash, if_neg hslashes, if_neg hopen] at h
  have hchar : (if (t = .rust ∨ t = .go) ∧ c = '\'' then charLiteral? (c :: (x ++ y)) else none) =
      if (t = .rust ∨ t = .go) ∧ c = '\'' then charLiteral? (c :: x) else none := by
    split
    · rename_i hquote
      rw [if_pos hquote] at h
      refine charLiteral?_of_append (x := c :: x) fun n hn => ?_
      rw [List.cons_append] at hn
      rw [hn] at h
      exact Nat.le_add_of_sub_le h
    · rfl
  rw [hchar] at h ⊢
  split
  · rfl
  · rename_i hnone
    rw [hnone] at h
    dsimp only at h
    have hliteral : literal? t (k.mark _).previous (c :: (x ++ y)) = literal? t (k.mark _).previous (c :: x) :=
      literal?_of_append (x := c :: x) (List.cons_ne_nil _ _) fun opening mode hfound => by
        rw [List.cons_append] at hfound
        rw [hfound] at h
        exact Nat.le_add_of_sub_le h
    rw [hliteral]

/-- A step that takes up no more than a text looks no further than that text. -/
theorem step_of_append {t : Toolchain} {k : Cursor} {c : Char} {x y : List Char}
    (h : (step t k c (x ++ y)).skip ≤ x.length) : step t k c (x ++ y) = step t k c x := by
  unfold step at h ⊢
  by_cases hfree : 0 < k.skip
  · rw [if_pos hfree, if_pos hfree]
  rw [if_neg hfree] at h
  rw [if_neg hfree, if_neg hfree]
  have hmode : modeStep t k c (x ++ y) = modeStep t k c x := by
    dsimp only at h
    cases mode : k.mode with
    | code =>
      simp only [modeStep, mode] at h ⊢
      exact codeStep_of_append h
    | lineComment => simp only [modeStep, mode]
    | blockComment depth =>
      simp only [modeStep, mode] at h ⊢
      cases x with
      | cons => rfl
      | nil =>
        rw [List.nil_append] at h ⊢
        split at h
        · exact absurd h (Nat.not_succ_le_zero 0)
        · rename_i hdeepen
          rw [if_neg hdeepen]
          split at h
          · exact absurd h (Nat.not_succ_le_zero 0)
          · rename_i hclose
            rw [if_neg hclose]
            simp
    | literal close escapes =>
      simp only [modeStep, mode] at h ⊢
      split
      · rfl
      · rename_i hescape
        rw [if_neg hescape] at h
        have hcloses : close.isPrefixOf (c :: (x ++ y)) = close.isPrefixOf (c :: x) :=
          isPrefixOf_eq_of_append (x := c :: x) fun hp => by
            rw [List.cons_append] at hp
            rw [if_pos hp] at h
            exact Nat.le_add_of_sub_le h
        rw [hcloses]
  rw [hmode]

/-- A step skips at most one character of those still to be skipped. -/
theorem skip_le_step (t : Toolchain) (k : Cursor) (c : Char) (rest : List Char) : k.skip ≤ (step t k c rest).skip + 1 := by
  unfold step
  by_cases h : 0 < k.skip
  · rw [if_pos h]
    show k.skip ≤ k.skip - 1 + 1
    omega
  · omega

/-- Each character takes one from those that are still to be skipped, at most. -/
theorem skip_le_ahead (t : Toolchain) (k : Cursor) (done rest : List Char) :
    k.skip ≤ (ahead t k done rest).skip + done.length := by
  induction done generalizing k with
  | nil => exact Nat.le_refl _
  | cons c done ih =>
    have hstep := skip_le_step t k c (done ++ rest)
    have hrest := ih (step t k c (done ++ rest))
    rw [ahead, List.length_cons]
    omega

/-- Where no token is left open, the rest of the line had no part in what was scanned. -/
theorem steps_eq_ahead {t : Toolchain} {k : Cursor} {done rest : List Char} (h : (ahead t k done rest).skip = 0) :
    steps t k done = ahead t k done rest := by
  induction done generalizing k with
  | nil => rfl
  | cons c done ih =>
    rw [ahead] at h ⊢
    have hskip := skip_le_ahead t (step t k c (done ++ rest)) done rest
    rw [h, Nat.zero_add] at hskip
    rw [steps, ← step_of_append hskip]
    exact ih h

/-- An inert rest is as good as none. -/
theorem Inert.step_append {y : List Char} (hy : Inert y) {t : Toolchain} {k : Cursor} (hk : Regular k.mode) (c : Char)
    (x : List Char) : step t k c (x ++ y) = step t k c x := by
  have hhead : ∀ d, isBlank d = false → decide ((x ++ y).head? = some d) = decide (x.head? = some d) := by
    intro d hd
    cases x with
    | cons => rfl
    | nil =>
      obtain ⟨⟨b, rest, rfl, hb⟩, -⟩ := hy
      have hne : b ≠ d := by
        rintro rfl
        rw [hb] at hd
        cases hd
      simp [hne]
  have hslash := hhead '/' (by decide)
  have hstar := hhead '*' (by decide)
  unfold step
  by_cases hfree : 0 < k.skip
  · rw [if_pos hfree, if_pos hfree]
  rw [if_neg hfree, if_neg hfree]
  have hmode : modeStep t k c (x ++ y) = modeStep t k c x := by
    cases mode : k.mode with
    | code =>
      simp only [modeStep, mode]
      unfold codeStep
      dsimp only
      rw [opensComment_eq, opensComment_eq, hslash, hstar, ← List.cons_append, hy.charLiteral?_append,
        hy.literal?_append (List.cons_ne_nil _ _)]
    | lineComment => simp only [modeStep, mode]
    | blockComment depth => simp only [modeStep, mode, hslash, hstar]
    | literal close escapes =>
      rw [mode] at hk
      simp only [modeStep, mode]
      rw [← List.cons_append, hy.isPrefixOf_append hk.2]
  rw [hmode]

/-- What no token reaches into may as well be missing. -/
theorem Inert.ahead_eq_steps {y : List Char} (hy : Inert y) {t : Toolchain} {k : Cursor} (hk : Regular k.mode)
    (done : List Char) : ahead t k done y = steps t k done := by
  induction done generalizing k with
  | nil => rfl
  | cons c done ih =>
    rw [ahead, steps, hy.step_append hk]
    exact ih (step_regular c done hk)

/-! ## Blanks -/

/-- No character literal begins with a blank. -/
theorem charLiteral?_blank {c : Char} (h : isBlank c = true) (rest : List Char) : charLiteral? (c :: rest) = none := by
  have hne : c ≠ '\'' := by
    rintro rfl
    exact absurd h (by decide)
  unfold charLiteral?
  split
  · simp_all
  · simp_all
  · rfl

/-- No literal begins with a blank. -/
theorem literal?_blank {c : Char} (h : isBlank c = true) (t : Toolchain) (previous : Option Char) (rest : List Char) :
    literal? t previous (c :: rest) = none := by
  have hne : ∀ d, isBlank d = false → c ≠ d := by
    rintro d hd rfl
    rw [h] at hd
    cases hd
  have hdouble := hne '"' (by decide)
  have hsingle := hne '\'' (by decide)
  have hraw : rawLiteral? (c :: rest) = none := by
    have hb := (hne 'b' (by decide)).symm
    simp [rawLiteral?, hb, hne 'r' (by decide)]
  cases t <;> simp [literal?, hraw, hdouble, hsingle, hdouble.symm, hsingle.symm, hne '`' (by decide)]

/-- A blank goes to the channel of the mode, and the mode stays. -/
theorem Moves.of_blank {t : Toolchain} {k next : Cursor} {c : Char} {rest : List Char} (h : Moves t k c rest next)
    (hk : Regular k.mode) (hc : isBlank c = true) :
    next.mode = k.mode ∧ next.skip = k.skip - 1 ∧
      (k.skip = 0 → next.code = if k.mode = .code then c :: k.code else k.code) := by
  have hne : ∀ d, isBlank d = false → c ≠ d := by
    rintro d hd rfl
    rw [hc] at hd
    cases hd
  have hcloses : opensComment t c rest = false := by
    unfold opensComment
    split
    · simp [hne '#' (by decide)]
    · simp [hne '/' (by decide)]
  cases h with
  | skip some_ => exact ⟨rfl, rfl, fun free => absurd free some_.ne'⟩
  | openLine _ _ opens | openBlock _ _ opens =>
    rw [hcloses] at opens
    cases opens
  | char _ _ found =>
    rw [charLiteral?_blank hc] at found
    cases found
  | openLiteral _ _ found =>
    rw [literal?_blank hc] at found
    cases found
  | plain free mode => exact ⟨rfl, by rw [free]; exact free, fun _ => by rw [if_pos mode]; rfl⟩
  | sayLine free mode | sayBlock free mode =>
    exact ⟨rfl, by rw [free]; exact free, fun _ => by rw [if_neg (by simp [mode])]; rfl⟩
  | deepen _ _ slash => exact absurd slash (hne '/' (by decide))
  | closeBlock _ _ star => exact absurd star (hne '*' (by decide))
  | escape _ _ slash => exact absurd slash (hne '\\' (by decide))
  | @closeLiteral close escapes _ mode closes =>
    rw [mode] at hk
    obtain ⟨d, close, rfl⟩ := List.exists_cons_of_ne_nil hk.1
    have hd : isBlank d = false := not_isBlank_of_isDelimiter (hk.2 d List.mem_cons_self)
    rw [List.isPrefixOf_cons_cons, Bool.and_eq_true, beq_iff_eq] at closes
    exact absurd closes.1.symm (hne d hd)
  | inLiteral free mode =>
    exact ⟨rfl, by rw [free], fun _ => by rw [if_neg (by simp [mode])]⟩

/-- Blanks are skipped, or added to the code when that is read; they open and close nothing. -/
theorem ahead_blanks {t : Toolchain} {k : Cursor} (hk : Regular k.mode) {blanks : List Char}
    (hblanks : ∀ c ∈ blanks, isBlank c = true) (rest : List Char) :
    (ahead t k blanks rest).mode = k.mode ∧ (ahead t k blanks rest).skip = k.skip - blanks.length ∧
      (k.skip = 0 → (ahead t k blanks rest).code = if k.mode = .code then blanks.reverse ++ k.code else k.code) := by
  induction blanks generalizing k with
  | nil => exact ⟨rfl, rfl, fun _ => (ite_self k.code).symm⟩
  | cons c blanks ih =>
    obtain ⟨next, hmove, hstep⟩ := step_cases t k c (blanks ++ rest)
    obtain ⟨hmode, hskip, hcode⟩ := hmove.of_blank hk (hblanks c List.mem_cons_self)
    have hregular := step_regular (t := t) c (blanks ++ rest) hk
    obtain ⟨ihmode, ihskip, ihcode⟩ := ih hregular fun d hd => hblanks d (List.mem_cons_of_mem _ hd)
    rw [hstep] at ihmode ihskip ihcode
    rw [ahead, hstep]
    refine ⟨ihmode.trans hmode, ?_, fun free => ?_⟩
    · rw [ihskip, List.length_cons]
      show next.skip - _ = _
      omega
    · rw [ihcode (by simp [hskip, free])]
      show (if next.mode = _ then blanks.reverse ++ next.code else next.code) = _
      rw [hmode, hcode free]
      split
      · rw [List.reverse_cons, List.append_assoc]
        rfl
      · rfl

/-- A token of the code that is left open ends in something other than a blank. -/
def EndsVisibly (k : Cursor) (text : List Char) : Prop :=
  k.mode = .code → 0 < k.skip → ∃ c, text[k.skip - 1]? = some c ∧ isBlank c = false

/-- The last character of a token stands in the text that the token is at the start of. -/
theorem getElem?_of_isPrefix {token rest : List Char} {c d : Char} (h : token <+: c :: rest) (hlast : token.getLast? = some d)
    (hmore : 0 < token.length - 1) : rest[token.length - 1 - 1]? = some d := by
  rw [List.getLast?_eq_getElem?] at hlast
  obtain ⟨n, hn⟩ : ∃ n, token.length - 1 = n + 1 := ⟨_, (Nat.sub_add_cancel hmore).symm⟩
  obtain ⟨hlt, -⟩ := List.getElem?_eq_some_iff.mp hlast
  obtain ⟨more, hmore⟩ := h
  rw [hn, Nat.add_sub_cancel, ← List.getElem?_cons_succ (a := c), ← hmore, ← hn, List.getElem?_append_left hlt, hlast]

/-- A move leaves the text behind it ending in something that is seen. -/
theorem Moves.endsVisibly {t : Toolchain} {k next : Cursor} {c : Char} {rest : List Char} (h : Moves t k c rest next)
    (hk : Regular k.mode) (hends : EndsVisibly k (c :: rest)) : EndsVisibly next rest := by
  intro mode some_
  cases h with
  | skip _ =>
    obtain ⟨d, hd, hblank⟩ := hends mode (Nat.lt_of_lt_of_le some_ (Nat.sub_le _ _))
    obtain ⟨n, hn⟩ : ∃ n, k.skip = n + 1 + 1 := ⟨k.skip - 2, by dsimp only at some_; omega⟩
    refine ⟨d, ?_, hblank⟩
    simpa [hn] using hd
  | openLine => cases mode
  | openBlock => cases mode
  | char _ _ found =>
    obtain ⟨token, htoken, hp, rfl⟩ := exists_charToken_of_charLiteral? found
    exact ⟨'\'', getElem?_of_isPrefix hp htoken.getLast?_eq some_, by decide⟩
  | openLiteral _ _ found =>
    obtain ⟨close, escapes, rfl, -⟩ := (opens_of_literal? found).closes
    cases mode
  | closeBlock _ _ _ slash =>
    obtain ⟨rest, rfl⟩ := List.head?_eq_some_iff.mp slash
    exact ⟨'/', rfl, by decide⟩
  | @closeLiteral close escapes _ hmode closes =>
    rw [hmode] at hk
    rw [List.isPrefixOf_iff_prefix] at closes
    have hlast := List.getLast?_eq_some_getLast hk.1
    exact ⟨_, getElem?_of_isPrefix closes hlast some_, not_isBlank_of_isDelimiter (hk.2 _ (List.getLast_mem hk.1))⟩
  | deepen => cases mode
  | escape _ hmode =>
    rw [Cursor.enter, hmode] at mode
    cases mode
  | plain free | sayLine free | sayBlock free | inLiteral free =>
    exact absurd free (Nat.ne_of_gt some_)

/-- A text that ends in something that is seen still does so behind its first part. -/
theorem ahead_endsVisibly {t : Toolchain} {k : Cursor} {done rest : List Char} (hk : Regular k.mode)
    (hends : EndsVisibly k (done ++ rest)) : EndsVisibly (ahead t k done rest) rest := by
  induction done generalizing k with
  | nil => exact hends
  | cons c done ih =>
    obtain ⟨next, hmove, hstep⟩ := step_cases t k c (done ++ rest)
    refine ih (step_regular c _ hk) ?_
    rw [hstep]
    exact hmove.endsVisibly hk hends

/-- Where code stands without a token left open, the blanks before it are blanks of the code. -/
theorem code_before_blanks {t : Toolchain} {k : Cursor} {kept blanks rest : List Char} (hk : Regular k.mode) (hfree : k.skip = 0)
    (hblanks : ∀ c ∈ blanks, isBlank c = true) (hmode : (ahead t k (kept ++ blanks) rest).mode = .code)
    (hskip : (ahead t k (kept ++ blanks) rest).skip = 0) :
    (steps t k kept).mode = .code ∧ (steps t k kept).skip = 0 ∧
      (ahead t k (kept ++ blanks) rest).code = blanks.reverse ++ (steps t k kept).code := by
  have hends : EndsVisibly (ahead t k kept (blanks ++ rest)) (blanks ++ rest) :=
    ahead_endsVisibly hk fun _ some_ => absurd hfree (Nat.ne_of_gt some_)
  have hregular := ahead_regular (t := t) hk kept (blanks ++ rest)
  obtain ⟨hmode', hskip', hcode'⟩ := ahead_blanks (t := t) hregular hblanks rest
  rw [ahead_append] at hmode hskip ⊢
  rw [hmode'] at hmode
  rw [hskip'] at hskip
  have hfree' : (ahead t k kept (blanks ++ rest)).skip = 0 := by
    by_contra hne
    obtain ⟨d, hd, hblank⟩ := hends hmode (Nat.pos_of_ne_zero hne)
    have hlt : (ahead t k kept (blanks ++ rest)).skip - 1 < blanks.length := by omega
    rw [List.getElem?_append_left hlt] at hd
    rw [hblanks d (List.mem_of_getElem? hd)] at hblank
    cases hblank
  rw [steps_eq_ahead hfree']
  exact ⟨hmode, hfree', (hcode' hfree').trans (if_pos hmode)⟩

/-! ## Delimiters of block comments -/

/-- A sign that opens a comment does so in code, and is not code. -/
theorem steps_open_of_code {t : Toolchain} {k : Cursor} (hhash : hashComments t = false) (free : k.skip = 0)
    (mode : k.mode = .code) : (steps t k ['/', '*']).mode = .blockComment 1 ∧ (steps t k ['/', '*']).code = k.code := by
  simp [steps, step, free, modeStep, mode, codeStep, hhash, Cursor.enter, Cursor.say]

/-- A sign that opens a comment opens another one inside a comment where these nest. -/
theorem steps_open_of_block {t : Toolchain} {k : Cursor} {depth : Nat} (free : k.skip = 0) (mode : k.mode = .blockComment depth) :
    (steps t k ['/', '*']).mode = .blockComment (if nestedBlocks t then depth + 1 else depth) ∧
      (steps t k ['/', '*']).code = k.code := by
  cases hnested : nestedBlocks t <;> simp [steps, step, free, modeStep, mode, hnested, Cursor.enter, Cursor.say]

/-- A sign that closes a comment leads back into the comment around it, or into code. -/
theorem steps_close_of_block {t : Toolchain} {k : Cursor} {depth : Nat} (free : k.skip = 0) (mode : k.mode = .blockComment depth) :
    (steps t k ['*', '/']).mode = (if depth ≤ 1 then .code else .blockComment (depth - 1)) ∧
      (steps t k ['*', '/']).code = k.code := by
  simp [steps, step, free, modeStep, mode, Cursor.enter]

/-- A sign that closes a comment is code where none is open. -/
theorem steps_close_of_code {t : Toolchain} {k : Cursor} (free : k.skip = 0) (mode : k.mode = .code) :
    (steps t k ['*', '/']).code = '/' :: '*' :: k.code := by
  cases t <;>
    simp [steps, step, free, modeStep, mode, codeStep, opensComment, hashComments, literal?, rawLiteral?, Cursor.emit]

end QualityGate.Scan

namespace QualityGate

open Scan

/-! ## Whole sources -/

/-- The mode behind lines that are scanned from a mode on. -/
def modeFrom (t : Toolchain) : Mode → List (List Char) → Mode
  | mode, [] => mode
  | mode, text :: rest => modeFrom t (nextMode (steps t (start mode) text).mode) rest

/-- What some lines leave open is where the lines behind them begin. -/
theorem modeFrom_append (t : Toolchain) (mode : Mode) (texts more : List (List Char)) :
    modeFrom t mode (texts ++ more) = modeFrom t (modeFrom t mode texts) more := by
  induction texts generalizing mode with
  | nil => rfl
  | cons text texts ih => exact ih _

/-- The scanned lines of some lines and of those after them. -/
theorem linesFrom_append (t : Toolchain) (mode : Mode) (number : Nat) (texts more : List (List Char)) :
    linesFrom t mode number (texts ++ more) =
      linesFrom t mode number texts ++ linesFrom t (modeFrom t mode texts) (number + texts.length) more := by
  induction texts generalizing mode number with
  | nil => rfl
  | cons text texts ih =>
    rw [List.cons_append, linesFrom, linesFrom, modeFrom, ih, List.length_cons, Nat.add_right_comm, Nat.add_assoc]
    rfl

/-- As many lines are scanned as there are texts. -/
@[simp] theorem length_linesFrom (t : Toolchain) (mode : Mode) (number : Nat) (texts : List (List Char)) :
    (linesFrom t mode number texts).length = texts.length := by
  induction texts generalizing mode number with
  | nil => rfl
  | cons text texts ih => rw [linesFrom, List.length_cons, List.length_cons, ih]

/-- The lines behind some are scanned from what those leave open. -/
theorem scan_drop (t : Toolchain) (content : List Char) (n : Nat) :
    (scan t content).drop n = linesFrom t (modeFrom t .code ((splitLines content).take n))
      (1 + ((splitLines content).take n).length) ((splitLines content).drop n) := by
  rw [scan]
  generalize splitLines content = texts
  rcases Nat.le_total n texts.length with hle | hge
  · conv => lhs; rw [← List.take_append_drop n texts, linesFrom_append]
    exact List.drop_left' (by rw [length_linesFrom, List.length_take_of_le hle])
  · rw [List.drop_of_length_le hge, List.drop_of_length_le (by rw [length_linesFrom]; exact hge), linesFrom]

end QualityGate
