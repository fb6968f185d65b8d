import QualityGate.Proofs.DebtEdits
import QualityGate.Proofs.FunctionInputs

/-!
# What literals hold does not show

A character inside a literal that is no backslash and does not stand in what closes the literal goes to no channel and has no part in
where the literal ends. `concealed` is a source with these characters taken out of sight: a line feed, which stands in no line, for
each unit of them. Scanning the lines that are left gives the channels of the source (`channels_linesFrom_conceal`), so two sources
that differ in nothing else have the same channels, the same debt and, where bodies are told by braces, the same functions
(`scan_of_concealed`).
-/

namespace QualityGate

open Scan Toolchain

namespace Scan

/-! ## Concealed characters -/

/-- What closes the literal that a mode is inside of. -/
def closeOf : Mode → Option (List Char)
  | .literal close _ => some close
  | _ => none

/-- Whether a character is mere content of a literal with this ending. -/
def isContent (close : List Char) (c : Char) : Bool := c ≠ '\\' && !close.contains c

/-- What closes the literal in which the token at a cursor is begun; `begun` is that of a token which an earlier character began. -/
def endingAt (k : Cursor) (begun : Option (List Char)) : Option (List Char) := if 0 < k.skip then begun else closeOf k.mode

/-- The characters of a line with the content of literals concealed. -/
def conceal (t : Toolchain) : Cursor → Option (List Char) → List Char → List Char
  | _, _, [] => []
  | k, begun, c :: rest =>
    (if (endingAt k begun).any (isContent · c) then List.replicate (unitsOf c) '\n' else [c]) ++
      conceal t (step t k c rest) (endingAt k begun) rest

/-- The lines from a mode on with the content of literals concealed. -/
def concealFrom (t : Toolchain) : Mode → List (List Char) → List (List Char)
  | _, [] => []
  | mode, text :: rest =>
    conceal t (start mode) none text :: concealFrom t (nextMode (steps t (start mode) text).mode) rest

/-- Something closes only the mode of a literal. -/
theorem eq_literal_of_closeOf {mode : Mode} {close : List Char} (h : closeOf mode = some close) :
    ∃ escapes, mode = .literal close escapes := by
  cases mode with
  | literal close' escapes =>
    obtain rfl : close' = close := Option.some.inj h
    exact ⟨escapes, rfl⟩
  | _ => cases h

/-- Every character takes up a unit. -/
theorem unitsOf_pos (c : Char) : 0 < unitsOf c := by
  unfold unitsOf
  split <;> decide

/-! ## Tokens -/

/-- What a step from `k` at a character takes up of the text behind it: characters on one line, and inside a literal none but those
of its ending. -/
structure TakesUp (k : Cursor) (rest : List Char) (next : Cursor) (token : List Char) : Prop where
  isPrefix : token <+: rest
  inLine : '\n' ∉ token
  skip : next.skip = token.length
  ending : ∀ close, closeOf k.mode = some close → ∀ d ∈ token, d ∈ close

theorem takesUp_nil {k next : Cursor} (rest : List Char) (h : next.skip = 0) : TakesUp k rest next [] :=
  ⟨List.nil_prefix, List.not_mem_nil, h, fun _ _ _ hd => absurd hd List.not_mem_nil⟩

/-- A token that opens something outside of literals. -/
theorem takesUp_tail {k next : Cursor} {c : Char} {rest token : List Char} (hmode : closeOf k.mode = none) (hp : token <+: c :: rest)
    (hline : '\n' ∉ token) (hskip : next.skip = token.length - 1) : TakesUp k rest next token.tail := by
  refine ⟨?_, fun hmem => hline (List.mem_of_mem_tail hmem), by rw [hskip, List.length_tail], fun close hclose => ?_⟩
  · cases token with
    | nil => exact List.nil_prefix
    | cons d token => exact (List.cons_prefix_cons.mp hp).2
  · rw [hmode] at hclose
    cases hclose

/-- A step in code takes up a token on the line. -/
theorem takesUp_codeStep {t : Toolchain} {k : Cursor} {c : Char} {rest : List Char} (free : k.skip = 0) (mode : k.mode = .code) :
    ∃ token, TakesUp k rest (codeStep t k c rest) token := by
  have hmode : closeOf k.mode = none := by rw [mode]; rfl
  have hsign : ∀ (next : Cursor) (d : Char), rest.head? = some d → d ≠ '\n' → next.skip = 1 →
      ∃ token, TakesUp k rest next token := by
    intro next d hd hline hskip
    obtain ⟨more, rfl⟩ := List.head?_eq_some_iff.mp hd
    refine ⟨[d], by simp, by simpa using hline.symm, hskip, fun close hclose => ?_⟩
    rw [hmode] at hclose
    cases hclose
  unfold codeStep
  dsimp only
  split
  · exact ⟨[], takesUp_nil rest rfl⟩
  split
  · rename_i hopens
    simp only [Bool.and_eq_true, decide_eq_true_eq] at hopens
    exact hsign _ '/' hopens.2 (by decide) rfl
  split
  · rename_i hopens
    simp only [Bool.and_eq_true, decide_eq_true_eq] at hopens
    exact hsign _ '*' hopens.2 (by decide) rfl
  split
  · rename_i n hn
    split at hn
    · obtain ⟨token, htoken, hp, rfl⟩ := exists_charToken_of_charLiteral? hn
      exact ⟨token.tail, takesUp_tail hmode hp htoken.lineFeed_notMem rfl⟩
    · cases hn
  split
  · rename_i opening mode' hfound
    obtain ⟨hp, -, -, hline, -⟩ := opens_of_literal? hfound
    exact ⟨opening.tail, takesUp_tail hmode hp hline rfl⟩
  · exact ⟨[], takesUp_nil rest (by simpa [Cursor.emit] using free)⟩

/-- A step that no earlier token takes up and that is no escape takes up a token. -/
theorem exists_takesUp (t : Toolchain) {k : Cursor} {c : Char} (rest : List Char) (hk : Regular k.mode) (free : k.skip = 0)
    (hescape : ∀ close, k.mode = .literal close true → c ≠ '\\') : ∃ token, TakesUp k rest (step t k c rest) token := by
  have hstep : (step t k c rest).skip = (modeStep t k c rest).skip := by simp [step, free]
  suffices h : ∃ token, TakesUp k rest (modeStep t k c rest) token by
    obtain ⟨token, h⟩ := h
    exact ⟨token, h.isPrefix, h.inLine, hstep.trans h.skip, h.ending⟩
  unfold modeStep
  cases mode : k.mode with
  | code => exact takesUp_codeStep free mode
  | lineComment => exact ⟨[], takesUp_nil rest free⟩
  | blockComment depth =>
    have hsign : ∀ (next : Cursor) (d : Char), rest.head? = some d → d ≠ '\n' → next.skip = 1 →
        ∃ token, TakesUp k rest next token := by
      intro next d hd hline hskip
      obtain ⟨more, rfl⟩ := List.head?_eq_some_iff.mp hd
      exact ⟨[d], by simp, by simpa using hline.symm, hskip, by simp [mode, closeOf]⟩
    dsimp only
    split
    · rename_i hopens
      simp only [Bool.and_eq_true, decide_eq_true_eq] at hopens
      exact hsign _ '*' hopens.2 (by decide) rfl
    split
    · rename_i hcloses
      simp only [Bool.and_eq_true, decide_eq_true_eq] at hcloses
      exact hsign _ '/' hcloses.2 (by decide) rfl
    · exact ⟨[], takesUp_nil rest free⟩
  | literal close escapes =>
    rw [mode] at hk
    dsimp only
    split
    · rename_i h
      simp only [Bool.and_eq_true, decide_eq_true_eq] at h
      obtain ⟨rfl, rfl⟩ := h
      exact absurd rfl (hescape close mode)
    split
    · rename_i hcloses
      obtain ⟨d, close, rfl⟩ := List.exists_cons_of_ne_nil hk.1
      have hline : '\n' ∉ d :: close := fun hmem => lineFeed_ne_of_isDelimiter (hk.2 _ hmem) rfl
      refine ⟨close, (List.cons_prefix_cons.mp (List.isPrefixOf_iff_prefix.mp hcloses)).2, fun hmem => hline (by simp [hmem]), rfl,
        fun close' hclose e he => ?_⟩
      rw [mode] at hclose
      rw [← Option.some.inj hclose]
      exact List.mem_cons_of_mem d he
    · exact ⟨[], takesUp_nil rest free⟩

/-! ## What a step sees of a concealed text -/

/-- The beginning of a text that stands in another one too, which ends there or goes on with a line feed. -/
structure Shares (text concealed shown : List Char) : Prop where
  text : shown <+: text
  concealed : ∃ more, concealed = shown ++ more ∧ ∀ c ∈ more.head?, c = '\n'

/-- Texts that share a beginning share it behind one more character. -/
theorem Shares.cons {text concealed shown : List Char} (h : Shares text concealed shown) (c : Char) :
    Shares (c :: text) (c :: concealed) (c :: shown) := by
  obtain ⟨htext, more, rfl, hmore⟩ := h
  exact ⟨List.cons_prefix_cons.mpr ⟨rfl, htext⟩, more, rfl, hmore⟩

/-- A text without line feeds at the start of the other one lies within the shared beginning. -/
theorem Shares.length_le {text concealed shown token : List Char} (h : Shares text concealed shown) (hp : token <+: concealed)
    (hline : '\n' ∉ token) : token.length ≤ shown.length := by
  obtain ⟨-, more, rfl, hmore⟩ := h
  rcases List.prefix_or_prefix_of_prefix hp (List.prefix_append shown more) with hshort | ⟨rest, rfl⟩
  · exact hshort.length_le
  · cases rest with
    | nil => simp
    | cons d rest =>
      have hd : d :: rest <+: more := (List.prefix_append_right_inj shown).mp hp
      obtain ⟨behind, rfl⟩ := hd
      obtain rfl : d = '\n' := hmore d rfl
      exact absurd (by simp) hline

/-- A line and what is shown of it concealed share a beginning. -/
theorem exists_shares (t : Toolchain) (k : Cursor) (begun : Option (List Char)) (text : List Char) :
    ∃ shown, Shares text (conceal t k begun text) shown := by
  induction text generalizing k begun with
  | nil => exact ⟨[], List.nil_prefix, [], rfl, by simp⟩
  | cons c rest ih =>
    rw [conceal]
    split
    · obtain ⟨n, hn⟩ := Nat.exists_eq_add_of_lt (unitsOf_pos c)
      refine ⟨[], List.nil_prefix, _, rfl, ?_⟩
      rw [hn, Nat.zero_add, List.replicate_succ]
      simp
    · obtain ⟨shown, hshown⟩ := ih (step t k c rest) (endingAt k begun)
      exact ⟨c :: shown, hshown.cons c⟩

/-- The characters that a token still takes up are in sight, if none of them is mere content. -/
theorem exists_shares_of_skip {t : Toolchain} {k : Cursor} {begun : Option (List Char)} {text : List Char}
    (h : ∀ close, begun = some close → ∀ d ∈ text.take k.skip, d ∈ close) :
    ∃ shown, Shares text (conceal t k begun text) shown ∧ min k.skip text.length ≤ shown.length := by
  induction text generalizing k with
  | nil =>
    obtain ⟨shown, hshown⟩ := exists_shares t k begun []
    exact ⟨shown, hshown, by simp⟩
  | cons c rest ih =>
    by_cases hskip : 0 < k.skip
    · obtain ⟨n, hn⟩ : ∃ n, k.skip = n + 1 := ⟨k.skip - 1, by omega⟩
      have hnext : (step t k c rest).skip = n := by simp [step, hn]
      rw [hn, List.take_succ_cons] at h
      have hvisible : begun.any (isContent · c) = false := by
        cases begun with
        | none => rfl
        | some close => simp [isContent, h close rfl c List.mem_cons_self]
      obtain ⟨shown, hshown, hlength⟩ := @ih (step t k c rest) (by
        intro close hclose d hd
        rw [hnext] at hd
        exact h close hclose d (List.mem_cons_of_mem c hd))
      rw [conceal, endingAt, if_pos hskip, hvisible]
      refine ⟨c :: shown, hshown.cons c, ?_⟩
      rw [hnext] at hlength
      rw [hn, List.length_cons, List.length_cons]
      omega
    · obtain ⟨shown, hshown⟩ := exists_shares t k begun (c :: rest)
      refine ⟨shown, hshown, ?_⟩
      rw [Nat.eq_zero_of_not_pos hskip, Nat.zero_min]
      exact Nat.zero_le _

/-- What is concealed behind a character has no part in what the character does. -/
theorem step_conceal {t : Toolchain} {k : Cursor} (hk : Regular k.mode) (begun : Option (List Char)) (c : Char) (rest : List Char) :
    step t k c (conceal t (step t k c rest) (endingAt k begun) rest) = step t k c rest := by
  by_cases hskip : 0 < k.skip
  · simp [step, hskip]
  have free : k.skip = 0 := Nat.eq_zero_of_not_pos hskip
  by_cases hescape : ∃ close, k.mode = .literal close true ∧ c = '\\'
  · obtain ⟨close, mode, rfl⟩ := hescape
    simp [step, free, modeStep, mode]
  rw [endingAt, if_neg hskip]
  replace hescape : ∀ close, k.mode = .literal close true → c ≠ '\\' := fun close mode hc => hescape ⟨close, mode, hc⟩
  obtain ⟨token, htoken⟩ := exists_takesUp t rest hk free hescape
  -- the token of the step stands in the shared beginning, and so does the one it would take up of the concealed text
  obtain ⟨shown, hshown, hlength⟩ := @exists_shares_of_skip t (step t k c rest) (closeOf k.mode) rest (by
    intro close hclose d hd
    obtain ⟨more, rfl⟩ := htoken.isPrefix
    rw [htoken.skip, List.take_left] at hd
    exact htoken.ending close hclose d hd)
  obtain ⟨token', htoken'⟩ :=
    exists_takesUp t (conceal t (step t k c rest) (closeOf k.mode) rest) hk free hescape
  have hshort := hshown.length_le htoken'.isPrefix htoken'.inLine
  have hfits : min token.length rest.length = token.length := Nat.min_eq_left htoken.isPrefix.length_le
  rw [htoken.skip, hfits, ← htoken.skip] at hlength
  rw [← htoken'.skip] at hshort
  obtain ⟨⟨more, htext⟩, more', hconcealed, -⟩ := hshown
  rw [hconcealed] at hshort ⊢
  rw [step_of_append hshort]
  conv => rhs; rw [← htext]
  rw [← htext] at hlength
  exact (step_of_append hlength).symm

/-! ## Cursors that show the same -/

theorem units_append (text more : List Char) : units (text ++ more) = units text + units more := by
  rw [units, units, units, List.map_append, total_append]

theorem units_singleton (c : Char) : units [c] = unitsOf c := Nat.add_zero _

/-- Line feeds take up one unit each. -/
theorem units_lineFeeds (n : Nat) : units (List.replicate n '\n') = n := by
  induction n with
  | zero => rfl
  | succ n ih =>
    rw [List.replicate_succ, ← List.singleton_append, units_append, ih, units_singleton, Nat.add_comm]
    rfl

/-- The column behind a piece of a line. -/
theorem units_take_add {text rest : List Char} {place : Nat} (piece : List Char) (h : text.drop place = piece ++ rest) :
    units (text.take (place + piece.length)) = units (text.take place) + units piece := by
  rw [List.take_add, h, List.take_left, units_append]

/-- Where a run of comments opened, as a column of the line. -/
def columnOf (text : List Char) (tail : Nat × Nat) : Nat × Nat := (units (text.take tail.1), tail.2)

/-- Cursors in two lines that show the same: the characters that have gone by take up as many units in both. -/
structure ShowsAs (text text' : List Char) (k k' : Cursor) : Prop where
  mode : k'.mode = k.mode
  skip : k'.skip = k.skip
  code : k'.code = k.code
  comment : k'.comment = k.comment
  tail : k'.tail.map (columnOf text') = k.tail.map (columnOf text)
  here : units (text'.take k'.position) = units (text.take k.position)

namespace ShowsAs

variable {text text' : List Char} {k k' : Cursor}

theorem emit (h : ShowsAs text text' k k') (piece : List Char) : ShowsAs text text' (k.emit piece) (k'.emit piece) :=
  { h with code := by simp only [Cursor.emit, h.code] }

/-- Cursors that show the same still do with the same comment. -/
theorem comment_set (h : ShowsAs text text' k k') (said : List Char) :
    ShowsAs text text' { k with comment := some said } { k' with comment := some said } :=
  { h with comment := rfl }

theorem say (h : ShowsAs text text' k k') (piece : List Char) : ShowsAs text text' (k.say piece) (k'.say piece) :=
  { h with comment := by simp only [Cursor.say, h.comment] }

theorem enter (h : ShowsAs text text' k k') (mode : Mode) (skip : Nat) : ShowsAs text text' (k.enter mode skip) (k'.enter mode skip) :=
  { h with mode := rfl, skip := rfl }

/-- Cursors that show the same still do behind a mark, as their columns are the same. -/
theorem mark (h : ShowsAs text text' k k') (opens : Bool) : ShowsAs text text' (k.mark opens) (k'.mark opens) := by
  have hall : k'.tail.all (·.2 < k'.code.length) = k.tail.all (·.2 < k.code.length) := by
    have hmap : ∀ (line : List Char) (tail : Option (Nat × Nat)) (n : Nat),
        tail.all (·.2 < n) = (tail.map (columnOf line)).all (·.2 < n) := by
      intro line tail n
      cases tail <;> rfl
    rw [hmap text' k'.tail, hmap text k.tail, h.tail, h.code]
  unfold Cursor.mark
  rw [hall]
  split
  · exact { h with tail := by simp [columnOf, h.here, h.code] }
  · exact h

/-- Cursors that show the same still do behind a step in code. -/
theorem codeStep (h : ShowsAs text text' k k') (hprevious : k'.previous = k.previous) (t : Toolchain) (c : Char)
    (rest : List Char) : ShowsAs text text' (codeStep t k c rest) (Scan.codeStep t k' c rest) := by
  have hmark := h.mark (opensComment t c rest)
  have hliteral : literal? t (k'.mark (opensComment t c rest)).previous (c :: rest) =
      literal? t (k.mark (opensComment t c rest)).previous (c :: rest) := by simp [hprevious]
  unfold Scan.codeStep
  dsimp only
  by_cases hhash : (hashComments t && c = '#') = true
  · rw [if_pos hhash, if_pos hhash]
    exact (hmark.comment_set _).enter _ _
  rw [if_neg hhash, if_neg hhash]
  by_cases hslashes : (!hashComments t && c = '/' && rest.head? = some '/') = true
  · rw [if_pos hslashes, if_pos hslashes]
    exact (hmark.comment_set _).enter _ _
  rw [if_neg hslashes, if_neg hslashes]
  by_cases hblock : (!hashComments t && c = '/' && rest.head? = some '*') = true
  · rw [if_pos hblock, if_pos hblock]
    exact (hmark.say _).enter _ _
  rw [if_neg hblock, if_neg hblock]
  split
  · exact (hmark.emit _).enter _ _
  · rw [hliteral]
    split
    · exact (hmark.emit _).enter _ _
    · exact hmark.emit _

/-- Cursors that show the same still do behind a step, whatever they are inside of. -/
theorem modeStep (h : ShowsAs text text' k k') (hprevious : closeOf k.mode = none → k'.previous = k.previous) (t : Toolchain)
    (c : Char) (rest : List Char) : ShowsAs text text' (modeStep t k c rest) (Scan.modeStep t k' c rest) := by
  unfold Scan.modeStep
  rw [h.mode]
  cases mode : k.mode with
  | code => exact h.codeStep (hprevious (by rw [mode]; rfl)) t c rest
  | lineComment => exact h.say _
  | blockComment depth =>
    dsimp only
    by_cases hopens : (nestedBlocks t && c = '/' && rest.head? = some '*') = true
    · rw [if_pos hopens, if_pos hopens]
      exact (h.say _).enter _ _
    rw [if_neg hopens, if_neg hopens]
    by_cases hcloses : (c = '*' && rest.head? = some '/') = true
    · rw [if_pos hcloses, if_pos hcloses]
      exact h.enter _ _
    rw [if_neg hcloses, if_neg hcloses]
    exact h.say _
  | literal close escapes =>
    dsimp only
    by_cases hescape : (escapes && c = '\\') = true
    · rw [if_pos hescape, if_pos hescape]
      exact h.enter _ _
    rw [if_neg hescape, if_neg hescape]
    by_cases hcloses : close.isPrefixOf (c :: rest) = true
    · rw [if_pos hcloses, if_pos hcloses]
      exact (h.emit _).enter _ _
    rw [if_neg hcloses, if_neg hcloses]
    exact h

/-- A character that stands in both lines does the same in both, what is ahead of it being the same. -/
theorem step (h : ShowsAs text text' k k') (hprevious : closeOf k.mode = none → k'.previous = k.previous) {c : Char}
    {more more' : List Char} (hc : text.drop k.position = c :: more) (hc' : text'.drop k'.position = c :: more')
    (t : Toolchain) (rest : List Char) : ShowsAs text text' (step t k c rest) (Scan.step t k' c rest) := by
  have hhere : units (text'.take (k'.position + 1)) = units (text.take (k.position + 1)) := by
    have htext := units_take_add [c] hc
    have htext' := units_take_add [c] hc'
    rw [List.length_singleton] at htext htext'
    rw [htext, htext', h.here]
  unfold Scan.step
  dsimp only
  rw [h.skip]
  by_cases hskip : 0 < k.skip
  · rw [if_pos hskip, if_pos hskip]
    exact { h with skip := rfl, here := hhere }
  · rw [if_neg hskip, if_neg hskip]
    exact { h.modeStep hprevious t c rest with here := hhere }

end ShowsAs

/-! ## Along a line -/

section Content

variable {t : Toolchain} {k : Cursor} {close : List Char} {escapes : Bool}

/-- Content of a literal is passed by. -/
theorem step_content (hk : Regular k.mode) (mode : k.mode = .literal close escapes) {c : Char} (hc : isContent close c = true)
    (rest : List Char) :
    step t k c rest = { k with skip := k.skip - 1, previous := some c, position := k.position + 1 } := by
  rw [mode] at hk
  simp only [isContent, Bool.and_eq_true, decide_eq_true_eq, Bool.not_eq_true', List.contains_eq_mem, decide_eq_false_iff_not] at hc
  obtain ⟨d, close, rfl⟩ := List.exists_cons_of_ne_nil hk.1
  have hne : d ≠ c := fun hd => hc.2 (hd ▸ List.mem_cons_self)
  by_cases hskip : 0 < k.skip
  · simp [step, hskip]
  · simp [step, modeStep, mode, hc.1, hne, Nat.eq_zero_of_not_pos hskip]

/-- A line feed closes no literal. -/
theorem isContent_lineFeed (hk : Regular (.literal close escapes)) : isContent close '\n' = true := by
  have hnone : '\n' ∉ close := fun hmem => lineFeed_ne_of_isDelimiter (hk.2 _ hmem) rfl
  simp [isContent, hnone]

/-- Line feeds inside a literal are passed over one by one. -/
theorem steps_lineFeeds (hk : Regular k.mode) (mode : k.mode = .literal close escapes) (n : Nat) (rest : List Char) :
    ∃ previous, steps t k (List.replicate n '\n' ++ rest) =
      steps t { k with skip := k.skip - n, previous, position := k.position + n } rest := by
  induction n generalizing k with
  | zero => exact ⟨k.previous, rfl⟩
  | succ n ih =>
    rw [List.replicate_succ, List.cons_append, steps, step_content hk mode (isContent_lineFeed (mode ▸ hk))]
    obtain ⟨previous, hrest⟩ := @ih { k with skip := k.skip - 1, previous := some '\n', position := k.position + 1 } hk mode
    refine ⟨previous, hrest.trans ?_⟩
    dsimp only
    rw [Nat.sub_sub, Nat.add_assoc, Nat.add_comm 1 n]

end Content

/-- What a token that was begun inside a literal still takes up: the character behind a backslash, or what closes the literal. -/
def Tracks (k : Cursor) (begun : Option (List Char)) (rest : List Char) : Prop :=
  ∀ close, begun = some close → 0 < k.skip → closeOf k.mode = some close ∧ k.skip = 1 ∨ ∀ d ∈ rest.take k.skip, d ∈ close

/-- A step keeps track of what its token still takes up. -/
theorem tracks_step {t : Toolchain} {k : Cursor} {begun : Option (List Char)} {c : Char} {rest : List Char} (hk : Regular k.mode)
    (h : Tracks k begun (c :: rest)) : Tracks (step t k c rest) (endingAt k begun) rest := by
  intro close hclose hskip
  by_cases hsome : 0 < k.skip
  · rw [endingAt, if_pos hsome] at hclose
    obtain ⟨n, hn⟩ : ∃ n, k.skip = n + 1 := ⟨k.skip - 1, by omega⟩
    have hnext : (step t k c rest).skip = n := by simp [step, hn]
    rw [hnext] at hskip ⊢
    rcases h close hclose hsome with ⟨-, hone⟩ | hending
    · omega
    · rw [hn, List.take_succ_cons] at hending
      exact .inr fun d hd => hending d (List.mem_cons_of_mem c hd)
  have free : k.skip = 0 := Nat.eq_zero_of_not_pos hsome
  rw [endingAt, if_neg hsome] at hclose
  by_cases hescape : ∃ close, k.mode = .literal close true ∧ c = '\\'
  · obtain ⟨close', mode, rfl⟩ := hescape
    have hstep : (step t k '\\' rest).mode = k.mode ∧ (step t k '\\' rest).skip = 1 := by
      simp [step, free, modeStep, mode, Cursor.enter]
    exact .inl ⟨by rw [hstep.1, hclose], hstep.2⟩
  · obtain ⟨token, htoken⟩ := exists_takesUp t rest hk free fun close mode hc => hescape ⟨close, mode, hc⟩
    obtain ⟨more, rfl⟩ := htoken.isPrefix
    refine .inr fun d hd => ?_
    rw [htoken.skip, List.take_left] at hd
    exact htoken.ending close hclose d hd

/-- Concealed content stands in a literal. -/
theorem exists_mode_of_content {k : Cursor} {begun : Option (List Char)} {c : Char} {rest : List Char}
    (h : Tracks k begun (c :: rest)) (hc : (endingAt k begun).any (isContent · c) = true) :
    ∃ close escapes, k.mode = .literal close escapes ∧ isContent close c = true ∧ k.skip ≤ 1 := by
  obtain ⟨close, hclose, hcontent⟩ : ∃ close, endingAt k begun = some close ∧ isContent close c = true := by
    cases hending : endingAt k begun with
    | none => simp [hending] at hc
    | some close => exact ⟨close, rfl, by simpa [hending] using hc⟩
  by_cases hskip : 0 < k.skip
  · rw [endingAt, if_pos hskip] at hclose
    rcases h close hclose hskip with ⟨hmode, hone⟩ | hending
    · obtain ⟨escapes, mode⟩ := eq_literal_of_closeOf hmode
      exact ⟨close, escapes, mode, hcontent, hone.le⟩
    · have hmem : c ∈ close := hending c (by
        rw [← Nat.sub_add_cancel hskip, List.take_succ_cons]
        exact List.mem_cons_self)
      simp [isContent, hmem] at hcontent
  · rw [endingAt, if_neg hskip] at hclose
    obtain ⟨escapes, mode⟩ := eq_literal_of_closeOf hclose
    exact ⟨close, escapes, mode, hcontent, by omega⟩

/-- The scan of a line with the content of literals concealed shows what the scan of the line shows. -/
theorem showsAs_steps {t : Toolchain} {text text' : List Char} {k k' : Cursor} {begun : Option (List Char)} {rest : List Char}
    (hk : Regular k.mode) (h : ShowsAs text text' k k') (hprevious : closeOf k.mode = none → k'.previous = k.previous)
    (htracks : Tracks k begun rest) (hrest : text.drop k.position = rest)
    (hrest' : text'.drop k'.position = conceal t k begun rest) :
    ShowsAs text text' (steps t k rest) (steps t k' (conceal t k begun rest)) := by
  -- on the rest of the line, each character of it being in sight or concealed
  induction rest generalizing k k' begun with
  | nil => exact h
  | cons c rest ih =>
    have hregular := step_regular (t := t) c rest hk
    have htracks' := tracks_step (t := t) hk htracks
    have hdrop : ∀ (piece : List Char) {line more : List Char} {place : Nat}, line.drop place = piece ++ more →
        line.drop (place + piece.length) = more := by
      intro piece line more place heq
      rw [← List.drop_drop, heq, List.drop_left]
    rw [conceal] at hrest' ⊢
    by_cases hc : (endingAt k begun).any (isContent · c) = true
    · obtain ⟨close, escapes, mode, hcontent, hskip⟩ := exists_mode_of_content htracks hc
      have hstep := step_content (t := t) hk mode hcontent rest
      have hk' : Regular k'.mode := by rw [h.mode]; exact hk
      obtain ⟨previous, hsteps⟩ := steps_lineFeeds (t := t) hk' (h.mode.trans mode) (unitsOf c)
        (conceal t (step t k c rest) (endingAt k begun) rest)
      rw [if_pos hc] at hrest' ⊢
      rw [steps, hsteps]
      have hunits := units_take_add _ hrest'
      have hbehind := hdrop _ hrest'
      rw [units_lineFeeds] at hunits
      rw [List.length_replicate] at hunits hbehind
      refine ih hregular ?_ ?_ htracks' ?_ hbehind
      · rw [hstep]
        refine { h with skip := ?_, here := ?_ }
        · have hpos := unitsOf_pos c
          rw [h.skip]
          dsimp only
          omega
        · have hunit := units_take_add [c] hrest
          rw [List.length_singleton, units_singleton] at hunit
          dsimp only
          rw [hunits, hunit, h.here]
      · intro hnone
        rw [hstep, mode] at hnone
        cases hnone
      · rw [hstep]
        exact hdrop [c] hrest
    · rw [if_neg hc, List.singleton_append] at hrest' ⊢
      have hsame := h.step hprevious hrest hrest' t (conceal t (step t k c rest) (endingAt k begun) rest)
      rw [step_conceal hk] at hsame
      exact ih hregular hsame (fun _ => rfl) htracks' (hdrop [c] hrest) (hdrop [c] hrest')

end Scan

namespace Line

/-- What a scanned line shows: its number, its code, its comment and the column of that. -/
def channels (line : Line) : Nat × List Char × Option (List Char) × Option Nat :=
  (line.number, line.code, line.comment, line.commentColumn)

end Line

namespace Scan

/-- Cursors that show the same make lines that show the same. -/
theorem channels_toLine {text text' : List Char} {k k' : Cursor} (h : ShowsAs text text' k k') (number : Nat) :
    (k'.toLine number text').channels = (k.toLine number text).channels := by
  have hcolumn : ∀ (line : List Char) (k : Cursor), (k.toLine number line).commentColumn =
      ((k.tail.map (columnOf line)).filter fun column => k.code.length = column.2).map (·.1) := by
    intro line k
    simp only [Line.commentColumn, Cursor.toLine]
    cases k.tail with
    | none => rfl
    | some tail =>
      simp only [Option.filter_some, Option.map_some, columnOf]
      split <;> rfl
  rw [Line.channels, Line.channels, hcolumn, hcolumn, h.tail, h.code]
  simp only [Cursor.toLine, h.code, h.comment]

/-- Lines with the content of literals concealed have the channels of the lines. -/
theorem channels_linesFrom_conceal {t : Toolchain} {mode : Mode} (hmode : Regular mode) (number : Nat) (texts : List (List Char)) :
    (linesFrom t mode number (concealFrom t mode texts)).map Line.channels = (linesFrom t mode number texts).map Line.channels := by
  induction texts generalizing mode number with
  | nil => rfl
  | cons text rest ih =>
    have hstart : ShowsAs text (conceal t (start mode) none text) (start mode) (start mode) :=
      { mode := rfl, skip := rfl, code := rfl, comment := rfl, here := rfl, tail := by cases mode <;> rfl }
    have hnone : Tracks (start mode) none text := by
      intro close hclose
      cases hclose
    have hline := showsAs_steps (t := t) hmode hstart (fun _ => rfl) hnone rfl rfl
    have hnext := (Satd.starts_nextMode (steps_regular (t := t) (k := start mode) hmode text)).1
    rw [concealFrom, linesFrom, linesFrom, List.map_cons, List.map_cons, hline.mode, ih hnext, channels_toLine hline]

end Scan

/-! ## Whole sources -/

/-- The lines of a source with the content of its literals concealed. -/
def concealed (t : Toolchain) (content : List Char) : List (List Char) := concealFrom t .code (splitLines content)

/-- A debt item without the text of its line. -/
def DebtItem.untold (item : DebtItem) : DebtItem := { item with text := "" }

/-- Sources that are the same when concealed show the same lines. -/
theorem channels_eq_of_concealed {t : Toolchain} {a b : List Char} (h : concealed t a = concealed t b) :
    (scan t a).map Line.channels = (scan t b).map Line.channels := by
  have hsame : ∀ content, (scan t content).map Line.channels = (linesFrom t .code 1 (concealed t content)).map Line.channels :=
    fun content => (channels_linesFrom_conceal (show Regular .code from trivial) 1 (splitLines content)).symm
  rw [hsame a, hsame b, h]

/-- The line that shows the given channels and nothing else. -/
def Line.ofChannels (shown : Nat × List Char × Option (List Char) × Option Nat) : Line :=
  ⟨shown.1, [], shown.2.1, shown.2.2.1, shown.2.2.2⟩

/-- The debt of a source, without the texts of its lines, is told by what the lines show. -/
theorem detectSatd_untold (t : Toolchain) (file : String) (content : List Char) :
    (detectSatd t file content).map DebtItem.untold =
      ((scan t content).map Line.channels).filterMap fun shown => (Satd.itemOf? file (.ofChannels shown)).map DebtItem.untold := by
  have hitem : ∀ line : Line, (Satd.itemOf? file line).map DebtItem.untold =
      (Satd.itemOf? file (.ofChannels line.channels)).map DebtItem.untold := by
    intro line
    simp only [Satd.itemOf?, Line.ofChannels, Line.channels, Option.bind_eq_bind]
    cases line.comment with
    | none => rfl
    | some comment =>
      simp only [Option.bind_some]
      cases Satd.marker? comment with
      | none => rfl
      | some marker =>
        simp only [Option.bind_some]
        cases List.lookup marker Satd.markers <;> rfl
  rw [detectSatd, List.map_filterMap, List.filterMap_map]
  exact List.filterMap_congr fun line _ => hitem line

/-- Sources that differ in the content of literals alone have the same channels line by line, admit the same debt, and have the same
functions where bodies are told by braces. -/
theorem scan_of_concealed {t : Toolchain} {a b : List Char} (h : concealed t a = concealed t b) :
    (scan t a).map Line.channels = (scan t b).map Line.channels ∧
      (∀ file, (detectSatd t file a).map DebtItem.untold = (detectSatd t file b).map DebtItem.untold) ∧
      (t ≠ pythonUv → analyzeFunctions t (scan t a) = analyzeFunctions t (scan t b)) := by
  have hchannels := channels_eq_of_concealed h
  refine ⟨hchannels, fun file => ?_, fun ht => ?_⟩
  · rw [detectSatd_untold, detectSatd_untold, hchannels]
  · have hkeeps : Functions.KeepsInputs t fun line => .ofChannels line.channels :=
      ⟨fun _ => rfl, fun hpython => absurd hpython ht⟩
    have hmap : ∀ content, (scan t content).map (fun line => Line.ofChannels line.channels) =
        ((scan t content).map Line.channels).map Line.ofChannels := by
      intro content
      rw [List.map_map]
      rfl
    rw [← analyzeFunctions_map hkeeps, ← analyzeFunctions_map hkeeps (scan t b), hmap, hmap, hchannels]

namespace OtherTexts

/-- A function that gives one of two texts: a raw one with braces and a marker in it, and one with an escaped character that takes
two units. -/
def content : List Char :=
  "fn pick(x: i32) -> &'static str \x7b\n    if x > 0 \x7b r#\"a \x7b // TODO: b\"# \x7d else \x7b \"\\😀\x7d\" \x7d // FIXME: c\n\x7d".toList

/-- The same function with other texts of the same lengths. -/
def other : List Char :=
  "fn pick(x: i32) -> &'static str \x7b\n    if x > 0 \x7b r#\"if y \x7d /* z &&\"# \x7d else \x7b \"\\xy\x7b\" \x7d // FIXME: c\n\x7d".toList

end OtherTexts

open OtherTexts in
/-- Braces, keywords, comments and markers in texts show nowhere, and the column of the comment behind them stays. -/
theorem otherTexts_scan :
    content ≠ other ∧ concealed rust content = concealed rust other ∧
      (scan rust content).map Line.channels = (scan rust other).map Line.channels ∧
      analyzeFunctions rust (scan rust other) = [⟨"pick", 1, 3, 2, 2⟩] := by
  have hconcealed : concealed rust content = concealed rust other := by decide +kernel
  obtain ⟨hchannels, -, hfunctions⟩ := scan_of_concealed hconcealed
  exact ⟨by decide +kernel, hconcealed, hchannels, (hfunctions (by decide)).symm.trans (by decide +kernel)⟩

end QualityGate
