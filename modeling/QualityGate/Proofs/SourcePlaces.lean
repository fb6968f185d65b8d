import QualityGate.Proofs.Lines
import QualityGate.Proofs.Scanning

/-!
# Places in a source

The scanner takes a source line by line. `through` follows it from character to character, over the ends of lines and with the rest
of the source in view, and `codeOf` is what it sends to the code channel on the way: over a whole source, the code of its lines
(`codeOf_eq_joinLines`). What is neither a delimiter nor a letter of a raw literal gets onto that channel from one kind of place
only, where the scanner is in code and has no token open (`exists_place`).
-/

namespace QualityGate.Scan

/-- The characters of a text before its first line feed. -/
def lineRest (text : List Char) : List Char := text.takeWhile (· ≠ '\n')

/-- One character of a source. A line feed ends the line. -/
def cross (t : Toolchain) (k : Cursor) (c : Char) (rest : List Char) : Cursor :=
  if c = '\n' then start (nextMode k.mode) else step t k c (lineRest rest)

/-- The scanner behind some characters of a source, with the rest of the source ahead. -/
def through (t : Toolchain) : Cursor → List Char → List Char → Cursor
  | k, [], _ => k
  | k, c :: done, rest => through t (cross t k c (done ++ rest)) done rest

/-- What a character of a source adds to its code. -/
def shown (t : Toolchain) (k : Cursor) (c : Char) (rest : List Char) : List Char :=
  if c = '\n' then ['\n'] else (step t k c (lineRest rest)).code.reverse.drop k.code.length

/-- The code of some characters of a source, with the rest of the source ahead. -/
def codeOf (t : Toolchain) : Cursor → List Char → List Char → List Char
  | _, [], _ => []
  | k, c :: done, rest => shown t k c (done ++ rest) ++ codeOf t (cross t k c (done ++ rest)) done rest

/-- Whether the scanner is in code and has no token open. -/
def InCode (k : Cursor) : Prop := k.mode = .code ∧ k.skip = 0

instance (k : Cursor) : Decidable (InCode k) := inferInstanceAs (Decidable (_ ∧ _))

/-- A text in two parts is gone through part by part. -/
theorem through_append (t : Toolchain) (k : Cursor) (done more rest : List Char) :
    through t k (done ++ more) rest = through t (through t k done (more ++ rest)) more rest := by
  induction done generalizing k with
  | nil => rfl
  | cons c done ih => rw [List.cons_append, through, through, ih, List.append_assoc]

/-- The code of a text in two parts is that of both. -/
theorem codeOf_append (t : Toolchain) (k : Cursor) (done more rest : List Char) :
    codeOf t k (done ++ more) rest = codeOf t k done (more ++ rest) ++ codeOf t (through t k done (more ++ rest)) more rest := by
  induction done generalizing k with
  | nil => rfl
  | cons c done ih => rw [List.cons_append, codeOf, codeOf, through, ih, List.append_assoc, List.append_assoc]

/-! ## What a character adds -/

/-- The characters of the tokens that the scanner sends to the code channel. -/
def isTokenChar (c : Char) : Bool := isDelimiter c || c = 'r' || c = 'b'

/-- A character adds itself, where it is in code and begins no token, or characters of a token. -/
theorem Moves.exists_added {t : Toolchain} {k next : Cursor} {c : Char} {rest : List Char} (h : Moves t k c rest next)
    (hk : Regular k.mode) : ∃ added, next.code = added ++ k.code ∧
      ((∀ d ∈ added, isTokenChar d = true) ∨ added = [c] ∧ InCode k) := by
  have hdelimiter : ∀ {d : Char}, isDelimiter d = true → isTokenChar d = true := by
    intro d hd
    simp [isTokenChar, hd]
  cases h with
  | openLine | openBlock => exact ⟨[], k.mark_code true, .inl (List.forall_mem_nil _)⟩
  | char => exact ⟨['\'', '\''], rfl, .inl (by simp [hdelimiter (d := '\'') (by decide)])⟩
  | openLiteral _ _ found =>
    refine ⟨_, rfl, .inl fun d hd => ?_⟩
    rcases (opens_of_literal? found).letters d (List.mem_reverse.mp hd) with hd | rfl | rfl
    · exact hdelimiter hd
    · decide
    · decide
  | plain free mode => exact ⟨[c], rfl, .inr ⟨rfl, mode, free⟩⟩
  | closeLiteral _ mode =>
    rw [mode] at hk
    exact ⟨_, rfl, .inl fun d hd => hdelimiter (hk.2 d (List.mem_reverse.mp hd))⟩
  | skip | sayLine | deepen | closeBlock | sayBlock | escape | inLiteral => exact ⟨[], rfl, .inl (List.forall_mem_nil _)⟩

section Places

variable {t : Toolchain} {k : Cursor}

/-- The end of a line leads to a mode that occurs. -/
theorem regular_nextMode {mode : Mode} (h : Regular mode) : Regular (nextMode mode) := by
  cases mode with
  | code | lineComment => trivial
  | blockComment | literal => exact h

/-- A character leads to a mode that occurs. -/
theorem cross_regular (hk : Regular k.mode) (c : Char) (rest : List Char) : Regular (cross t k c rest).mode := by
  unfold cross
  split
  · exact regular_nextMode hk
  · exact step_regular c _ hk

/-- Within a line, a character adds to the code channel what is shown of it. -/
theorem code_step (hk : Regular k.mode) {c : Char} (hc : c ≠ '\n') (rest : List Char) :
    (step t k c (lineRest rest)).code = (shown t k c rest).reverse ++ k.code := by
  obtain ⟨next, hmove, hstep⟩ := step_cases t k c (lineRest rest)
  obtain ⟨added, hcode, -⟩ := hmove.exists_added hk
  have hcode' : (step t k c (lineRest rest)).code = added ++ k.code := by rw [hstep, hcode]
  simp [shown, hc, hcode']

/-- What is shown of a character is the character itself, in code and where no token begins, or part of a token. -/
theorem shown_cases (hk : Regular k.mode) (c : Char) (rest : List Char) :
    (∀ d ∈ shown t k c rest, isTokenChar d = true) ∨ shown t k c rest = [c] ∧ (c = '\n' ∨ InCode k) := by
  by_cases hc : c = '\n'
  · subst hc
    exact .inr ⟨by simp [shown], .inl rfl⟩
  obtain ⟨next, hmove, hstep⟩ := step_cases t k c (lineRest rest)
  obtain ⟨added, hcode, hadded⟩ := hmove.exists_added hk
  have hshown : (shown t k c rest).reverse ++ k.code = added ++ k.code := by rw [← code_step hk hc rest, hstep, hcode]
  have heq : shown t k c rest = added.reverse := by rw [← List.append_cancel_right hshown, List.reverse_reverse]
  rw [heq]
  rcases hadded with htoken | ⟨rfl, hin⟩
  · exact .inl fun d hd => htoken d (List.mem_reverse.mp hd)
  · exact .inr ⟨rfl, .inr hin⟩

/-! ## Lines -/

theorem lineRest_isPrefix (text : List Char) : lineRest text <+: text := List.takeWhile_prefix _

theorem lineRest_cons {c : Char} (hc : c ≠ '\n') (text : List Char) : lineRest (c :: text) = c :: lineRest text := by
  simp [lineRest, hc]

/-- What comes next on a line comes next in the source. -/
theorem head?_lineRest {d : Char} (hd : d ≠ '\n') (text : List Char) : (lineRest text).head? = some d ↔ text.head? = some d := by
  cases text with
  | nil => rfl
  | cons c text =>
    by_cases hc : c = '\n'
    · simp [lineRest, hc, hd.symm]
    · rw [lineRest_cons hc]
      rfl

/-- A text on one line is all of it, where the next line follows. -/
theorem lineRest_append {text rest : List Char} (htext : '\n' ∉ text) (hrest : lineRest rest = []) :
    lineRest (text ++ rest) = text := by
  have hne : ∀ c ∈ text, (c ≠ '\n') := fun c hc heq => htext (heq ▸ hc)
  unfold lineRest at hrest ⊢
  rw [List.takeWhile_append_of_pos (by simpa using hne), hrest, List.append_nil]

/-- On a line, the scanner goes as it goes on the line alone. -/
theorem through_line {text rest : List Char} (htext : '\n' ∉ text) (hrest : lineRest rest = []) :
    through t k text rest = steps t k text := by
  induction text generalizing k with
  | nil => rfl
  | cons c text ih =>
    obtain ⟨hc, htext⟩ := List.ne_and_not_mem_of_not_mem_cons htext
    rw [through, cross, if_neg hc.symm, lineRest_append htext hrest, ih htext, steps]

/-- The code of a line is what the scanner reads on it. -/
theorem codeOf_line (hk : Regular k.mode) {text rest : List Char} (htext : '\n' ∉ text) (hrest : lineRest rest = []) :
    (steps t k text).code.reverse = k.code.reverse ++ codeOf t k text rest := by
  induction text generalizing k with
  | nil => simp [steps, codeOf]
  | cons c text ih =>
    obtain ⟨hc, htext⟩ := List.ne_and_not_mem_of_not_mem_cons htext
    have hstep := code_step (t := t) hk hc.symm (text ++ rest)
    rw [lineRest_append htext hrest] at hstep
    rw [steps, ih (step_regular c text hk) htext, hstep, codeOf, cross, if_neg hc.symm, lineRest_append htext hrest]
    simp

/-- The code of a source is that of its lines, joined again. -/
theorem codeOf_joinLines {mode : Mode} (hmode : Regular mode) (number : Nat) {texts : List (List Char)}
    (htexts : ∀ text ∈ texts, '\n' ∉ text) (hne : texts ≠ []) :
    codeOf t (start mode) (joinLines texts) [] = joinLines ((linesFrom t mode number texts).map (·.code)) := by
  induction texts generalizing mode number with
  | nil => exact absurd rfl hne
  | cons text texts ih =>
    have htext : '\n' ∉ text := htexts text List.mem_cons_self
    have hline : ∀ rest, lineRest rest = [] → codeOf t (start mode) text rest = (steps t (start mode) text).code.reverse :=
      fun rest hrest => (codeOf_line (k := start mode) hmode htext hrest).symm
    rw [linesFrom, List.map_cons]
    cases texts with
    | nil =>
      rw [linesFrom, List.map_nil, joinLines_singleton, joinLines_singleton, hline [] rfl]
      rfl
    | cons next texts =>
      have hfeed : ∀ more, lineRest ('\n' :: more) = [] := fun more => by simp [lineRest]
      have hmode' : Regular (nextMode (steps t (start mode) text).mode) :=
        regular_nextMode (steps_regular (k := start mode) hmode text)
      have hrest := ih hmode' (number + 1) (fun text h => htexts text (List.mem_cons_of_mem _ h)) (List.cons_ne_nil _ _)
      have hcodes : (linesFrom t (nextMode (steps t (start mode) text).mode) (number + 1) (next :: texts)).map (·.code) ≠ [] :=
        List.cons_ne_nil _ _
      rw [joinLines_cons text (List.cons_ne_nil _ _), joinLines_cons _ hcodes, ← hrest, codeOf_append, List.append_nil,
        hline _ (hfeed _), through_line htext (hfeed _)]
      simp [codeOf, shown, cross, Cursor.toLine]

end Places

/-- The code of a whole source is that of its lines. -/
theorem codeOf_eq_joinLines (t : Toolchain) (content : List Char) :
    codeOf t (start .code) content [] = joinLines ((scan t content).map (·.code)) := by
  have hjoin := codeOf_joinLines (t := t) (show Regular .code from trivial) 1
    (fun text (htext : text ∈ splitLines content) => lineFeed_notMem_of_mem_splitLines htext)
    (by rw [splitLines_eq_splitOn]; exact List.splitOn_ne_nil _ _)
  rwa [joinLines_splitLines] at hjoin

/-! ## Places on the code channel -/

section Channel

variable {t : Toolchain} {k : Cursor}

/-- Line feeds of the source are line feeds of the code. -/
theorem count_codeOf (hk : Regular k.mode) (done rest : List Char) : (codeOf t k done rest).count '\n' = done.count '\n' := by
  induction done generalizing k with
  | nil => rfl
  | cons c done ih =>
    have hshown : (shown t k c (done ++ rest)).count '\n' = [c].count '\n' := by
      by_cases hc : c = '\n'
      · simp [shown, hc]
      rcases shown_cases (t := t) hk c (done ++ rest) with htoken | ⟨heq, -⟩
      · have hnone : '\n' ∉ shown t k c (done ++ rest) := fun hmem => absurd (htoken _ hmem) (by decide)
        rw [List.count_eq_zero.mpr hnone, List.count_eq_zero.mpr (by simpa using Ne.symm hc)]
      · rw [heq]
    rw [codeOf, List.count_append, ih (cross_regular hk c _), hshown, ← List.count_append, List.singleton_append]

/-- Where a character that belongs to no token is on the code channel: among what is shown further on, or here. -/
theorem shown_append_eq (hk : Regular k.mode) {c d : Char} {rest more before behind : List Char} (htoken : isTokenChar d = false)
    (hline : d ≠ '\n') (h : shown t k c rest ++ more = before ++ d :: behind) :
    (∃ before', before = shown t k c rest ++ before' ∧ more = before' ++ d :: behind) ∨ before = [] ∧ c = d ∧ InCode k := by
  rcases List.append_eq_append_iff.mp h with ⟨before', hbefore, hmore⟩ | ⟨part, hshown, hmore⟩
  · exact .inl ⟨before', hbefore, hmore⟩
  cases part with
  | nil => exact .inl ⟨[], by simpa using hshown.symm, by simpa using hmore.symm⟩
  | cons e part =>
    obtain ⟨rfl, -⟩ := List.cons.inj hmore
    rcases shown_cases (t := t) hk c rest with hall | ⟨heq, hin⟩
    · rw [hall d (by simp [hshown])] at htoken
      cases htoken
    · rw [heq] at hshown
      obtain ⟨rfl, hc⟩ : before = [] ∧ c = d := by
        cases before with
        | nil => exact ⟨rfl, (List.cons.inj hshown).1⟩
        | cons => simp at hshown
      exact .inr ⟨rfl, hc, hin.resolve_left (hc ▸ hline)⟩

/-- A character on the code channel that belongs to no token stands at a place of the source where the scanner is in code. -/
theorem exists_place (hk : Regular k.mode) {text rest before behind : List Char} {d : Char} (htoken : isTokenChar d = false)
    (hline : d ≠ '\n') (h : codeOf t k text rest = before ++ d :: behind) :
    ∃ done more, text = done ++ d :: more ∧ codeOf t k done (d :: more ++ rest) = before ∧
      InCode (through t k done (d :: more ++ rest)) := by
  induction text generalizing k before with
  | nil => simp [codeOf] at h
  | cons c text ih =>
    rw [codeOf] at h
    rcases shown_append_eq hk htoken hline h with ⟨before', rfl, hrest⟩ | ⟨rfl, rfl, hin⟩
    · obtain ⟨done, more, rfl, hcode, hin⟩ := ih (cross_regular hk c _) hrest
      rw [List.append_assoc] at hcode hin ⊢
      exact ⟨c :: done, more, rfl, by rw [codeOf, hcode], hin⟩
    · exact ⟨[], text, rfl, rfl, hin⟩

end Channel

end QualityGate.Scan
