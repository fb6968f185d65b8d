import QualityGate.Proofs.Blocks
import QualityGate.Proofs.FunctionEnds
import QualityGate.Source.Template

/-!
# Templates and the functions they replace

A reported function ends with a brace of the source that is in code (`exists_closingBrace`). A template replaces the text from its
signature up to the brace where its own search for the end of a block stops. That is the brace of the function exactly if what the
search reads up to there is an open block, and it is where the function has none of the pieces that its toolchain reads in a way of
its own (`rewrite_to_closingBrace`). Text in single quotes is such a piece: a brace in it cuts the function short
(`quotedBrace_cut`).
-/

namespace QualityGate

open Scan Toolchain Functions Block

namespace Functions

/-! ## What the search for the end of a body reads -/

section Closing

variable {s : BraceState} {code inside : List Char}

/-- The search for the end of a body counts braces as the search for a block does. -/
theorem openBraces?_cons_of_goOn {s' : BraceState} {c : Char} (h : braceStep s c = .goOn s') (rest : List Char) :
    openBraces? s.depth s.opened (c :: rest) = openBraces? s'.depth s'.opened rest := by
  by_cases hopen : c = '\x7b'
  · obtain rfl : ⟨s.depth + 1, _, true⟩ = s' := by simpa [braceStep, hopen] using h
    rw [openBraces?, if_pos hopen]
  by_cases hclose : c = '\x7d'
  · have hend : ¬((s.opened && decide (s.depth - 1 = 0)) = true) := by
      intro hend
      simp [braceStep, hclose, hend] at h
    obtain rfl : ⟨s.depth - 1, _, s.opened⟩ = s' := by simpa [braceStep, hclose, hend] using h
    rw [openBraces?, if_neg hopen, if_pos hclose, if_neg hend]
  · rcases braceStep_of_ne hopen hclose s with hstep | ⟨grouping, hstep⟩
    · rw [hstep] at h
      cases h
    · obtain rfl := BraceStep.goOn.inj (hstep.symm.trans h)
      rw [openBraces?, if_neg hopen, if_neg hclose]

/-- A body is closed by the brace that closes its first one. -/
theorem eq_of_braceStep_closed {c : Char} (h : braceStep s c = .closed) : c = '\x7d' ∧ s.depth = 1 ∧ s.opened = true := by
  unfold braceStep at h
  extract_lets grouping at h
  split at h
  · cases h
  split at h
  · cases h
  split at h
  · rename_i hclose
    split at h
    · rename_i hend
      rw [Bool.and_eq_true, decide_eq_true_eq] at hend
      exact ⟨hclose, by omega, hend.1⟩
    · cases h
  · cases h

/-- The search ends at a closing brace, with the block before it open. -/
theorem exists_of_beforeClosing? (h : beforeClosing? s code = some inside) :
    ∃ behind, code = inside ++ '\x7d' :: behind ∧ openBraces? s.depth s.opened inside = some (1, true) := by
  induction code generalizing s inside with
  | nil => cases h
  | cons c rest ih =>
    rw [beforeClosing?] at h
    cases hstep : braceStep s c with
    | goOn next =>
      rw [hstep] at h
      obtain ⟨inside', hinside, rfl⟩ := Option.map_eq_some_iff.mp h
      obtain ⟨behind, rfl, hopen⟩ := ih hinside
      exact ⟨behind, rfl, by rw [openBraces?_cons_of_goOn hstep, hopen]⟩
    | closed =>
      rw [hstep] at h
      obtain rfl : [] = inside := Option.some.inj h
      obtain ⟨rfl, hdepth, hopened⟩ := eq_of_braceStep_closed hstep
      exact ⟨rest, rfl, by rw [openBraces?, hdepth, hopened]⟩
    | bodiless =>
      rw [hstep] at h
      cases h

end Closing

/-- Code without braces opens and closes no blocks. -/
theorem openBraces?_append_of_unbraced {before : List Char} (h : Unbraced before) (depth : Int) (opened : Bool) (more : List Char) :
    openBraces? depth opened (before ++ more) = openBraces? depth opened more := by
  induction before with
  | nil => rfl
  | cons c rest ih =>
    obtain ⟨hopen, hclose, hrest⟩ := h.of_cons
    rw [List.cons_append, openBraces?, if_neg hopen, if_neg hclose, ih hrest]

end Functions

/-! ## The brace that closes a function -/

/-- The code of a source in front of the name that a line declares, where the name first stands on the line. -/
def codeBeforeName? (t : Toolchain) (codes : List (List Char)) (line : Nat) : Option (List Char) := do
  let code ← codes[line - 1]?
  let name ← declaredName? t code
  return (codes.take (line - 1)).flatMap (· ++ ['\n']) ++ code.take ((indexOf? name code).getD 0)

/-- The code of a source up to the brace that closes the function declared on a line: what stands before the name, and what the
search for the end of the body reads from there. -/
def codeToEnd? (t : Toolchain) (content : List Char) (line : Nat) : Option (List Char) := do
  let lead ← codeBeforeName? t ((scan t content).map (·.code)) line
  let inside ← beforeClosing? ⟨0, 0, false⟩ ((codeOf t (start .code) content []).drop lead.length)
  return lead ++ inside

/-- The code up to the end of a function is that before its name, with what the search reads from there. -/
theorem exists_of_codeToEnd? {t : Toolchain} {content code : List Char} {line : Nat} (h : codeToEnd? t content line = some code) :
    ∃ lead inside, codeBeforeName? t ((scan t content).map (·.code)) line = some lead ∧
      beforeClosing? ⟨0, 0, false⟩ ((codeOf t (start .code) content []).drop lead.length) = some inside ∧
      code = lead ++ inside := by
  obtain ⟨lead, hlead, h⟩ := Option.bind_eq_some_iff.mp h
  obtain ⟨inside, hinside, h⟩ := Option.bind_eq_some_iff.mp h
  exact ⟨lead, inside, hlead, hinside, (Option.some.inj h).symm⟩

/-- The text of a source up to the brace that closes a function, and the text behind it. The brace is in code. -/
structure ClosingBrace (t : Toolchain) (content : List Char) (f : FunctionInfo) (upto after : List Char) : Prop where
  text : content = upto ++ '\x7d' :: after
  inCode : InCode (through t (start .code) upto ('\x7d' :: after))
  line : f.endLine = upto.count '\n' + 1
  code : codeToEnd? t content f.line = some (codeOf t (start .code) upto ('\x7d' :: after))

/-- A brace closes a function when it is in code and the code before it is that up to the end. -/
theorem closingBrace_iff {t : Toolchain} {content : List Char} {f : FunctionInfo} {upto after : List Char} :
    ClosingBrace t content f upto after ↔ content = upto ++ '\x7d' :: after ∧
      InCode (through t (start .code) upto ('\x7d' :: after)) ∧ f.endLine = upto.count '\n' + 1 ∧
      codeToEnd? t content f.line = some (codeOf t (start .code) upto ('\x7d' :: after)) :=
  ⟨fun ⟨text, inCode, line, code⟩ => ⟨text, inCode, line, code⟩, fun ⟨text, inCode, line, code⟩ => ⟨text, inCode, line, code⟩⟩

instance (t : Toolchain) (content : List Char) (f : FunctionInfo) (upto after : List Char) :
    Decidable (ClosingBrace t content f upto after) := decidable_of_iff _ closingBrace_iff.symm

/-- Each line has one end. -/
theorem count_lineEnds {lines : List (List Char)} (h : ∀ line ∈ lines, '\n' ∉ line) :
    (lines.flatMap (· ++ ['\n'])).count '\n' = lines.length := by
  induction lines with
  | nil => rfl
  | cons line lines ih =>
    have hline : line.count '\n' = 0 := List.count_eq_zero.mpr (h line List.mem_cons_self)
    rw [List.flatMap_cons, List.count_append, List.count_append, hline, ih fun line hl => h line (List.mem_cons_of_mem _ hl)]
    simp [Nat.add_comm]

section Templates

variable {t : Toolchain} {content : List Char} {f : FunctionInfo}

/-- A reported function ends with a brace of the source. -/
theorem exists_closingBrace (ht : t ≠ pythonUv) (hf : f ∈ analyzeFunctions t (scan t content)) :
    ∃ upto after, ClosingBrace t content f upto after := by
  obtain ⟨code, rest, name, inside, hlines, hname, hinside, hend⟩ := exists_beforeClosing?_eq_some ht hf
  have hpos : 0 < f.line := by
    obtain ⟨span, -, rfl⟩ := List.mem_map.mp hf
    exact Nat.succ_pos _
  generalize hcodes : (scan t content).map (·.code) = codes at hlines
  have hfeeds : ∀ line ∈ codes, '\n' ∉ line := fun line hline => lineFeed_notMem_code (hcodes ▸ hline)
  obtain ⟨above, rfl, hlength⟩ : ∃ above, codes = above ++ code :: rest ∧ above.length = f.line - 1 := by
    have hlt : f.line - 1 < codes.length := by
      by_contra hle
      rw [List.drop_eq_nil_of_le (Nat.le_of_not_lt hle)] at hlines
      cases hlines
    exact ⟨codes.take (f.line - 1), by rw [← hlines, List.take_append_drop], List.length_take_of_le hlt.le⟩
  obtain ⟨behind, hbehind, -⟩ := exists_of_beforeClosing? hinside
  let place := (indexOf? name code).getD 0
  have hfirst : joinLines (code :: rest) = code.take place ++ joinLines (fromName name code :: rest) := by
    rw [fromName, ← joinLines_append_head, List.take_append_drop]
  have hcode : codeOf t (start .code) content [] =
      (above.flatMap (· ++ ['\n']) ++ code.take place) ++ joinLines (fromName name code :: rest) := by
    rw [codeOf_eq_joinLines, hcodes, joinLines_append_cons, hfirst, List.append_assoc]
  have hplace := hcode
  rw [hbehind, ← List.append_assoc] at hplace
  obtain ⟨upto, after, hsource, hupto, hin⟩ := exists_place (k := start .code) trivial (by decide) (by decide) hplace
  rw [List.append_nil] at hupto hin
  refine ⟨upto, after, hsource, hin, ?_, ?_⟩
  · have hcount := count_codeOf (t := t) (k := start .code) trivial upto ('\x7d' :: after)
    have htake : (code.take place).count '\n' = 0 :=
      List.count_eq_zero.mpr fun hfeed => hfeeds code (by simp) (List.mem_of_mem_take hfeed)
    rw [hupto, List.count_append, List.count_append, count_lineEnds fun line hline => hfeeds line (by simp [hline])] at hcount
    omega
  · have hline : (above ++ code :: rest)[f.line - 1]? = some code := by simp [← hlength]
    have htake : (above ++ code :: rest).take (f.line - 1) = above := by simp [← hlength]
    have hlead : codeBeforeName? t (above ++ code :: rest) f.line = some (above.flatMap (· ++ ['\n']) ++ code.take place) := by
      rw [codeBeforeName?, hline, htake]
      simp [hname, place]
    rw [codeToEnd?, hcodes, hlead, hcode, hupto]
    simp only [Option.bind_eq_bind, Option.bind_some, List.drop_left, hinside]
    rfl

/-- A place with no more code before it than a brace in code has is no further on. -/
theorem length_le_of_codeOf {k : Cursor} {upto after before behind mid : List Char}
    (hin : InCode (through t k upto ('\x7d' :: after))) (htext : upto ++ '\x7d' :: after = before ++ behind)
    (hcode : codeOf t k upto ('\x7d' :: after) = codeOf t k before behind ++ mid) : before.length ≤ upto.length := by
  by_contra hlt
  obtain ⟨more, rfl⟩ : ∃ more, before = upto ++ '\x7d' :: more := by
    rcases List.append_eq_append_iff.mp htext with ⟨part, hbefore, hbehind⟩ | ⟨part, hupto, -⟩
    · cases part with
      | nil => simp [hbefore] at hlt
      | cons c more =>
        obtain ⟨rfl, -⟩ := List.cons.inj hbehind
        exact ⟨more, hbefore⟩
    · rw [hupto, List.length_append] at hlt
      omega
  have hafter : '\x7d' :: after = '\x7d' :: more ++ behind := by simpa using htext
  rw [hafter] at hin
  rw [hafter, codeOf_append, codeOf, shown_closingBrace hin, List.append_assoc] at hcode
  have hlength := congrArg List.length hcode
  simp only [List.length_append, List.length_cons] at hlength
  omega

/-- Of two places where a function could close, neither is behind the other. -/
theorem ClosingBrace.length_le {upto after upto' after' : List Char} (h : ClosingBrace t content f upto after)
    (h' : ClosingBrace t content f upto' after') : upto'.length ≤ upto.length := by
  have hcode := Option.some.inj (h.code.symm.trans h'.code)
  rw [← List.append_nil (codeOf t (start .code) upto' _)] at hcode
  exact length_le_of_codeOf h.inCode (h.text.symm.trans h'.text) hcode

/-- A function has one closing brace. -/
theorem ClosingBrace.eq {upto after upto' after' : List Char} (h : ClosingBrace t content f upto after)
    (h' : ClosingBrace t content f upto' after') : upto = upto' ∧ after = after' := by
  have hlength : upto.length = upto'.length := Nat.le_antisymm (h'.length_le h) (h.length_le h')
  obtain ⟨hupto, hafter⟩ := List.append_inj (h.text.symm.trans h'.text) hlength
  exact ⟨hupto, (List.cons.inj hafter).2⟩

/-! ## What a template replaces -/

variable {template : RewriteTemplate} {place : Nat}

/-- A template leaves a text behind what it replaces if the search reads an open block from the signature up to the brace before. -/
theorem rewrite?_eq_some_iff (hplace : indexOf? template.signature.toList content = some place) (after : List Char) :
    template.rewrite? content = some (content.take place ++ template.replacement.toList ++ after) ↔
      ∃ read, Reads ('\x7d' :: after) (content.drop place) read ∧ IsOpenBlock read := by
  rw [← afterBlock?_eq_some_iff, RewriteTemplate.rewrite?, hplace]
  cases hafter : afterBlock? (content.drop place) <;> simp [hafter]

/-- A signature that begins in code, with no brace between it and the name of a function. -/
structure SignatureAt (t : Toolchain) (content : List Char) (f : FunctionInfo) (place : Nat) : Prop where
  inCode : InCode (through t (start .code) (content.take place) (content.drop place))
  named : ∃ between, codeBeforeName? t ((scan t content).map (·.code)) f.line =
    some (codeOf t (start .code) (content.take place) (content.drop place) ++ between) ∧ Unbraced between

/-- From such a signature on, the search reads an open block where the function has no piece that its toolchain reads in a way of
its own. -/
theorem exists_reads_of_common (ht : t ≠ pythonUv) {upto after : List Char} (hclosing : ClosingBrace t content f upto after)
    (hsignature : SignatureAt t content f place) (hcommon : Common t (upto.drop place)) :
    ∃ read, Reads ('\x7d' :: after) (content.drop place) read ∧ IsOpenBlock read := by
  obtain ⟨between, hname, hbetween⟩ := hsignature.named
  obtain ⟨lead, inside, hlead, hinside, hupto⟩ := exists_of_codeToEnd? hclosing.code
  obtain rfl : _ = lead := Option.some.inj (hname.symm.trans hlead)
  have htake : content.take place ++ content.drop place = content := List.take_append_drop place content
  have hle : place ≤ upto.length := by
    have hlength := length_le_of_codeOf hclosing.inCode (hclosing.text.symm.trans htake.symm) (hupto.trans (List.append_assoc ..))
    have hcontent := congrArg List.length hclosing.text
    simp only [List.length_take, List.length_append, List.length_cons] at hlength hcontent
    omega
  -- The text from the signature to the brace, and the scanner at both.
  have hsplit : upto = content.take place ++ upto.drop place := by
    rw [hclosing.text, List.take_append_of_le_length hle, List.take_append_drop]
  have hdrop : content.drop place = upto.drop place ++ '\x7d' :: after := by
    rw [hclosing.text, List.drop_append_of_le_length hle]
  have hend := hclosing.inCode
  rw [hsplit, through_append, ← hdrop] at hend
  rw [hsplit, codeOf_append, ← hdrop, List.append_assoc] at hupto
  have hin := hsignature.inCode
  obtain ⟨read, hreads, hbraces⟩ := exists_reads ht hcommon (alike_of_inCode hin) hend
  rw [resumeAt_of_inCode hin, ← hdrop] at hreads
  obtain ⟨-, -, hopen⟩ := exists_of_beforeClosing? hinside
  refine ⟨read, hreads, ?_⟩
  rw [IsOpenBlock, ← openBraces?_filter, hbraces, List.append_cancel_left hupto, openBraces?_filter,
    openBraces?_append_of_unbraced hbetween, hopen]

/-- A template replaces a function up to the brace that closes it exactly if what the search reads from the signature to that brace
is an open block. It does where the function has no piece that its toolchain reads in a way of its own. -/
theorem rewrite_to_closingBrace (ht : t ≠ pythonUv) (hf : f ∈ analyzeFunctions t (scan t content))
    (hplace : indexOf? template.signature.toList content = some place) :
    ∃ upto after, ClosingBrace t content f upto after ∧
      (template.rewrite? content = some (content.take place ++ template.replacement.toList ++ after) ↔
        ∃ read, Reads ('\x7d' :: after) (content.drop place) read ∧ IsOpenBlock read) ∧
      (SignatureAt t content f place → Common t (upto.drop place) →
        template.rewrite? content = some (content.take place ++ template.replacement.toList ++ after)) := by
  obtain ⟨upto, after, hclosing⟩ := exists_closingBrace ht hf
  have hiff := rewrite?_eq_some_iff hplace after
  exact ⟨upto, after, hclosing, hiff, fun hsignature hcommon => hiff.mpr (exists_reads_of_common ht hclosing hsignature hcommon)⟩

end Templates

namespace Label

/-- A function with a closing brace in a literal and in a comment. -/
def content : List Char := "function label() \x7b\n  return \"-\x7d\"; // \x7d\n\x7d\n".toList

/-- The function with its literal between other quotes. -/
def quoted : List Char := "function label() \x7b\n  return '-\x7d';\n\x7d\n".toList

def template : RewriteTemplate := ⟨".ts", "function label()", "function label() \x7b return 0; \x7d"⟩

def function : FunctionInfo := ⟨"label", 1, 3, 1, 0⟩

end Label

open Label in
/-- Braces in double quotes and in comments are passed over. -/
theorem label_replaced : function ∈ analyzeFunctions deno (scan deno content) ∧
    indexOf? template.signature.toList content = some 0 ∧
    template.rewrite? content = some (template.replacement.toList ++ "\n".toList) := by
  have hf : function ∈ analyzeFunctions deno (scan deno content) := by decide +kernel
  have hplace : indexOf? template.signature.toList content = some 0 := by decide +kernel
  have hsignature : SignatureAt deno content function 0 := ⟨⟨rfl, rfl⟩, "function ".toList, by decide +kernel⟩
  have hcommon : Common deno content := by decide +kernel
  have hbrace : ClosingBrace deno content function "function label() \x7b\n  return \"-\x7d\"; // \x7d\n".toList ['\n'] := by
    decide +kernel
  obtain ⟨upto, after, hclosing, -, hrewrite⟩ := rewrite_to_closingBrace (by decide) hf hplace
  obtain ⟨rfl, rfl⟩ := hclosing.eq hbrace
  refine ⟨hf, hplace, hrewrite hsignature fun piece hpiece hin => hcommon piece hpiece ?_⟩
  exact hin.trans ⟨[], '\x7d' :: ['\n'], hclosing.text.symm⟩

open Label in
/-- A brace in single quotes ends what is replaced: the rest of the function stays behind. -/
theorem quotedBrace_cut : function ∈ analyzeFunctions deno (scan deno quoted) ∧
    indexOf? template.signature.toList quoted = some 0 ∧ Text.has template.signature function.name = true ∧
    SignatureAt deno quoted function 0 ∧
    ClosingBrace deno quoted function "function label() \x7b\n  return '-\x7d';\n".toList ['\n'] ∧
    template.rewrite? quoted = some (template.replacement.toList ++ "';\n\x7d\n".toList) ∧
    template.rewrite? quoted ≠ some (template.replacement.toList ++ ['\n']) := by
  have hsignature : SignatureAt deno quoted function 0 := ⟨⟨rfl, rfl⟩, "function ".toList, by decide +kernel⟩
  have hrewrite : template.rewrite? quoted = some (template.replacement.toList ++ "';\n\x7d\n".toList) := by decide +kernel
  refine ⟨by decide +kernel, by decide +kernel, by decide +kernel, hsignature, by decide +kernel, hrewrite, ?_⟩
  rw [hrewrite]
  simp

end QualityGate
