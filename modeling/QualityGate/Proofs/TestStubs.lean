import QualityGate.Proofs.Groups
import QualityGate.Proofs.StubLines

/-!
# Test stubs

Stubs are put in front of the end of the test module or into a new one, line by line (`splitLines_of_module`, `splitLines_of_no_module`).
Every test that stands in the text stays there (`occurs_appendTestStubs`), every function without one gets one (`functionLine_mem`), and
no function comes in, so a second edit finds nothing to do (`appendTestStubs_again`). A function is taken to have a test wherever the
text has the form of one: `tested_iff` tells which functions end up with a test in code.
-/

namespace QualityGate

open Scan Toolchain

namespace TestStubs

/-! ## What is edited -/

variable {content : List Char} {name : String}

/-- The public functions of a source are those that its lines declare. -/
theorem mem_publicFunctionNames :
    name ∈ publicFunctionNames rust content ↔ name ∈ declaredFrom .code (splitLines content) := by
  rw [publicFunctionNames_eq, mem_distinct]

/-- The name of a public function is a name. -/
theorem isName_of_mem (h : name ∈ publicFunctionNames rust content) : IsName name := by
  obtain ⟨code, -, hname⟩ := List.mem_filterMap.mp (mem_publicFunctionNames.mp h)
  exact isName_of_publicName? hname

/-- A public function is untested when the pattern of its test does not occur. -/
theorem mem_untestedFunctions : name ∈ untestedFunctions rust content ↔
    name ∈ publicFunctionNames rust content ∧ (testOf name).occurs content = false := by
  rw [untestedFunctions, List.mem_filter, Bool.not_eq_true']

theorem isName_of_mem_untested : ∀ name ∈ untestedFunctions rust content, IsName name :=
  fun _ hname => isName_of_mem (mem_untestedFunctions.mp hname).1

/-! ## The edit -/

/-- The empty line in front of a new module, where the last line has no end. -/
def gapLines (content : List Char) : List (List Char) := if content.isEmpty ∨ content.getLast? = some '\n' then [] else [[]]

/-- The gap in front of a module is empty lines. -/
theorem forall_gapLines {P : List Char → Prop} (h : P []) : ∀ line ∈ gapLines content, P line := by
  unfold gapLines
  split
  · exact List.forall_mem_nil _
  · exact List.forall_mem_singleton.mpr h

/-- Where all is tested, nothing is added. -/
theorem appendTestStubs_of_tested (h : untestedFunctions rust content = []) : appendTestStubs rust content = (content, []) := by
  rw [appendTestStubs, h]
  rfl

/-- Where the test module ends, the stubs are put in front of its end. -/
theorem appendTestStubs_of_module {before closing : List Char} (h : untestedFunctions rust content ≠ [])
    (hend : testModuleEnd? content = some (before, closing)) : (appendTestStubs rust content).1 =
      trimEnd before ++ '\n' :: ([] ++ '\n' :: (joinLines (spaced stubLines (untestedFunctions rust content)) ++ '\n' :: closing)) := by
  rw [appendTestStubs]
  dsimp only
  rw [if_neg (by simpa using h), hend, joinLines_spaced_stubLines]
  simp

/-- Otherwise they get a module of their own at the end. -/
theorem appendTestStubs_of_no_module (h : untestedFunctions rust content ≠ []) (hend : testModuleEnd? content = none) :
    (appendTestStubs rust content).1 =
      content ++ '\n' :: joinLines (gapLines content ++ moduleLines (untestedFunctions rust content)) := by
  have hopening : "\n#[cfg(test)]\nmod tests \x7b\n    use super::*;\n\n".toList =
      '\n' :: "#[cfg(test)]\nmod tests \x7b\n    use super::*;\n\n".toList := by decide
  have hjoin := joinLines_moduleLines h
  rw [appendTestStubs, gapLines]
  dsimp only
  rw [if_neg (by simpa using h), hend, ← joinLines_spaced_stubLines, hopening]
  dsimp only
  split
  · rw [List.nil_append, hjoin, List.append_assoc, List.append_assoc, List.cons_append]
  · rw [List.singleton_append, joinLines_cons [] moduleLines_ne_nil, hjoin]
    simp

/-! ## The lines of the edited source -/

/-- Stubs go in front of the brace that closes the test module. -/
theorem splitLines_of_module {before closing : List Char} (h : untestedFunctions rust content ≠ [])
    (hend : testModuleEnd? content = some (before, closing)) : splitLines (appendTestStubs rust content).1 =
      splitLines (trimEnd before) ++ ([[]] ++ (spaced stubLines (untestedFunctions rust content) ++ splitLines closing)) := by
  have hsome : ∀ name ∈ untestedFunctions rust content, stubLines name ≠ [] := fun _ _ => List.cons_ne_nil _ _
  have hstubs := splitLines_joinLines (lineFeed_notMem_spaced isName_of_mem_untested) (spaced_ne_nil hsome h)
  rw [appendTestStubs_of_module h hend, splitLines_append, splitLines_append, splitLines_append, hstubs]
  rfl

/-- Where there is no test module, one is added behind the last line. -/
theorem splitLines_of_no_module (h : untestedFunctions rust content ≠ []) (hend : testModuleEnd? content = none) :
    splitLines (appendTestStubs rust content).1 =
      splitLines content ++ (gapLines content ++ moduleLines (untestedFunctions rust content)) := by
  have hlines : ∀ line ∈ gapLines content ++ moduleLines (untestedFunctions rust content), '\n' ∉ line :=
    List.forall_mem_append.mpr ⟨forall_gapLines List.not_mem_nil, lineFeed_notMem_moduleLines isName_of_mem_untested⟩
  rw [appendTestStubs_of_no_module h hend, splitLines_append,
    splitLines_joinLines hlines (List.append_ne_nil_of_right_ne_nil _ moduleLines_ne_nil)]

/-! ## The public functions of the edited source -/

/-- A test module that is added declares nothing public. -/
theorem declaredFrom_of_no_module (h : untestedFunctions rust content ≠ []) (hend : testModuleEnd? content = none) :
    declaredFrom .code (splitLines (appendTestStubs rust content).1) = declaredFrom .code (splitLines content) := by
  have hnames : ∀ name ∈ untestedFunctions rust content, IsName name := isName_of_mem_untested
  have hgap : ∀ line ∈ gapLines content, Undeclaring line := forall_gapLines undeclaring_nil
  have hnone := declaredFrom_of_undeclaring (atLineStart_modeFrom (t := rust) atLineStart_code (splitLines content))
    (List.forall_mem_append.mpr ⟨hgap, undeclaring_moduleLines hnames⟩)
  rw [splitLines_of_no_module h hend, declaredFrom_append, hnone, List.append_nil]

/-- The end of a test module is a closing brace. -/
theorem exists_of_testModuleEnd? {before closing : List Char} (h : testModuleEnd? content = some (before, closing)) :
    content = before ++ closing ∧ ∃ after, closing = '\x7d' :: after := by
  rw [testModuleEnd?] at h
  obtain ⟨found, -, h⟩ := Option.bind_eq_some_iff.mp h
  obtain ⟨stop, hstop, h⟩ := Option.bind_eq_some_iff.mp h
  obtain ⟨rfl, rfl⟩ := Prod.mk.inj (Option.some.inj h)
  rw [blockEnd?] at hstop
  obtain ⟨after, hafter, rfl⟩ := Option.map_eq_some_iff.mp hstop
  obtain ⟨read, hreads, -⟩ := (Block.afterBlock?_eq_some_iff _ _).mp hafter
  obtain ⟨front, hcontent⟩ := hreads.isSuffix.trans (List.drop_suffix _ _)
  have hlength : content.length - after.length - 1 = front.length := by
    rw [← hcontent, List.length_append, List.length_cons]
    omega
  refine ⟨(List.take_append_drop _ _).symm, after, ?_⟩
  rw [hlength, ← hcontent, List.drop_left]

/-- The scanner at the end of a test module. -/
def atModuleEnd (place : List Char × List Char) : Cursor := through rust (start .code) place.1 place.2

/-- With stubs between them, what is in front of the end of the test module and what begins there declare what each does on its own. -/
theorem declaredFrom_around_stubs {before closing : List Char} (h : untestedFunctions rust content ≠ [])
    (hend : testModuleEnd? content = some (before, closing)) (hin : modeFrom rust .code (splitLines before) = .code) :
    declaredFrom .code (splitLines (appendTestStubs rust content).1) =
      declaredFrom .code (splitLines before) ++ declaredFrom .code (splitLines closing) := by
  have hnames : ∀ name ∈ untestedFunctions rust content, IsName name := isName_of_mem_untested
  obtain ⟨blanks, hblanks, hblank⟩ := exists_trimEnd_append before
  obtain ⟨htrimmedMode, htrimmed⟩ := ends_append_blanks (trimEnd before) hblank
  rw [← hblanks] at htrimmedMode htrimmed
  have hstubs : ∀ line ∈ [[]] ++ spaced stubLines (untestedFunctions rust content), Undeclaring line :=
    List.forall_mem_append.mpr ⟨List.forall_mem_singleton.mpr undeclaring_nil, undeclaring_spaced hnames⟩
  have hholds := Holds.append (⟨rfl, rfl⟩ : Holds [[]] [[]]) (holds_spaced fun name hname => holds_stubLines (hnames name hname))
  rw [splitLines_of_module h hend, declaredFrom_append, ← htrimmedMode, ← htrimmed, hin, ← List.append_assoc [[]],
    declaredFrom_append, declaredFrom_of_undeclaring atLineStart_code hstubs, hholds.mode, List.nil_append]

/-- What a source declares with stubs in front of the end of its test module: what it declares, but for the line of that end, of
which only the code in front of it counts. -/
theorem declaredFrom_of_module {before closing : List Char} (h : untestedFunctions rust content ≠ [])
    (hend : testModuleEnd? content = some (before, closing)) (hin : InCode (atModuleEnd (before, closing))) :
    ∃ above behind below,
      declaredFrom .code (splitLines content) =
        above ++ ((publicName? ((atModuleEnd (before, closing)).code.reverse ++ '\x7d' :: behind)).toList ++ below) ∧
      declaredFrom .code (splitLines (appendTestStubs rust content).1) =
        above ++ ((publicName? (atModuleEnd (before, closing)).code.reverse).toList ++ below) := by
  obtain ⟨rfl, after, rfl⟩ := exists_of_testModuleEnd? hend
  obtain ⟨above, last, hsplit, -, -, -⟩ := exists_lastLine before
  obtain ⟨below, hbelow⟩ := exists_firstLine ('\x7d' :: after)
  have hplace : atModuleEnd (before, '\x7d' :: after) =
      ahead rust (start (modeFrom rust .code above)) last (lineRest ('\x7d' :: after)) := through_eq hsplit _
  rw [lineRest_cons (by decide)] at hbelow hplace
  rw [hplace] at hin ⊢
  obtain ⟨hlast, behind, hline, hbrace, hmode⟩ := exists_split (lineRest after) hin
  refine ⟨declaredFrom .code above, behind,
    declaredFrom (nextMode (steps rust (start (modeFrom rust .code above)) (last ++ '\x7d' :: lineRest after)).mode) below, ?_, ?_⟩
  · rw [splitLines_append_of_eq hsplit hbelow, declaredFrom_append, declaredFrom_cons, hline]
  · have hends : modeFrom rust .code (splitLines before) = .code := by
      rw [hsplit, modeFrom_append, modeFrom, modeFrom, hlast, hin.1]
      rfl
    have hbefore : declaredFrom .code (splitLines before) = declaredFrom .code above ++
        (publicName? (ahead rust (start (modeFrom rust .code above)) last ('\x7d' :: lineRest after)).code.reverse).toList := by
      rw [hsplit, declaredFrom_append, declaredFrom_cons, hlast]
      exact congrArg _ (List.append_nil _)
    -- the line of the end begins with the brace now, and declares nothing
    have hnone : publicName? ('\x7d' :: behind) = none := publicName?_of_head fun heq => absurd (Option.some.inj heq) (by decide)
    rw [declaredFrom_around_stubs h hend hends, hbefore, hbelow, declaredFrom_cons, hbrace, hnone, hmode, List.append_assoc]
    rfl

/-! ## The tests of the edited source -/

/-- The line of a stub has the test in it that is looked for. -/
theorem occurs_of_functionLine {text : List Char} (h : functionLine name ∈ splitLines text) : (testOf name).occurs text = true := by
  have hstands : ∀ front rest : List Char, TestStands name (front ++ (functionLine name ++ rest)) (front ++ "    ".toList) [' '] []
      (") \x7b\x7d".toList ++ rest) := by
    intro front rest
    have hword : (front ++ "    ".toList).getLast?.any isWordChar = false := by simp [isWordChar]
    refine ⟨?_, hword, List.cons_ne_nil _ _, List.forall_mem_singleton.mpr (by decide), List.forall_mem_nil _⟩
    unfold functionLine
    simp [testText]
  rw [occurs_testOf_iff]
  rcases exists_of_mem_splitLines h with ⟨rest, htext⟩ | ⟨front, rest, htext⟩
  · exact ⟨_, _, _, _, htext ▸ hstands [] rest⟩
  · have hfront := hstands (front ++ ['\n']) rest
    rw [List.append_assoc, List.singleton_append, ← htext] at hfront
    exact ⟨_, _, _, _, hfront⟩

/-- Each function without a test gets one. -/
theorem functionLine_mem (h : name ∈ untestedFunctions rust content) : functionLine name ∈ splitLines (appendTestStubs rust content).1 := by
  have hne : untestedFunctions rust content ≠ [] := List.ne_nil_of_mem h
  have hline : functionLine name ∈ spaced stubLines (untestedFunctions rust content) :=
    mem_spaced_of_mem h (List.mem_cons_of_mem _ (List.mem_cons_of_mem _ List.mem_cons_self))
  cases hend : testModuleEnd? content with
  | none =>
    rw [splitLines_of_no_module hne hend, moduleLines]
    simp [hline]
  | some place =>
    rw [splitLines_of_module hne hend]
    simp [hline]

/-- Tests that stand in a source still do in the edited one. -/
theorem occurs_appendTestStubs (hname : IsName name) (h : (testOf name).occurs content = true) :
    (testOf name).occurs (appendTestStubs rust content).1 = true := by
  by_cases hmissing : untestedFunctions rust content = []
  · rw [appendTestStubs_of_tested hmissing]
    exact h
  obtain ⟨before, gap, gap', more, hstands⟩ := occurs_testOf_iff.mp h
  rw [occurs_testOf_iff]
  cases hend : testModuleEnd? content with
  | none =>
    rw [appendTestStubs_of_no_module hmissing hend]
    exact ⟨_, _, _, _, hstands.append _⟩
  | some place =>
    obtain ⟨front, closing⟩ := place
    obtain ⟨rfl, after, rfl⟩ := exists_of_testModuleEnd? hend
    rw [appendTestStubs_of_module hmissing hend]
    rcases hstands.beside_brace hname with ⟨rest, hfront⟩ | ⟨between, hbehind⟩
    · obtain ⟨rest', htrimmed⟩ := hfront.trimEnd
      exact ⟨_, _, _, _, htrimmed.append _⟩
    · have hnew := hbehind (trimEnd front ++ '\n' :: ([] ++ '\n' ::
        (joinLines (spaced stubLines (untestedFunctions rust (front ++ '\x7d' :: after))) ++ ['\n'])))
      simp only [List.append_assoc, List.cons_append, List.nil_append] at hnew ⊢
      exact ⟨_, _, _, _, hnew⟩

/-- The edited source declares no other functions, and the same ones where the brace is not within the parentheses of a visibility. -/
theorem publicFunctionNames_appendTestStubs (hend : ∀ place ∈ testModuleEnd? content, InCode (atModuleEnd place)) :
    (∀ name ∈ publicFunctionNames rust (appendTestStubs rust content).1, name ∈ publicFunctionNames rust content) ∧
      ((∀ place ∈ testModuleEnd? content, ¬OpensScope (atModuleEnd place).code.reverse) →
        publicFunctionNames rust (appendTestStubs rust content).1 = publicFunctionNames rust content) := by
  by_cases hmissing : untestedFunctions rust content = []
  · rw [appendTestStubs_of_tested hmissing]
    exact ⟨fun _ => id, fun _ => rfl⟩
  cases hplace : testModuleEnd? content with
  | none =>
    have hsame : publicFunctionNames rust (appendTestStubs rust content).1 = publicFunctionNames rust content := by
      rw [publicFunctionNames_eq, publicFunctionNames_eq, declaredFrom_of_no_module hmissing hplace]
    rw [hsame]
    exact ⟨fun _ => id, fun _ => rfl⟩
  | some place =>
    obtain ⟨before, closing⟩ := place
    obtain ⟨above, behind, below, hold, hnew⟩ := declaredFrom_of_module hmissing hplace (hend _ hplace)
    by_cases hscope : OpensScope (atModuleEnd (before, closing)).code.reverse
    · refine ⟨fun name hname => ?_, fun hnot => absurd hscope (hnot _ rfl)⟩
      rw [mem_publicFunctionNames, hnew, publicName?_of_opensScope hscope] at hname
      rw [mem_publicFunctionNames, hold]
      simp only [List.mem_append] at hname ⊢
      rcases hname with hname | hname | hname
      · exact .inl hname
      · cases hname
      · exact .inr (.inr hname)
    · have hsame : publicFunctionNames rust (appendTestStubs rust content).1 = publicFunctionNames rust content := by
        rw [publicFunctionNames_eq, publicFunctionNames_eq, hold, hnew, publicName?_before_brace hscope]
      rw [hsame]
      exact ⟨fun _ => id, fun _ => rfl⟩

end TestStubs

open TestStubs

/-- Adding stubs to a source with stubs added adds none and leaves it as it is, where the brace that ends the test module, if one does,
is in code. The public functions are the same ones before and after, unless that brace stands within the parentheses of a `pub(`. -/
theorem appendTestStubs_again {content : List Char} (hend : ∀ place ∈ testModuleEnd? content, InCode (atModuleEnd place)) :
    appendTestStubs rust (appendTestStubs rust content).1 = ((appendTestStubs rust content).1, []) ∧
      ((∀ place ∈ testModuleEnd? content, ¬OpensScope (atModuleEnd place).code.reverse) →
        publicFunctionNames rust (appendTestStubs rust content).1 = publicFunctionNames rust content) := by
  obtain ⟨hsubset, hsame⟩ := publicFunctionNames_appendTestStubs hend
  refine ⟨appendTestStubs_of_tested ?_, hsame⟩
  rw [List.eq_nil_iff_forall_not_mem]
  intro name hname
  obtain ⟨hnew, hnone⟩ := mem_untestedFunctions.mp hname
  have hold := hsubset name hnew
  have hoccurs : (testOf name).occurs (appendTestStubs rust content).1 = true := by
    cases htest : (testOf name).occurs content with
    | true => exact occurs_appendTestStubs (isName_of_mem hold) htest
    | false => exact occurs_of_functionLine (functionLine_mem (mem_untestedFunctions.mpr ⟨hold, htest⟩))
  rw [hnone] at hoccurs
  cases hoccurs

namespace HalfTested

/-- Two functions, one of which has a test. -/
def content : List Char :=
  joinLines ["pub fn a() \x7b\x7d".toList, [], "#[cfg(test)]".toList, "mod tests \x7b".toList, "    fn test_b() \x7b\x7d".toList,
    "\x7d pub(crate) fn b() \x7b\x7d".toList, "pub async fn b() \x7b\x7d".toList]

/-- The brace of the test module stands within the parentheses of a visibility. -/
def braced : List Char := joinLines ["#[cfg(test)]".toList, "mod tests \x7b".toList, "pub(\x7d) fn foo() \x7b\x7d".toList, []]

end HalfTested

open HalfTested in
/-- The one function without a test gets its stub in the module that is there, and the next time there is nothing to add. -/
theorem halfTested_again : (testModuleEnd? content).isSome = true ∧ (appendTestStubs rust content).2 = ["a"] ∧
    appendTestStubs rust (appendTestStubs rust content).1 = ((appendTestStubs rust content).1, []) ∧
    publicFunctionNames rust (appendTestStubs rust content).1 = ["a", "b"] := by
  have hplace : ∀ place ∈ testModuleEnd? content, InCode (atModuleEnd place) := by decide +kernel
  have hscope : ∀ place ∈ testModuleEnd? content, ¬OpensScope (atModuleEnd place).code.reverse := by decide +kernel
  have hnames : publicFunctionNames rust content = ["a", "b"] := by decide +kernel
  obtain ⟨hagain, hsame⟩ := appendTestStubs_again hplace
  exact ⟨by decide +kernel, by decide +kernel, hagain, (hsame hscope).trans hnames⟩

open HalfTested in
/-- All of this source is code, and the edit takes its function out of sight. -/
theorem braced_hidden : codesFrom rust .code (splitLines braced) = splitLines braced ∧ (testModuleEnd? braced).isSome = true ∧
    publicFunctionNames rust braced = ["foo"] ∧ publicFunctionNames rust (appendTestStubs rust braced).1 = [] := by
  decide +kernel

namespace TestStubs

/-! ## Tests in code -/

/-- A function of a name is declared in some code: the keyword and the name are words of their own, with blanks between them. -/
def HasFunction (name : String) (code : List Char) : Prop :=
  ∃ before gap after, code = before ++ ("fn".toList ++ (gap ++ (name.toList ++ after))) ∧ gap ≠ [] ∧ (∀ c ∈ gap, isBlank c = true) ∧
    before.getLast?.any isWordChar = false ∧ after.head?.any isWordChar = false

/-- The words of a text, and what stands between two signs that are in none. -/
def wordsOf (text : List Char) : List (List Char) := text.splitOnP fun c => !isWordChar c

variable {content code : List Char} {name : String}

/-- A sign that is in no word divides the words before it from those behind it. -/
theorem wordsOf_append_cons {c : Char} (hc : isWordChar c = false) (text more : List Char) :
    wordsOf (text ++ c :: more) = wordsOf text ++ wordsOf more :=
  List.splitOnP_append_cons text more (by rw [hc]; rfl)

theorem wordsOf_word {word : List Char} (h : ∀ c ∈ word, isWordChar c = true) : wordsOf word = [word] :=
  List.splitOnP_eq_singleton fun c hc => by simp [h c hc]

/-- Code that declares a function has the keyword in it. -/
theorem HasFunction.keyword (h : HasFunction name code) : "fn".toList <:+: code := by
  obtain ⟨before, gap, after, rfl, -⟩ := h
  exact ⟨before, gap ++ (name.toList ++ after), by rw [List.append_assoc]⟩

/-- The name of a declared function is one of the words. -/
theorem HasFunction.mem_wordsOf (h : HasFunction name code) (hname : IsName name) : name.toList ∈ wordsOf code := by
  obtain ⟨before, gap, after, rfl, hgap, hblank, -, hafter⟩ := h
  obtain ⟨gap, c, rfl⟩ := (List.eq_nil_or_concat' gap).resolve_left hgap
  have hc : isWordChar c = false := Functions.not_isWordChar_of_isBlank (hblank c (List.mem_append_right _ List.mem_cons_self))
  have hsplit : before ++ ("fn".toList ++ (gap ++ [c] ++ (name.toList ++ after))) =
      before ++ ("fn".toList ++ gap) ++ c :: (name.toList ++ after) := by simp
  rw [hsplit, wordsOf_append_cons hc]
  refine List.mem_append_right _ ?_
  cases after with
  | nil =>
    rw [List.append_nil, wordsOf_word hname]
    exact List.mem_singleton_self _
  | cons d after =>
    rw [wordsOf_append_cons hafter, wordsOf_word hname]
    exact List.mem_cons_self

/-- The line of a stub declares the test of its function. -/
theorem hasFunction_functionLine (name : String) : HasFunction (testName name) (functionLine name) := by
  refine ⟨"    ".toList, [' '], "() \x7b\x7d".toList, ?_, List.cons_ne_nil _ _, List.forall_mem_singleton.mpr (by decide), rfl, rfl⟩
  unfold functionLine
  simp

/-- It declares no other one. -/
theorem eq_of_hasFunction_functionLine {other : String} (hname : IsName name) (hother : IsName other)
    (h : HasFunction (testName name) (functionLine other)) : name = other := by
  have hline : functionLine other = "    fn".toList ++ ' ' :: ((testName other).toList ++ '(' :: ") \x7b\x7d".toList) := by
    unfold functionLine
    simp
  have hwords := h.mem_wordsOf (isName_testName hname)
  rw [hline, wordsOf_append_cons rfl, wordsOf_append_cons rfl, wordsOf_word (isName_testName hother), toList_testName] at hwords
  have hstart : wordsOf "    fn".toList = [[], [], [], [], ['f', 'n']] := by decide
  have hend : wordsOf ") \x7b\x7d".toList = [[], [], [], [], []] := by decide
  rw [hstart, hend, toList_testName] at hwords
  have hsame : name.toList = other.toList := by simpa using hwords
  exact String.toList_injective hsame

/-- Code that declares a function has its name in it. -/
theorem HasFunction.isInfix (h : HasFunction name code) : name.toList <:+: code := by
  obtain ⟨before, gap, after, rfl, -⟩ := h
  exact ⟨before ++ ("fn".toList ++ gap), after, by simp⟩

/-- The code of the attributes of a stub. -/
def attributeCodes : List (List Char) := ["    #[test]".toList, "    #[ignore = \"\"]".toList]

theorem stubCodes_eq (name : String) : stubCodes name = attributeCodes ++ [functionLine name] := rfl

theorem attributes_no_keyword : ∀ code ∈ attributeCodes, ¬"fn".toList <:+: code := by decide +kernel

/-- The lines of a new test module declare the tests of the functions that it is for, and no other ones. -/
theorem hasFunction_moduleCodes_iff {names : List String} (hnames : ∀ name ∈ names, IsName name) (hname : IsName name) :
    (∃ code ∈ gapLines content ++ moduleCodes names, HasFunction (testName name) code) ↔ name ∈ names := by
  have hhead : ∀ code ∈ moduleHead, ¬"fn".toList <:+: code := by decide +kernel
  have hempty : ¬"fn".toList <:+: [] := by decide
  have hgap : ∀ code ∈ gapLines content, ¬"fn".toList <:+: code := forall_gapLines hempty
  have htail : ∀ code ∈ moduleTail, ¬"fn".toList <:+: code := by decide +kernel
  constructor
  · rintro ⟨code, hcode, hhas⟩
    rw [moduleCodes, List.mem_append, List.mem_append, List.mem_append] at hcode
    rcases hcode with hcode | hcode | hcode | hcode
    · exact absurd hhas.keyword (hgap code hcode)
    · exact absurd hhas.keyword (hhead code hcode)
    · rcases mem_spaced hcode with rfl | ⟨other, hother, hcode⟩
      · exact absurd hhas.keyword hempty
      rcases List.mem_append.mp (stubCodes_eq other ▸ hcode) with hcode | hcode
      · exact absurd hhas.keyword (attributes_no_keyword code hcode)
      · obtain rfl := List.mem_singleton.mp hcode
        exact eq_of_hasFunction_functionLine hname (hnames other hother) hhas ▸ hother
    · exact absurd hhas.keyword (htail code hcode)
  · intro hmem
    have hline : functionLine name ∈ spaced stubCodes names :=
      mem_spaced_of_mem hmem (List.mem_cons_of_mem _ (List.mem_cons_of_mem _ List.mem_cons_self))
    exact ⟨functionLine name, List.mem_append_right _ (List.mem_append_right _ (List.mem_append_left _ hline)),
      hasFunction_functionLine name⟩

/-- Without a test module, the code of the edited source is that of the source and that of the new module. -/
theorem codes_appendTestStubs (hmissing : untestedFunctions rust content ≠ []) (hend : testModuleEnd? content = none)
    (hends : modeFrom rust .code (splitLines content) = .code) :
    codesFrom rust .code (splitLines (appendTestStubs rust content).1) =
      codesFrom rust .code (splitLines content) ++ (gapLines content ++ moduleCodes (untestedFunctions rust content)) := by
  have hnames : ∀ name ∈ untestedFunctions rust content, IsName name := isName_of_mem_untested
  have hgap : ∀ line ∈ gapLines content, Unquoted line := forall_gapLines (List.forall_mem_nil _)
  have hholds := (holds_unquoted hgap).append (holds_moduleLines hnames)
  rw [splitLines_of_no_module hmissing hend, codesFrom_append, hends, hholds.codes]

end TestStubs

/-- Where there is no test module yet and the scan ends in code, a public function ends up with a test in code exactly if the text of
the source holds none, in code or elsewhere, or one is in code already. -/
theorem tested_iff {content : List Char} (hmodule : testModule.occurs content = false)
    (hends : modeFrom rust .code (splitLines content) = .code) {name : String} (hname : name ∈ publicFunctionNames rust content) :
    (∃ line ∈ scan rust (appendTestStubs rust content).1, HasFunction (testName name) line.code) ↔
      (testOf name).occurs content = false ∨ ∃ line ∈ scan rust content, HasFunction (testName name) line.code := by
  have hend : testModuleEnd? content = none := by
    rw [testModuleEnd?, Option.not_isSome_iff_eq_none.mp (Bool.eq_false_iff.mp hmodule)]
    rfl
  have hnames : ∀ name ∈ untestedFunctions rust content, IsName name := isName_of_mem_untested
  have huntested : name ∈ untestedFunctions rust content ↔ (testOf name).occurs content = false := by
    rw [mem_untestedFunctions]
    exact and_iff_right hname
  rw [← huntested, exists_line_iff, exists_line_iff]
  by_cases hmissing : untestedFunctions rust content = []
  · rw [appendTestStubs_of_tested hmissing, hmissing]
    exact (or_iff_right List.not_mem_nil).symm
  · have hadded : (∃ code ∈ gapLines content ++ moduleCodes (untestedFunctions rust content), HasFunction (testName name) code) ↔
        name ∈ untestedFunctions rust content := hasFunction_moduleCodes_iff hnames (isName_of_mem hname)
    rw [codes_appendTestStubs hmissing hend hends, ← hadded, or_comm]
    simp only [List.mem_append, or_and_right, exists_or]

namespace MentionedTest

/-- A function without a test, and one with a test in code. -/
def content : List Char := "pub fn a() \x7b\x7d\npub fn b() \x7b\x7d fn test_b() \x7b\x7d // fn test_c()".toList

/-- The test of a function is mentioned in a comment. -/
def mention : List Char := "pub fn foo() \x7b\x7d\n// see fn test_foo()\n".toList

end MentionedTest

open MentionedTest in
theorem untested_and_tested : publicFunctionNames rust content = ["a", "b"] ∧
    ∀ name ∈ publicFunctionNames rust content,
      ∃ line ∈ scan rust (appendTestStubs rust content).1, HasFunction (testName name) line.code := by
  have hmodule : testModule.occurs content = false := by decide +kernel
  have hends : modeFrom rust .code (splitLines content) = .code := by decide +kernel
  have hnames : publicFunctionNames rust content = ["a", "b"] := by decide +kernel
  have hfirst : (testOf "a").occurs content = false := by decide +kernel
  have hsecond : ∃ line ∈ scan rust content, HasFunction (testName "b") line.code := by
    have hline : "pub fn b() \x7b\x7d fn test_b() \x7b\x7d ".toList ∈ codesFrom rust .code (splitLines content) := by decide +kernel
    rw [exists_line_iff]
    exact ⟨_, hline, "pub fn b() \x7b\x7d ".toList, [' '], "() \x7b\x7d ".toList, by decide, List.cons_ne_nil _ _,
      List.forall_mem_singleton.mpr rfl, rfl, rfl⟩
  refine ⟨hnames, fun name hname => (tested_iff hmodule hends hname).mpr ?_⟩
  rw [hnames, List.mem_cons, List.mem_singleton] at hname
  rcases hname with rfl | rfl
  · exact .inl hfirst
  · exact .inr hsecond

open MentionedTest in
/-- A test that is mentioned in a comment is taken for one, and its function gets none. -/
theorem mention_suppresses_stub : testModule.occurs mention = false ∧ modeFrom rust .code (splitLines mention) = .code ∧
    "foo" ∈ publicFunctionNames rust mention ∧
    ¬∃ line ∈ scan rust (appendTestStubs rust mention).1, HasFunction (testName "foo") line.code := by
  have hnone : ∀ line ∈ scan rust (appendTestStubs rust mention).1, ¬(testName "foo").toList <:+: line.code := by decide +kernel
  refine ⟨by decide +kernel, by decide +kernel, by decide +kernel, ?_⟩
  rintro ⟨line, hline, hhas⟩
  exact hnone line hline hhas.isInfix

end QualityGate
