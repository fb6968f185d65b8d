import QualityGate.Proofs.CodeLines
import QualityGate.Proofs.PublicFunctions

/-!
# The lines of test stubs

The stubs that are added to a source are lines of their own. They declare no public function, whatever they stand within
(`undeclaring_stubLines`), and in code they lead back to code and show what they declare (`holds_stubLines`). The blanks that are cut off
in front of them have no part in what a source declares (`ends_append_blanks`).
-/

namespace QualityGate.TestStubs

open Scan Toolchain

/-! ## Lines that declare nothing -/

/-- The public functions that lines declare from a mode on. -/
def declaredFrom (mode : Mode) (texts : List (List Char)) : List String := (codesFrom rust mode texts).filterMap publicName?

/-- The public functions of a source are those that its lines declare, each named once. -/
theorem publicFunctionNames_eq (content : List Char) :
    publicFunctionNames rust content = distinct (declaredFrom .code (splitLines content)) := by
  rw [publicFunctionNames, if_pos rfl, scan, declaredFrom, ← map_code_eq_codesFrom rust .code 1, List.filterMap_map]
  rfl

/-- Lines behind others declare what they do from the mode that those lead to. -/
theorem declaredFrom_append (mode : Mode) (texts more : List (List Char)) :
    declaredFrom mode (texts ++ more) = declaredFrom mode texts ++ declaredFrom (modeFrom rust mode texts) more := by
  rw [declaredFrom, codesFrom_append, List.filterMap_append]
  rfl

/-- A line declares a public function or none, and the lines behind it go on from its mode. -/
theorem declaredFrom_cons (mode : Mode) (text : List Char) (rest : List (List Char)) : declaredFrom mode (text :: rest) =
    (publicName? (steps rust (start mode) text).code.reverse).toList ++
      declaredFrom (nextMode (steps rust (start mode) text).mode) rest := by
  rw [declaredFrom, codesFrom, List.filterMap_cons]
  cases publicName? (steps rust (start mode) text).code.reverse <;> rfl

/-- A line that declares no public function, whatever it begins within. -/
def Undeclaring (text : List Char) : Prop :=
  ∀ mode, AtLineStart mode → publicName? (steps rust (start mode) text).code.reverse = none

/-- Lines of which none declares a public function declare nothing. -/
theorem declaredFrom_of_undeclaring {mode : Mode} (hmode : AtLineStart mode) {texts : List (List Char)}
    (h : ∀ text ∈ texts, Undeclaring text) : declaredFrom mode texts = [] := by
  induction texts generalizing mode with
  | nil => rfl
  | cons text rest ih =>
    obtain ⟨htext, hrest⟩ := List.forall_mem_cons.mp h
    have hnext : AtLineStart (nextMode (steps rust (start mode) text).mode) := atLineStart_modeFrom hmode [text]
    rw [declaredFrom_cons, htext mode hmode, ih hnext hrest]
    rfl

theorem undeclaring_nil : Undeclaring [] := fun _ _ => publicName?_of_head nofun

/-- A character that begins no literal and no comment, and no public declaration. -/
def isInnocent (c : Char) : Bool := !isQuote c && !isBlank c && c ≠ '/' && c ≠ 'r' && c ≠ 'b' && c ≠ 'p'

/-- A line without a slash that begins innocently declares nothing. -/
theorem undeclaring_of_innocent {text : List Char} {c : Char} (hhead : (trimStart text).head? = some c) (hc : isInnocent c = true)
    (hslash : '/' ∉ text) : Undeclaring text := by
  obtain ⟨rest, hrest⟩ := List.head?_eq_some_iff.mp hhead
  have hlead : ∀ d ∈ text.takeWhile isBlank, isBlank d = true := fun d hd => List.mem_takeWhile_imp hd
  have htext : text = text.takeWhile isBlank ++ c :: rest := by rw [← hrest, trimStart, List.takeWhile_append_dropWhile]
  generalize text.takeWhile isBlank = lead at hlead htext
  subst htext
  simp only [isInnocent, Bool.and_eq_true, Bool.not_eq_true', decide_eq_true_eq] at hc
  obtain ⟨⟨⟨⟨⟨hquote, hblank⟩, hc⟩, hr⟩, hb⟩, hp⟩ := hc
  intro mode hmode
  cases mode with
  | code =>
    obtain ⟨hin, hskip, hcode⟩ := ahead_blanks (t := rust) (k := start .code) trivial hlead (c :: rest)
    have hfirst : InCode (ahead rust (start .code) lead (c :: rest)) := ⟨hin, hskip.trans (Nat.zero_sub _)⟩
    have hraw : rawLiteral? (c :: rest) = none := by simp [rawLiteral?, Ne.symm hb, hr]
    obtain ⟨new, hnew, -⟩ := steps_extends (t := rust) (k := step rust (ahead rust (start .code) lead (c :: rest)) c rest)
      (step_regular c rest (ahead_regular (k := start .code) trivial lead _)) rest
    rw [steps_append, steps, hnew, step_plain hfirst hc hquote hraw, Cursor.emit, hcode rfl]
    have htext : (new ++ ([c].reverse ++ if (start .code).mode = .code then lead.reverse ++ (start .code).code else
        (start .code).code)).reverse = lead ++ c :: new.reverse := by simp [start]
    rw [htext]
    refine publicName?_of_head ?_
    rw [trimStart_append hlead hblank]
    exact fun heq => hp (Option.some.inj heq)
  | lineComment => exact absurd rfl hmode.starts.2
  | blockComment depth =>
    have hblock : (start (.blockComment depth)).mode = .blockComment depth := rfl
    rw [steps_block_of_no_slash rfl hblock hslash]
    exact undeclaring_nil _ hmode
  | literal close escapes =>
    have hhead := head_code_of_literal (t := rust) hmode (lead ++ c :: rest)
    generalize (steps rust _ (lead ++ c :: rest)).code.reverse = code at hhead
    refine publicName?_of_head ?_
    cases code with
    | nil => decide
    | cons d code =>
      have hd : isBlank d = false := not_isBlank_of_isDelimiter (isDelimiter_of_isQuote hhead)
      rw [← List.nil_append (d :: code), trimStart_append (List.forall_mem_nil _) hd]
      rintro heq
      obtain rfl : d = 'p' := Option.some.inj heq
      cases hhead

/-! ## Blanks at the end -/

theorem nextMode_nextMode (mode : Mode) : nextMode (nextMode mode) = nextMode mode := by cases mode <;> rfl

/-- A blank at the end of a line changes no mode and adds at most itself to the code. -/
theorem steps_append_blank {k : Cursor} (hk : Regular k.mode) {b : Char} (hb : isBlank b = true) (text : List Char) :
    (steps rust k (text ++ [b])).mode = (steps rust k text).mode ∧ ∃ blanks,
      (steps rust k (text ++ [b])).code.reverse = (steps rust k text).code.reverse ++ blanks ∧ ∀ c ∈ blanks, isBlank c = true := by
  have hinert : Inert [b] := by
    refine ⟨⟨b, [], rfl, hb⟩, List.forall_mem_singleton.mpr ?_⟩
    by_contra hdelimiter
    rw [not_isBlank_of_isDelimiter (Bool.not_eq_false _ ▸ hdelimiter)] at hb
    cases hb
  have hlast : steps rust k (text ++ [b]) = step rust (steps rust k text) b [] := by
    rw [steps_append, hinert.ahead_eq_steps hk]
    rfl
  have hregular := steps_regular (t := rust) hk text
  rw [hlast]
  generalize steps rust k text = k' at hregular
  obtain ⟨next, hmoves, hstep⟩ := step_cases rust k' b []
  obtain ⟨hmode, -, hcode⟩ := hmoves.of_blank hregular hb
  by_cases hskip : 0 < k'.skip
  · rw [step, if_pos hskip]
    exact ⟨rfl, [], (List.append_nil _).symm, List.forall_mem_nil _⟩
  · have hnew := hcode (Nat.eq_zero_of_not_pos hskip)
    rw [hstep]
    refine ⟨hmode, ?_⟩
    by_cases hin : k'.mode = .code
    · exact ⟨[b], by rw [hnew, if_pos hin, List.reverse_cons], List.forall_mem_singleton.mpr hb⟩
    · exact ⟨[], by rw [hnew, if_neg hin, List.append_nil], List.forall_mem_nil _⟩

/-- Blanks at the end of a source have no part in where its scan ends and in what it declares. -/
theorem ends_append_blanks (text : List Char) {blanks : List Char} (h : ∀ c ∈ blanks, isBlank c = true) :
    modeFrom rust .code (splitLines (text ++ blanks)) = modeFrom rust .code (splitLines text) ∧
      declaredFrom .code (splitLines (text ++ blanks)) = declaredFrom .code (splitLines text) := by
  induction blanks generalizing text with
  | nil =>
    rw [List.append_nil]
    exact ⟨rfl, rfl⟩
  | cons b blanks ih =>
    obtain ⟨hb, hblanks⟩ := List.forall_mem_cons.mp h
    obtain ⟨hmode, hnames⟩ := ih (text ++ [b]) hblanks
    rw [List.append_assoc, List.singleton_append] at hmode hnames
    rw [hmode, hnames]
    obtain ⟨above, last, hsplit, -, -, -⟩ := exists_lastLine text
    have hstart : AtLineStart (modeFrom rust .code above) := atLineStart_modeFrom atLineStart_code above
    by_cases hline : b = '\n'
    · subst hline
      have hempty : splitLines ([] : List Char) = [[]] := rfl
      rw [splitLines_append, hempty]
      refine ⟨?_, ?_⟩
      · rw [modeFrom_append, hsplit, modeFrom_append]
        exact nextMode_nextMode _
      · rw [declaredFrom_append, declaredFrom_of_undeclaring (atLineStart_modeFrom atLineStart_code _)
          (List.forall_mem_singleton.mpr undeclaring_nil), List.append_nil]
    · have hb' : splitLines [b] = [[b]] := splitLines_of_notMem (by simpa using Ne.symm hline)
      obtain ⟨hsame, added, hcode, hadded⟩ := steps_append_blank (k := start (modeFrom rust .code above)) hstart.starts.1 hb last
      rw [splitLines_append_of_eq hsplit hb', hsplit, modeFrom_append, modeFrom_append, modeFrom, modeFrom, declaredFrom_append,
        declaredFrom_append, declaredFrom_cons, declaredFrom_cons, hsame, hcode, publicName?_append_blanks _ hadded]
      exact ⟨rfl, rfl⟩

/-! ## Lines that begin and end in code -/

/-- Lines that lead from code to code, and what they hold as code. -/
structure Holds (texts codes : List (List Char)) : Prop where
  codes : codesFrom rust .code texts = codes
  mode : modeFrom rust .code texts = .code

/-- Lines behind others hold their code behind that of those. -/
theorem Holds.append {texts codes texts' codes' : List (List Char)} (h : Holds texts codes) (h' : Holds texts' codes') :
    Holds (texts ++ texts') (codes ++ codes') where
  codes := by rw [codesFrom_append, h.codes, h.mode, h'.codes]
  mode := by rw [modeFrom_append, h.mode, h'.mode]

/-- A line that leads from code to code holds its code. -/
theorem holds_singleton {text : List Char} (h : InCode (steps rust (start .code) text)) :
    Holds [text] [(steps rust (start .code) text).code.reverse] where
  codes := rfl
  mode := by
    rw [modeFrom, modeFrom, h.1]
    rfl

/-- Lines without quotes and comments hold themselves. -/
theorem holds_unquoted {texts : List (List Char)} (h : ∀ text ∈ texts, Unquoted text) : Holds texts texts := by
  induction texts with
  | nil => exact ⟨rfl, rfl⟩
  | cons text rest ih =>
    obtain ⟨htext, hrest⟩ := List.forall_mem_cons.mp h
    obtain ⟨hin, hcode⟩ := steps_unquoted (k := start .code) ⟨rfl, rfl⟩ htext
    have hfirst := holds_singleton hin
    have hsame : text.reverse ++ (start .code).code = text.reverse := List.append_nil _
    rw [hcode, hsame, List.reverse_reverse] at hfirst
    exact hfirst.append (ih hrest)

/-! ## Several stubs -/

/-- The lines for several names, with an empty line between those for one and those for the next. -/
def spaced (lines : String → List (List Char)) : List String → List (List Char)
  | [] => []
  | [name] => lines name
  | name :: next :: rest => lines name ++ [] :: spaced lines (next :: rest)

section Spaced

variable {lines codes : String → List (List Char)} {names : List String}

/-- Each line is empty, or one of those for a name. -/
theorem mem_spaced {line : List Char} (h : line ∈ spaced lines names) : line = [] ∨ ∃ name ∈ names, line ∈ lines name := by
  induction names using spaced.induct with
  | case1 => cases h
  | case2 name => exact .inr ⟨name, List.mem_singleton_self name, h⟩
  | case3 name next rest ih =>
    rcases List.mem_append.mp h with h | h
    · exact .inr ⟨name, List.mem_cons_self, h⟩
    rcases List.mem_cons.mp h with h | h
    · exact .inl h
    · exact (ih h).imp_right fun ⟨other, hother, hline⟩ => ⟨other, List.mem_cons_of_mem _ hother, hline⟩

/-- The lines for each name are there. -/
theorem mem_spaced_of_mem {line : List Char} {name : String} (hname : name ∈ names) (hline : line ∈ lines name) :
    line ∈ spaced lines names := by
  induction names using spaced.induct with
  | case1 => cases hname
  | case2 other =>
    obtain rfl := List.mem_singleton.mp hname
    exact hline
  | case3 other next rest ih =>
    rw [spaced, List.mem_append, List.mem_cons]
    rcases List.mem_cons.mp hname with rfl | hname
    · exact .inl hline
    · exact .inr (.inr (ih hname))

/-- The lines for several names hold the code for each, with the same empty lines. -/
theorem holds_spaced (h : ∀ name ∈ names, Holds (lines name) (codes name)) : Holds (spaced lines names) (spaced codes names) := by
  induction names using spaced.induct with
  | case1 => exact ⟨rfl, rfl⟩
  | case2 name => exact h name (List.mem_singleton_self name)
  | case3 name next rest ih =>
    obtain ⟨hname, hrest⟩ := List.forall_mem_cons.mp h
    have hempty : Holds [[]] [[]] := ⟨rfl, rfl⟩
    exact hname.append (hempty.append (ih hrest))

/-- There are lines for several names if there is a name. -/
theorem spaced_ne_nil (h : ∀ name ∈ names, lines name ≠ []) (hne : names ≠ []) : spaced lines names ≠ [] := by
  cases names with
  | nil => exact absurd rfl hne
  | cons name rest =>
    obtain ⟨line, hline⟩ := List.exists_mem_of_ne_nil _ (h name List.mem_cons_self)
    exact List.ne_nil_of_mem (mem_spaced_of_mem List.mem_cons_self hline)

/-- The lines for several names are the texts for each, with an empty line between them. -/
theorem joinLines_spaced (h : ∀ name ∈ names, lines name ≠ []) :
    joinLines (spaced lines names) = List.intercalate ['\n', '\n'] (names.map fun name => joinLines (lines name)) := by
  induction names using spaced.induct with
  | case1 => rfl
  | case2 name => exact List.intercalate_singleton.symm
  | case3 name next rest ih =>
    obtain ⟨hname, hrest⟩ := List.forall_mem_cons.mp h
    rw [spaced, joinLines_append hname (List.cons_ne_nil _ _), joinLines_cons [] (spaced_ne_nil hrest (List.cons_ne_nil _ _)),
      ih hrest, List.map_cons (l := next :: rest), List.intercalate_cons_of_ne_nil (mt List.map_eq_nil_iff.mp (List.cons_ne_nil _ _)),
      List.append_assoc]
    rfl

end Spaced

/-! ## The lines of a stub -/

/-- The line that declares the test of a function. -/
def functionLine (name : String) : List Char := "    fn ".toList ++ ((testName name).toList ++ "() \x7b\x7d".toList)

/-- The lines of the stub for a function. -/
def stubLines (name : String) : List (List Char) :=
  ["    #[test]".toList, "    #[ignore = ".toList ++ '"' :: ("exercise ".toList ++ name.toList ++ '"' :: [']']), functionLine name]

/-- A stub is the text of its lines. -/
theorem stub_eq (name : String) : stub name = joinLines (stubLines name) := by
  unfold stub stubLines functionLine
  simp [joinLines, List.intercalate, toList_testName, toString]

/-- The lines of several stubs are the stubs, with an empty line between them. -/
theorem joinLines_spaced_stubLines (names : List String) :
    joinLines (spaced stubLines names) = List.intercalate ['\n', '\n'] (names.map stub) := by
  have hne : ∀ name ∈ names, stubLines name ≠ [] := fun _ _ => List.cons_ne_nil _ _
  rw [joinLines_spaced hne]
  exact congrArg _ (List.map_congr_left fun name _ => (stub_eq name).symm)

/-- The code of these lines. -/
def stubCodes (name : String) : List (List Char) := ["    #[test]".toList, "    #[ignore = \"\"]".toList, functionLine name]

section Stub

variable {name : String}

/-- No sign with a part in scanning stands in a name. -/
theorem IsName.ne {c d : Char} (h : IsName name) (hc : c ∈ name.toList) (hd : isWordChar d = false) : c ≠ d := by
  rintro rfl
  rw [h c hc] at hd
  cases hd

/-- The characters of words are neither quotes nor comments. -/
theorem unquoted_of_isWordChar {text : List Char} (h : ∀ c ∈ text, isWordChar c = true) : Unquoted text := by
  intro c hc
  have hword := h c hc
  refine ⟨?_, ?_⟩
  · rintro rfl
    cases hword
  · by_contra hquote
    rw [Bool.not_eq_false, isQuote, Bool.or_eq_true, Bool.or_eq_true, decide_eq_true_eq, decide_eq_true_eq, decide_eq_true_eq] at hquote
    rcases hquote with (rfl | rfl) | rfl <;> cases hword

/-- The lines of a stub hold the code that is given for them. -/
theorem holds_stubLines (h : IsName name) : Holds (stubLines name) (stubCodes name) := by
  have htest : Unquoted "    #[test]".toList := by decide
  have hfunction : Unquoted (functionLine name) :=
    Unquoted.append (by decide) ((unquoted_of_isWordChar (isName_testName h)).append (by decide))
  have hfixed : ∀ c ∈ "exercise ".toList, isContent ['"'] c = true := List.all_eq_true.mp rfl
  have hinside : ∀ c ∈ "exercise ".toList ++ name.toList, isContent ['"'] c = true := by
    intro c hc
    rcases List.mem_append.mp hc with hc | hc
    · exact hfixed c hc
    · simp [isContent, h.ne hc (d := '\\') rfl, h.ne hc (d := '"') rfl]
  have hbefore : Unquoted "    #[ignore = ".toList := by decide
  have hafter : Unquoted [']'] := by decide
  have hlast : ∀ c ∈ "    #[ignore = ".toList.getLast?, isTokenChar c = false := by
    intro c hc
    obtain rfl : ' ' = c := Option.some.inj hc
    rfl
  obtain ⟨hin, hcode⟩ := steps_literal (k := start .code) ⟨rfl, rfl⟩ hbefore hlast hinside hafter
  have hignore := holds_singleton hin
  rw [hcode] at hignore
  exact (holds_unquoted (List.forall_mem_singleton.mpr htest)).append
    (hignore.append (holds_unquoted (List.forall_mem_singleton.mpr hfunction)))

/-- A stub declares no public function. -/
theorem undeclaring_stubLines (h : IsName name) : ∀ line ∈ stubLines name, Undeclaring line := by
  have hname : '/' ∉ name.toList := fun hmem => h.ne hmem rfl rfl
  refine List.forall_mem_cons.mpr ⟨?_, List.forall_mem_cons.mpr ⟨?_, List.forall_mem_singleton.mpr ?_⟩⟩
  · exact undeclaring_of_innocent (c := '#') rfl (by decide) (by decide)
  · exact undeclaring_of_innocent (c := '#') rfl (by decide) (by simp [hname])
  · unfold functionLine
    exact undeclaring_of_innocent (c := 'f') rfl (by decide) (by simp [toList_testName, hname])

/-- The lines of a stub are lines. -/
theorem lineFeed_notMem_stubLines (h : IsName name) : ∀ line ∈ stubLines name, '\n' ∉ line := by
  have hname : '\n' ∉ name.toList := fun hmem => h.ne hmem rfl rfl
  refine List.forall_mem_cons.mpr ⟨by decide, List.forall_mem_cons.mpr ⟨?_, List.forall_mem_singleton.mpr ?_⟩⟩
  · simp [hname]
  · unfold functionLine
    simp [toList_testName, hname]

end Stub

/-! ## The lines of a module -/

/-- The lines that open a new test module. -/
def moduleHead : List (List Char) := ["#[cfg(test)]".toList, "mod tests \x7b".toList, "    use super::*;".toList, []]

/-- The lines that close it. -/
def moduleTail : List (List Char) := [['\x7d'], []]

/-- The lines of a new test module with stubs for some functions. -/
def moduleLines (names : List String) : List (List Char) := moduleHead ++ (spaced stubLines names ++ moduleTail)

/-- The code of these lines. -/
def moduleCodes (names : List String) : List (List Char) := moduleHead ++ (spaced stubCodes names ++ moduleTail)

section Module

variable {names : List String}

/-- The lines of a test module hold the code that is given for them. -/
theorem holds_moduleLines (h : ∀ name ∈ names, IsName name) : Holds (moduleLines names) (moduleCodes names) :=
  (holds_unquoted (by decide)).append
    ((holds_spaced fun name hname => holds_stubLines (h name hname)).append (holds_unquoted (by decide)))

/-- The lines of several stubs are lines. -/
theorem lineFeed_notMem_spaced (h : ∀ name ∈ names, IsName name) :
    ∀ line ∈ spaced stubLines names, '\n' ∉ line := by
  intro line hline
  rcases mem_spaced hline with rfl | ⟨name, hname, hline⟩
  · exact List.not_mem_nil
  · exact lineFeed_notMem_stubLines (h name hname) line hline

/-- The lines of a test module are lines. -/
theorem lineFeed_notMem_moduleLines (h : ∀ name ∈ names, IsName name) : ∀ line ∈ moduleLines names, '\n' ∉ line := by
  have hhead : ∀ line ∈ moduleHead, '\n' ∉ line := by decide
  have htail : ∀ line ∈ moduleTail, '\n' ∉ line := by decide
  exact List.forall_mem_append.mpr ⟨hhead, List.forall_mem_append.mpr ⟨lineFeed_notMem_spaced h, htail⟩⟩

theorem moduleLines_ne_nil : moduleLines names ≠ [] := List.cons_ne_nil _ _

/-- The lines of a test module are the text that is added for it. -/
theorem joinLines_moduleLines (h : names ≠ []) : joinLines (moduleLines names) =
    "#[cfg(test)]\nmod tests \x7b\n    use super::*;\n\n".toList ++ (joinLines (spaced stubLines names) ++ "\n\x7d\n".toList) := by
  have hstubs : spaced stubLines names ≠ [] := spaced_ne_nil (fun _ _ => List.cons_ne_nil _ _) h
  have hhead : joinLines moduleHead ++ ['\n'] = "#[cfg(test)]\nmod tests \x7b\n    use super::*;\n\n".toList := by decide
  have hne : moduleHead ≠ [] := List.cons_ne_nil _ _
  have hne' : moduleTail ≠ [] := List.cons_ne_nil _ _
  rw [moduleLines, joinLines_append hne (List.append_ne_nil_of_left_ne_nil hstubs _), joinLines_append hstubs hne', ← hhead,
    List.append_assoc]
  rfl

/-- Several stubs declare no public function. -/
theorem undeclaring_spaced (h : ∀ name ∈ names, IsName name) : ∀ line ∈ spaced stubLines names, Undeclaring line := by
  intro line hline
  rcases mem_spaced hline with rfl | ⟨name, hname, hline⟩
  · exact undeclaring_nil
  · exact undeclaring_stubLines (h name hname) line hline

/-- A test module declares no public function. -/
theorem undeclaring_moduleLines (h : ∀ name ∈ names, IsName name) : ∀ line ∈ moduleLines names, Undeclaring line := by
  have hhead : ∀ line ∈ moduleHead, Undeclaring line := by
    refine List.forall_mem_cons.mpr ⟨?_, List.forall_mem_cons.mpr ⟨?_, List.forall_mem_cons.mpr ⟨?_, ?_⟩⟩⟩
    · exact undeclaring_of_innocent (c := '#') rfl (by decide) (by decide)
    · exact undeclaring_of_innocent (c := 'm') rfl (by decide) (by decide)
    · exact undeclaring_of_innocent (c := 'u') rfl (by decide) (by decide)
    · exact List.forall_mem_singleton.mpr undeclaring_nil
  have htail : ∀ line ∈ moduleTail, Undeclaring line :=
    List.forall_mem_cons.mpr ⟨undeclaring_of_innocent (c := '\x7d') rfl (by decide) (by decide),
      List.forall_mem_singleton.mpr undeclaring_nil⟩
  exact List.forall_mem_append.mpr ⟨hhead, List.forall_mem_append.mpr ⟨undeclaring_spaced h, htail⟩⟩

end Module

end QualityGate.TestStubs
