import QualityGate.Source.TestStubs
import QualityGate.Proofs.Blocks
import QualityGate.Proofs.IdleLines
import QualityGate.Proofs.IndentedBodies
import QualityGate.Proofs.UnreadText

/-!
# Public functions and their tests

The public function of a line is read from the start of its code, and nothing behind its name matters: trailing blanks do not
(`publicName?_append_blanks`), and a closing brace and what follows it do not, unless the brace stands within the parentheses of a
`pub(` (`publicName?_before_brace`). The test of a function is found in a text where a fixed form stands (`occurs_testOf_iff`).
-/

namespace QualityGate.TestStubs

open Pattern

/-! ## The function that a line declares -/

/-- A visible character is no blank. -/
theorem visible_ne {c d : Char} (hd : isBlank d = false) (hc : isBlank c = true) : d ≠ c := by
  rintro rfl
  rw [hd] at hc
  cases hc

/-- What a public declaration begins with. -/
def declarationStart : List Pattern := [.textStart, .blanks, .lit "pub"]

/-- What stands in front of the name. -/
def declarationEnd : List Pattern :=
  [.blanks1, .opt (.seq (.lit "const") .blanks1), .opt (.seq (.lit "async") .blanks1), .opt (.seq (.lit "unsafe") .blanks1),
    .lit "fn", .blanks1]

/-- The name. -/
def declaredName : Pattern := Functions.nameGroup Functions.identifier

/-- A public declaration has a beginning, perhaps a visibility in parentheses, and the rest up to the name. -/
theorem publicFunction_eq :
    publicFunction = .all (declarationStart ++ ([.opt Functions.parenthesised] ++ (declarationEnd ++ [declaredName]))) := rfl

/-- The match of a public function that ends at a spot. -/
def foundIn (code : List Char) : Next Found := fun s groups => some ⟨⟨[], code⟩, s, groups⟩

/-- A line declares what its groups tell. -/
theorem publicName?_eq (code : List Char) : publicName? code =
    (((run publicFunction ⟨[], code⟩ [] (foundIn code)).map Found.groups).bind (List.lookup 1)).map String.ofList := by
  have hfind : publicFunction.find code = run publicFunction ⟨[], code⟩ [] (foundIn code) := find_textStart _ code
  rw [publicName?, hfind]
  cases run publicFunction ⟨[], code⟩ [] (foundIn code) <;> rfl

/-- Two lines declare the same name when the same groups are taken from both. -/
theorem publicName?_congr {code code' : List Char} (h : (run publicFunction ⟨[], code⟩ [] (foundIn code)).map Found.groups =
    (run publicFunction ⟨[], code'⟩ [] (foundIn code')).map Found.groups) : publicName? code = publicName? code' := by
  rw [publicName?_eq, publicName?_eq, h]

/-! ### What is declared -/

/-- The characters of an identifier. -/
def IsName (name : String) : Prop := ∀ c ∈ name.toList, isWordChar c = true

/-- A letter or an underscore is a character of words. -/
theorem isWordChar_of_isAlpha {c : Char} (h : (c.isAlpha || c = '_') = true) : isWordChar c = true := by
  unfold isWordChar Char.isAlphanum
  rw [Bool.or_eq_true] at h ⊢
  rcases h with hletter | hline
  · rw [hletter, Bool.true_or]
    exact .inl rfl
  · exact .inr hline

/-- A name is more than blanks. -/
theorem visible_declaredName : Visible declaredName := by
  refine (visible_one fun c hc => ?_).first.group
  rw [Bool.or_eq_true, decide_eq_true_eq] at hc
  rcases hc with hletter | rfl
  · exact Functions.not_isBlank_of_isAlpha hletter
  · decide

/-- A public function is a match of the pattern, with its name for a group. -/
theorem exists_matches_of_publicName? {code : List Char} {name : String} (h : publicName? code = some name) :
    ∃ s groups, Matches publicFunction ⟨[], code⟩ [] s groups ∧ (groups.lookup 1).map String.ofList = some name := by
  rw [publicName?_eq] at h
  cases hrun : run publicFunction ⟨[], code⟩ [] (foundIn code) with
  | none =>
    rw [hrun] at h
    cases h
  | some m =>
    obtain ⟨s, groups, hway, hm⟩ := takes_run publicFunction ⟨[], code⟩ [] _ m hrun
    rw [hrun] at h
    refine ⟨s, groups, hway, ?_⟩
    rw [← h, ← Option.some.inj hm]
    rfl

/-- A line that declares a public function begins with `pub`, behind blanks. -/
theorem exists_pub_of_publicName? {code : List Char} {name : String} (h : publicName? code = some name) :
    ∃ lead rest, code = lead ++ ("pub".toList ++ rest) ∧ ∀ c ∈ lead, isBlank c = true := by
  obtain ⟨s, groups, hway, -⟩ := exists_matches_of_publicName? h
  cases hway with
  | seq hstart hway =>
  cases hstart
  cases hway with
  | seq hblanks hway =>
  cases hway with
  | seq hpub _ =>
  obtain ⟨lead, hafter, -, hlead⟩ := hblanks.of_many
  obtain ⟨hafter', -, -⟩ := hpub.of_lit
  exact ⟨lead, _, hafter.trans (congrArg _ hafter'), hlead⟩

/-- Leading blanks are trimmed up to the first other character. -/
theorem trimStart_append {lead : List Char} (hlead : ∀ c ∈ lead, isBlank c = true) {c : Char} (hc : isBlank c = false)
    (rest : List Char) : trimStart (lead ++ c :: rest) = c :: rest := by
  unfold trimStart
  rw [List.dropWhile_append_of_pos hlead, List.dropWhile_cons_of_neg (by rw [hc]; exact Bool.false_ne_true)]

theorem trimStart_lead {lead : List Char} (hlead : ∀ c ∈ lead, isBlank c = true) (rest : List Char) :
    trimStart (lead ++ ("pub".toList ++ rest)) = "pub".toList ++ rest := trimStart_append hlead (by decide) _

/-- A line of code that begins with something else declares nothing. -/
theorem publicName?_of_head {code : List Char} (h : (trimStart code).head? ≠ some 'p') : publicName? code = none := by
  rw [Option.eq_none_iff_forall_ne_some]
  intro name hname
  obtain ⟨lead, rest, rfl, hlead⟩ := exists_pub_of_publicName? hname
  rw [trimStart_lead hlead] at h
  exact h rfl

/-- The name of a public function is a name. -/
theorem isName_of_publicName? {code : List Char} {name : String} (h : publicName? code = some name) : IsName name := by
  obtain ⟨s, groups, hway, hname⟩ := exists_matches_of_publicName? h
  rw [publicFunction_eq, ← List.append_assoc, ← List.append_assoc] at hway
  obtain ⟨s₁, groups₁, hfront, hway⟩ := hway.of_all_append
  obtain rfl := hfront.groups_eq rfl
  have hgroup : ∀ {s s' : Spot} {groups : Groups}, Matches declaredName s [] s' groups →
      ∃ c rest, groups = [(1, c :: rest)] ∧ (c.isAlpha || c = '_') = true ∧ ∀ d ∈ rest, isWordChar d = true := by
    intro s s' groups hway
    cases hway with
    | group hway =>
    cases hway with
    | seq hfirst hothers =>
    cases hfirst with
    | @one _ _ _ c rest _ hletter =>
    obtain rfl := hothers.groups_eq rfl
    obtain ⟨taken, -, hbefore, htaken⟩ := hothers.of_many
    have htext : s.textUpTo s' = c :: taken := textUpTo_eq (by rw [hbefore, List.reverse_cons, List.append_assoc]; rfl)
    exact ⟨c, taken, by rw [htext], hletter, htaken⟩
  obtain ⟨c, rest, rfl, hletter, hrest⟩ := hgroup hway
  obtain rfl : String.ofList (c :: rest) = name := Option.some.inj hname
  intro d hd
  rw [String.toList_ofList] at hd
  rcases List.mem_cons.mp hd with rfl | hd
  · exact isWordChar_of_isAlpha hletter
  · exact hrest d hd

/-! ### What does not matter -/

/-- The name is read alike in front of texts that it cannot go on with. -/
theorem agree_declaredName {tail : List Char} (h : ∀ c ∈ tail.head?, isWordChar c = false) (code code' : List Char) :
    Agree Found.groups tail [] (fun s groups => run declaredName s groups (foundIn code))
      fun s groups => run declaredName s groups (foundIn code') := by
  have hreads : ∀ c ∈ tail.head?, declaredName.reads c = false := by
    intro c hc
    have hword := h c hc
    have hletter : (c.isAlpha || c = '_') = false := by
      rw [Bool.eq_false_iff]
      intro hletter
      rw [isWordChar_of_isAlpha hletter] at hword
      cases hword
    show ((c.isAlpha || c = '_') || isWordChar c) = false
    rw [hletter, hword, Bool.false_or]
  exact run_agree (p := declaredName) rfl tail [] _ _ (.inl hreads) (.inl nofun) fun _ _ _ => rfl

/-- Trailing blanks do not matter. -/
theorem publicName?_append_blanks (code : List Char) {blanks : List Char} (h : ∀ c ∈ blanks, isBlank c = true) :
    publicName? (code ++ blanks) = publicName? code := by
  have hhead : ∀ c ∈ blanks.head?, isWordChar c = false :=
    fun c hc => Functions.not_isWordChar_of_isBlank (h c (List.mem_of_mem_head? hc))
  -- what is left of the pattern among the blanks is at least the name, which is not there
  have hfails : FailsBehind blanks fun s groups => run declaredName s groups (foundIn (code ++ blanks)) := by
    intro s groups hsuffix _
    rw [Option.eq_none_iff_forall_ne_some]
    intro m hm
    obtain ⟨s', groups', hway, -⟩ := takes_run declaredName s groups _ m hm
    obtain ⟨c, hc, hvisible⟩ := visible_declaredName _ _ _ _ hway
    rw [h c (hsuffix.subset hc)] at hvisible
    cases hvisible
  refine publicName?_congr ?_
  rw [publicFunction_eq, ← List.append_assoc, ← List.append_assoc, run_all_append, run_all_append]
  have hagree := run_agree (p := all (declarationStart ++ [.opt Functions.parenthesised] ++ declarationEnd)) rfl blanks [] _ _
    (.inr hfails) (.inl nofun) (agree_declaredName hhead (code ++ blanks) code) [] code []
  rw [List.append_nil] at hagree
  exact hagree


/-! ### Within the parentheses of a visibility -/

/-- A line of code that has opened the parentheses of a `pub(` and not closed them. -/
def OpensScope (code : List Char) : Prop := "pub(".toList <+: trimStart code ∧ ')' ∉ trimStart code

instance (code : List Char) : Decidable (OpensScope code) := inferInstanceAs (Decidable (_ ∧ _))

/-- What follows the visibility of a declaration. -/
def behindScope (code : List Char) : Next Found := fun s groups => run (.all (declarationEnd ++ [declaredName])) s groups (foundIn code)

section Scope

variable {α : Type} {lead rest before inside : List Char} {groups : Groups}

/-- The start of a declaration is followed to the end of `pub`. -/
theorem run_declarationStart (hlead : ∀ c ∈ lead, isBlank c = true) (rest : List Char) (next : Next α) :
    run (.all declarationStart) ⟨[], lead ++ ("pub".toList ++ rest)⟩ groups next =
      next ⟨"pub".toList.reverse ++ lead.reverse, rest⟩ groups := by
  have hmark : ("pub".toList ++ rest).head?.any isBlank = false := rfl
  have hnone : ∀ (before : List Char) (c : Char) (rest : List Char), isBlank c = true →
      run (.lit "pub") ⟨before, c :: rest⟩ groups next = none :=
    fun before c rest hc => run_lit_cons_eq_none rfl (visible_ne (by decide) hc) before rest groups next
  have hblanks : run .blanks ⟨[], lead ++ ("pub".toList ++ rest)⟩ groups (fun s groups => run (.lit "pub") s groups next) =
      run (.lit "pub") ⟨lead.reverse ++ [], "pub".toList ++ rest⟩ groups next := run_many_append hlead hmark hnone
  rw [run_lit_append, List.append_nil] at hblanks
  exact hblanks

/-- A group in parentheses is followed to its end. -/
theorem run_parenthesised (hinside : ')' ∉ inside) (rest : List Char) (next : Next α) :
    run Functions.parenthesised ⟨before, '(' :: (inside ++ ')' :: rest)⟩ groups next =
      next ⟨')' :: (inside.reverse ++ '(' :: before), rest⟩ groups := by
  have htest : ∀ c ∈ inside, decide (c ≠ ')') = true := fun c hc => decide_eq_true fun heq => hinside (heq ▸ hc)
  have hmark : (')' :: rest).head?.any (fun c => decide (c ≠ ')')) = false := rfl
  have hnone : ∀ (before : List Char) (c : Char) (rest : List Char), decide (c ≠ ')') = true →
      run (.lit ")") ⟨before, c :: rest⟩ groups next = none :=
    fun before c rest hc => run_lit_cons_eq_none rfl (of_decide_eq_true hc).symm before rest groups next
  have hopen := run_lit_append "(" before (inside ++ ')' :: rest) groups
    fun s groups => run (.many (.butNot ')')) s groups fun s groups => run (.lit ")") s groups next
  have hmany : run (.many (.butNot ')')) ⟨'(' :: before, inside ++ ')' :: rest⟩ groups
      (fun s groups => run (.lit ")") s groups next) =
        run (.lit ")") ⟨inside.reverse ++ '(' :: before, ')' :: rest⟩ groups next := run_many_append htest hmark hnone
  have hclose := run_lit_append ")" (inside.reverse ++ '(' :: before) rest groups next
  exact hopen.trans (hmany.trans hclose)

/-- A group in parentheses has both of them. -/
theorem run_parenthesised_eq_none {s : Spot} (h : s.after.head? = some '(' → ')' ∉ s.after) (next : Next α) :
    run Functions.parenthesised s groups next = none := by
  rw [Option.eq_none_iff_forall_ne_some]
  intro r hr
  obtain ⟨s', groups', hway, -⟩ := takes_run Functions.parenthesised s groups _ r hr
  cases hway with
  | seq hopen hway =>
  cases hway with
  | seq hmany hclose =>
  obtain ⟨hafter, -, -⟩ := hopen.of_lit
  obtain ⟨hafter', -, -⟩ := hclose.of_lit
  refine h (by rw [hafter]; rfl) (hopen.suffix.subset (hmany.suffix.subset ?_))
  rw [hafter']
  exact List.mem_cons_self

/-- Behind a visibility no parenthesis opens. -/
theorem behindScope_parenthesis (code before rest : List Char) (groups : Groups) :
    behindScope code ⟨before, '(' :: rest⟩ groups = none := rfl

/-- Behind the visibility, a closing brace ends what is read. -/
theorem agree_behindScope (code code' more : List Char) :
    Agree Found.groups ('\x7d' :: more) [] (behindScope code) (behindScope code') := by
  have hreads : ∀ c ∈ ('\x7d' :: more).head?, (all (declarationEnd ++ [declaredName])).reads c = false := by
    intro c hc
    obtain rfl : '\x7d' = c := Option.some.inj hc
    decide
  exact run_agree (p := all (declarationEnd ++ [declaredName])) rfl ('\x7d' :: more) [] _ _ (.inl hreads) (.inl nofun)
    fun _ _ _ => rfl

/-- The visibility is read alike in front of a closing brace and at the end, where its parentheses are closed. -/
theorem agree_scope (h : rest.head? = some '(' → ')' ∈ rest) (code code' more : List Char) :
    (run (.opt Functions.parenthesised) ⟨before, rest ++ '\x7d' :: more⟩ groups (behindScope code)).map Found.groups =
      (run (.opt Functions.parenthesised) ⟨before, rest⟩ groups (behindScope code')).map Found.groups := by
  have hagree := agree_behindScope code code' more
  by_cases hhead : rest.head? = some '('
  · obtain ⟨rest, rfl⟩ := List.head?_eq_some_iff.mp hhead
    obtain ⟨inside, rest', rfl, hinside⟩ := List.eq_append_cons_of_mem ((List.mem_cons.mp (h hhead)).resolve_left (by decide))
    have hfollow : ∀ (code tail : List Char),
        run (.opt Functions.parenthesised) ⟨before, '(' :: (inside ++ ')' :: rest') ++ tail⟩ groups (behindScope code) =
          behindScope code ⟨')' :: (inside.reverse ++ '(' :: before), rest' ++ tail⟩ groups := by
      intro code tail
      have hless : (rest' ++ tail).length < ('(' :: (inside ++ ')' :: (rest' ++ tail))).length := by
        simp only [List.length_cons, List.length_append]
        omega
      rw [run_opt (by simp), List.cons_append, List.append_assoc, List.cons_append, run_parenthesised hinside, if_pos hless,
        behindScope_parenthesis, Option.or_none]
    have hend := hfollow code' []
    rw [List.append_nil] at hend
    rw [hfollow, hend]
    have hrest := hagree (')' :: (inside.reverse ++ '(' :: before)) rest' groups
    exact hrest
  · have hnone : ∀ (tail : List Char), (rest ++ tail).head? ≠ some '(' → ∀ next : Next Found,
        run Functions.parenthesised ⟨before, rest ++ tail⟩ groups next = none :=
      fun tail htail next => run_parenthesised_eq_none (fun hopen => absurd hopen htail) next
    have hbrace : (rest ++ '\x7d' :: more).head? ≠ some '(' := by
      cases rest with
      | nil => exact fun hbrace => absurd (Option.some.inj hbrace) (by decide)
      | cons c rest => exact hhead
    have hend : (rest ++ []).head? ≠ some '(' := by rwa [List.append_nil]
    have hleft := run_opt_of_none (hnone _ hbrace) (behindScope code)
    have hright := run_opt_of_none (hnone _ hend) (behindScope code')
    rw [List.append_nil] at hright
    rw [hleft, hright]
    have hrest := hagree before rest groups
    rw [List.append_nil] at hrest
    exact hrest

end Scope

/-- A closing brace and what follows it do not matter, unless the brace stands within the parentheses of a visibility. -/
theorem publicName?_before_brace {code : List Char} (h : ¬OpensScope code) (more : List Char) :
    publicName? (code ++ '\x7d' :: more) = publicName? code := by
  by_cases hpub : ∃ lead rest, code = lead ++ ("pub".toList ++ rest) ∧ ∀ c ∈ lead, isBlank c = true
  · obtain ⟨lead, rest, rfl, hlead⟩ := hpub
    have hscope : rest.head? = some '(' → ')' ∈ rest := by
      intro hopen
      obtain ⟨inside, rfl⟩ := List.head?_eq_some_iff.mp hopen
      by_contra hnot
      refine h ⟨?_, ?_⟩
      · rw [trimStart_lead hlead]
        exact ⟨inside, rfl⟩
      · rw [trimStart_lead hlead, List.mem_append, not_or]
        exact ⟨by decide, hnot⟩
    refine publicName?_congr ?_
    rw [publicFunction_eq, run_all_append, run_all_append, List.append_assoc, List.append_assoc, run_declarationStart hlead,
      run_declarationStart hlead]
    simp only [run_all_append [.opt Functions.parenthesised]]
    exact agree_scope hscope _ _ more
  · have hnone : ∀ {code : List Char}, (¬∃ lead rest, code = lead ++ ("pub".toList ++ rest) ∧ ∀ c ∈ lead, isBlank c = true) →
        publicName? code = none := by
      intro code hnot
      rw [Option.eq_none_iff_forall_ne_some]
      exact fun name hname => hnot (exists_pub_of_publicName? hname)
    rw [hnone hpub]
    refine hnone ?_
    rintro ⟨lead, rest, hcode, hlead⟩
    have hprefix : lead ++ "pub".toList <+: code ++ '\x7d' :: more := ⟨rest, by rw [hcode, List.append_assoc]⟩
    have hbrace : '\x7d' ∉ lead ++ "pub".toList := by
      rw [List.mem_append, not_or]
      exact ⟨fun hmem => absurd (hlead _ hmem) (by decide), by decide⟩
    obtain ⟨rest', hrest⟩ := Block.isPrefix_of_notMem hbrace hprefix
    exact hpub ⟨lead, rest', by rw [← hrest, List.append_assoc], hlead⟩

/-- Within the parentheses of a visibility, no name has been read. -/
theorem publicName?_of_opensScope {code : List Char} (h : OpensScope code) : publicName? code = none := by
  rw [Option.eq_none_iff_forall_ne_some]
  intro name hname
  obtain ⟨lead, rest, rfl, hlead⟩ := exists_pub_of_publicName? hname
  rw [OpensScope, trimStart_lead hlead] at h
  obtain ⟨⟨inside, hinside⟩, hnot⟩ := h
  have hcancel : "pub".toList ++ '(' :: inside = "pub".toList ++ rest := hinside
  obtain rfl := List.append_cancel_left hcancel
  have hnone : ∀ next : Next Found, run Functions.parenthesised ⟨"pub".toList.reverse ++ lead.reverse, '(' :: inside⟩ [] next = none :=
    run_parenthesised_eq_none fun _ hmem => hnot (List.mem_append_right _ hmem)
  rw [publicName?_eq, publicFunction_eq, run_all_append, run_declarationStart hlead,
    run_all_append [.opt Functions.parenthesised]] at hname
  have hopt := run_opt_of_none hnone (behindScope (lead ++ ("pub".toList ++ '(' :: inside)))
  rw [behindScope_parenthesis] at hopt
  have habsurd := hname.symm.trans (congrArg (fun found => ((found.map Found.groups).bind (List.lookup 1)).map String.ofList) hopt)
  cases habsurd

/-! ## The test of a function -/

/-- What the test of a function is called. -/
def testName (name : String) : String := s!"test_{name}"

theorem toList_testName (name : String) : (testName name).toList = "test_".toList ++ name.toList := String.toList_append

/-- The text of a test: the keyword, the name, an opening parenthesis, with blanks between them. -/
def testText (name : String) (gap gap' : List Char) : List Char := "fn".toList ++ (gap ++ ((testName name).toList ++ (gap' ++ ['('])))

/-- A test for a function stands in a text, its keyword being a word of its own. -/
structure TestStands (name : String) (text before gap gap' more : List Char) : Prop where
  stands : text = before ++ (testText name gap gap' ++ more)
  ownWord : before.getLast?.any isWordChar = false
  apart : gap ≠ []
  blank : ∀ c ∈ gap, isBlank c = true
  blank' : ∀ c ∈ gap', isBlank c = true

/-- A test and what follows it, piece by piece. -/
theorem testText_append (name : String) (gap gap' more : List Char) :
    testText name gap gap' ++ more = "fn".toList ++ (gap ++ ((testName name).toList ++ (gap' ++ '(' :: more))) := by
  simp [testText]

/-- The text of a test ends in its parenthesis. -/
theorem getLast?_testText (name : String) (gap gap' : List Char) : (testText name gap gap').getLast? = some '(' := by
  have hsplit : testText name gap gap' = "fn".toList ++ (gap ++ ((testName name).toList ++ gap')) ++ ['('] := by simp [testText]
  rw [hsplit, List.getLast?_concat]

/-- The name of a test is a name. -/
theorem isName_testName {name : String} (h : IsName name) : IsName (testName name) := by
  have hlead : ∀ c ∈ "test_".toList, isWordChar c = true := List.all_eq_true.mp rfl
  rw [IsName, toList_testName]
  exact List.forall_mem_append.mpr ⟨hlead, h⟩

section TestStands

variable {name : String} {text before gap gap' more : List Char}

/-- A test stands in a text whatever stands behind that. -/
theorem TestStands.append (h : TestStands name text before gap gap' more) (tail : List Char) :
    TestStands name (text ++ tail) before gap gap' (more ++ tail) :=
  { h with stands := by rw [h.stands, List.append_assoc, List.append_assoc] }

/-- The text of a test has no brace in it. -/
theorem TestStands.brace_notMem (h : TestStands name text before gap gap' more) (hname : IsName name) :
    '\x7d' ∉ testText name gap gap' := by
  have hblank : ∀ {blanks : List Char}, (∀ c ∈ blanks, isBlank c = true) → '\x7d' ∉ blanks :=
    fun hblanks hmem => absurd (hblanks _ hmem) (by decide)
  have htest : '\x7d' ∉ (testName name).toList := fun hmem => absurd (isName_testName hname _ hmem) (by decide)
  simp [testText, hblank h.blank, hblank h.blank', htest]

/-- A test is not in the blanks that are cut off the end. -/
theorem TestStands.trimEnd (h : TestStands name text before gap gap' more) :
    ∃ more', TestStands name (trimEnd text) before gap gap' more' := by
  have hvisible : ∀ c ∈ (before ++ testText name gap gap').getLast?, isBlank c = false := by
    intro c hc
    rw [List.getLast?_append, getLast?_testText] at hc
    obtain rfl : '(' = c := Option.some.inj hc
    decide
  obtain ⟨more', hmore⟩ := isPrefix_trimEnd hvisible more
  rw [List.append_assoc, List.append_assoc, ← h.stands] at hmore
  exact ⟨more', { h with stands := hmore.symm }⟩

/-- A test stands in front of a brace, or behind it whatever is in front of the brace. -/
theorem TestStands.beside_brace {front after : List Char} (h : TestStands name (front ++ '\x7d' :: after) before gap gap' more)
    (hname : IsName name) : (∃ rest, TestStands name front before gap gap' rest) ∨
      ∃ between, ∀ lead, TestStands name (lead ++ '\x7d' :: after) (lead ++ '\x7d' :: between) gap gap' more := by
  rcases List.append_eq_append_iff.mp h.stands.symm with ⟨between, hfront, hmore⟩ | ⟨between, hbefore, hafter⟩
  · obtain ⟨rest, rfl⟩ := Block.isPrefix_of_notMem (h.brace_notMem hname) (hmore ▸ List.prefix_append _ more)
    exact .inl ⟨rest, { h with stands := hfront }⟩
  · cases between with
    | nil =>
      rw [List.nil_append, testText_append] at hafter
      exact absurd (List.cons.inj hafter).1 (by decide)
    | cons c between =>
      obtain ⟨rfl, rfl⟩ := List.cons.inj hafter
      have hword := h.ownWord
      rw [hbefore, List.getLast?_append, List.getLast?_cons] at hword
      refine .inr ⟨between, fun lead => { h with stands := by simp, ownWord := ?_ }⟩
      rw [List.getLast?_append, List.getLast?_cons]
      exact hword

end TestStands

/-- The pattern of a test asks for the keyword, the name and a parenthesis, with blanks between them. -/
theorem testOf_eq (name : String) : testOf name =
    .seq .wordEdge (.seq (.lit "fn") (.seq .blanks1 (.seq (.lit (testName name)) (.seq .blanks (.lit "("))))) := rfl

/-- Before a keyword is an edge of a word, unless the word goes on there. -/
theorem atWordEdge_keyword (before rest : List Char) :
    (Spot.mk before.reverse ("fn".toList ++ rest)).atWordEdge = !before.getLast?.any isWordChar := by
  rw [Spot.atWordEdge, List.head?_reverse]
  have hhead : ("fn".toList ++ rest).head?.any isWordChar = true := rfl
  rw [hhead]
  cases before.getLast?.any isWordChar <;> rfl

/-- Tests that stand in a text are found. -/
theorem TestStands.isSome_foundAt {name : String} {text before gap gap' more : List Char}
    (h : TestStands name text before gap gap' more) :
    (foundAt (testOf name) ⟨before.reverse, testText name gap gap' ++ more⟩).isSome = true := by
  have htest : (testName name).toList = 't' :: ("est_".toList ++ name.toList) := toList_testName name
  have hgap : ((testName name).toList ++ (gap' ++ '(' :: more)).head?.any isBlank = false := by
    rw [htest]
    rfl
  rw [testText_append, foundAt, testOf_eq, run_seq, run_wordEdge, atWordEdge_keyword, h.ownWord, Bool.not_false, if_pos rfl,
    run_seq, run_lit_append, run_seq, blanks1, Pattern.blank, run_many1_append h.apart h.blank hgap]
  · rw [run_seq, run_lit_append, run_seq, blanks, Pattern.blank, run_many_append h.blank' rfl]
    · exact congrArg Option.isSome (run_lit_append "(" _ more [] _)
    · exact fun before c rest hc => run_lit_cons_eq_none rfl (visible_ne (by decide) hc) before rest [] _
  · exact fun before c rest hc => run_lit_cons_eq_none htest (visible_ne (by decide) hc) before rest [] _

/-- The pattern of a test occurs where a test stands. -/
theorem occurs_testOf_iff {name : String} {text : List Char} :
    (testOf name).occurs text = true ↔ ∃ before gap gap' more, TestStands name text before gap gap' more := by
  rw [occurs_iff]
  constructor
  · rintro ⟨before, rest, rfl, hat⟩
    obtain ⟨m, hm⟩ := Option.isSome_iff_exists.mp hat
    rw [foundAt, testOf_eq, run_seq, run_wordEdge] at hm
    obtain ⟨hedge, hm⟩ := Option.ite_none_right_eq_some.mp hm
    rw [run_seq] at hm
    obtain ⟨s₁, groups₁, hkeyword, hm⟩ := takes_run (lit "fn") _ _ _ _ hm
    rw [run_seq] at hm
    obtain ⟨gap, rest₂, hgap, hne, hblank, hm⟩ := exists_of_run_many1 hm
    obtain ⟨s₃, groups₃, hname, hm⟩ := takes_run (lit (testName name)) _ _ _ _ hm
    obtain ⟨s₄, groups₄, hblanks, hm⟩ := takes_run blanks _ _ _ _ hm
    obtain ⟨s₅, groups₅, hopen, -⟩ := takes_run (lit "(") _ _ _ _ hm
    obtain ⟨gap', hgap', -, hblank'⟩ := hblanks.of_many
    have hrest : rest = "fn".toList ++ (gap ++ ((testName name).toList ++ (gap' ++ '(' :: s₅.after))) := by
      have hrest := hkeyword.of_lit.1
      have hname := hname.of_lit.1
      dsimp only at hrest hname
      rw [hrest, hgap, hname, hgap', hopen.of_lit.1]
      rfl
    subst hrest
    refine ⟨before, gap, gap', s₅.after, ⟨by rw [testText_append], ?_, hne, hblank, hblank'⟩⟩
    rwa [atWordEdge_keyword, Bool.not_eq_true'] at hedge
  · rintro ⟨before, gap, gap', more, h⟩
    exact ⟨before, _, h.stands, h.isSome_foundAt⟩

end QualityGate.TestStubs
