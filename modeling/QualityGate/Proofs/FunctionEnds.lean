import QualityGate.Proofs.LineInsertion

/-!
# Where functions end

The search for the end of a body reads the code from the place where the function's name stands first. The first brace that it
meets opens what it takes for the body, whether or not a grouping of the signature is still open there
(`beforeClosing?_of_group`). A function whose signature has braces of its own therefore ends with them, and its reported end is
that of its body only where no line ends in between (`endLine_eq_iff`).
-/

namespace QualityGate

open Scan Toolchain

namespace Scan

/-! ## The code on a line is made of the characters of the line -/

/-- A character literal begins with its quote. -/
theorem head_of_charLiteral? {c : Char} {rest : List Char} {n : Nat} (h : charLiteral? (c :: rest) = some n) : c = '\'' := by
  obtain ⟨token, htoken, ⟨more, hmore⟩, -⟩ := exists_charToken_of_charLiteral? h
  cases htoken <;> exact (List.cons.inj hmore).1.symm

/-- A move adds to the code only characters of the text. -/
theorem Moves.code_subset {t : Toolchain} {k next : Cursor} {c : Char} {rest : List Char} (h : Moves t k c rest next) :
    next.code ⊆ c :: rest ++ k.code := by
  intro d hd
  cases h with
  | openLine | openBlock =>
    change d ∈ (k.mark true).code at hd
    rw [Cursor.mark_code] at hd
    exact List.mem_append_right _ hd
  | char _ _ found =>
    rcases List.mem_append.mp hd with hd | hd
    · obtain rfl : d = '\'' := by simpa using hd
      exact List.mem_append_left _ (head_of_charLiteral? found ▸ List.mem_cons_self)
    · exact List.mem_append_right _ hd
  | openLiteral _ _ found =>
    rcases List.mem_append.mp hd with hd | hd
    · exact List.mem_append_left _ ((opens_of_literal? found).isPrefix.subset (List.mem_reverse.mp hd))
    · exact List.mem_append_right _ hd
  | plain =>
    rcases List.mem_append.mp hd with hd | hd
    · obtain rfl : d = c := by simpa using hd
      exact List.mem_append_left _ List.mem_cons_self
    · exact List.mem_append_right _ hd
  | closeLiteral _ _ closes =>
    rcases List.mem_append.mp hd with hd | hd
    · exact List.mem_append_left _ ((List.isPrefixOf_iff_prefix.mp closes).subset (List.mem_reverse.mp hd))
    · exact List.mem_append_right _ hd
  | skip | sayLine | deepen | closeBlock | sayBlock | escape | inLiteral => exact List.mem_append_right _ hd

/-- The code of a text is made of its characters. -/
theorem steps_code_subset (t : Toolchain) (k : Cursor) (text : List Char) : (steps t k text).code ⊆ text ++ k.code := by
  induction text generalizing k with
  | nil => exact List.Subset.refl _
  | cons c rest ih =>
    obtain ⟨next, hmove, hstep⟩ := step_cases t k c rest
    intro d hd
    rcases List.mem_append.mp (ih _ hd) with hd | hd
    · exact List.mem_append_left _ (List.mem_cons_of_mem c hd)
    · rw [hstep] at hd
      exact hmove.code_subset hd

/-- The code of a scanned line is made of the characters of one of the texts. -/
theorem code_subset_of_mem_linesFrom {t : Toolchain} {mode : Mode} {number : Nat} {texts : List (List Char)} {line : Line}
    (h : line ∈ linesFrom t mode number texts) : ∃ text ∈ texts, line.code ⊆ text := by
  induction texts generalizing mode number with
  | nil => cases h
  | cons text rest ih =>
    rw [linesFrom] at h
    rcases List.mem_cons.mp h with rfl | h
    · refine ⟨text, List.mem_cons_self, fun c hc => ?_⟩
      have hc' := steps_code_subset t (start mode) text (List.mem_reverse.mp hc)
      rwa [show (start mode).code = [] from rfl, List.append_nil] at hc'
    · obtain ⟨text', htext', hsub⟩ := ih h
      exact ⟨text', List.mem_cons_of_mem _ htext', hsub⟩

end Scan

/-- No line feed is code. -/
theorem lineFeed_notMem_code {t : Toolchain} {content : List Char} {code : List Char}
    (h : code ∈ (scan t content).map (·.code)) : '\n' ∉ code := by
  obtain ⟨line, hline, rfl⟩ := List.mem_map.mp h
  obtain ⟨text, htext, hsub⟩ := code_subset_of_mem_linesFrom hline
  exact fun hfeed => lineFeed_notMem_of_mem_splitLines htext (hsub hfeed)

namespace Functions

/-! ## The brace that ends a search -/

/-- The code in front of the brace that closes the body, from a state of the search on. -/
def beforeClosing? : BraceState → List Char → Option (List Char)
  | _, [] => none
  | s, c :: rest =>
    match braceStep s c with
    | .goOn s' => (beforeClosing? s' rest).map (c :: ·)
    | .closed => some []
    | .bodiless => none

section Closing

variable {s s' : BraceState} {code : List Char}

/-- The search goes on behind a character that ends nothing. -/
theorem beforeClosing?_cons {c : Char} (h : braceStep s c = .goOn s') (rest : List Char) :
    beforeClosing? s (c :: rest) = (beforeClosing? s' rest).map (c :: ·) := by
  rw [beforeClosing?, h]

/-- The search goes on behind code that ends nothing. -/
theorem beforeClosing?_of_goOn (h : braceSteps s code = .goOn s') (more : List Char) :
    beforeClosing? s (code ++ more) = (beforeClosing? s' more).map (code ++ ·) := by
  induction code generalizing s with
  | nil =>
    obtain rfl : s = s' := by simpa [braceSteps] using h
    simp
  | cons c rest ih =>
    rw [braceSteps] at h
    rw [List.cons_append, beforeClosing?]
    cases hstep : braceStep s c with
    | goOn next =>
      rw [hstep] at h
      simp only [ih h, Option.map_map]
      rfl
    | closed | bodiless =>
      rw [hstep] at h
      cases h

/-- The search ends within the code that closes the body. -/
theorem beforeClosing?_of_closed (h : braceSteps s code = .closed) (more : List Char) :
    ∃ inside, inside <+: code ∧ beforeClosing? s (code ++ more) = some inside := by
  induction code generalizing s with
  | nil => cases h
  | cons c rest ih =>
    rw [braceSteps] at h
    rw [List.cons_append, beforeClosing?]
    cases hstep : braceStep s c with
    | goOn next =>
      rw [hstep] at h
      obtain ⟨inside, hinit, hinside⟩ := ih h
      exact ⟨c :: inside, List.cons_prefix_cons.mpr ⟨rfl, hinit⟩, by simp [hinside]⟩
    | closed => exact ⟨[], List.nil_prefix, rfl⟩
    | bodiless =>
      rw [hstep] at h
      cases h

/-- A declaration without a body has no closing brace. -/
theorem beforeClosing?_of_bodiless (h : braceSteps s code = .bodiless) (more : List Char) :
    beforeClosing? s (code ++ more) = none := by
  induction code generalizing s with
  | nil => cases h
  | cons c rest ih =>
    rw [braceSteps] at h
    rw [List.cons_append, beforeClosing?]
    cases hstep : braceStep s c with
    | goOn next =>
      rw [hstep] at h
      simp [ih h]
    | closed =>
      rw [hstep] at h
      cases h
    | bodiless => rfl

/-- The line of the closing brace is told by the line feeds in front of the brace. -/
theorem closingLine?_eq {codes : List (List Char)} (h : ∀ code ∈ codes, '\n' ∉ code) :
    closingLine? s codes = (beforeClosing? s (joinLines codes)).map (·.count '\n') := by
  induction codes generalizing s with
  | nil => rfl
  | cons code rest ih =>
    have hcode : '\n' ∉ code := h code List.mem_cons_self
    have hrest : ∀ s', closingLine? s' rest = (beforeClosing? s' (joinLines rest)).map (·.count '\n') :=
      fun _ => ih fun c hc => h c (List.mem_cons_of_mem _ hc)
    obtain ⟨more, hmore, hsearch⟩ : ∃ more, joinLines (code :: rest) = code ++ more ∧
        ∀ s', (closingLine? s' rest).map (· + 1) = (beforeClosing? s' more).map (·.count '\n') := by
      cases rest with
      | nil => exact ⟨[], by rw [joinLines_singleton, List.append_nil], fun _ => rfl⟩
      | cons next rest =>
        refine ⟨'\n' :: joinLines (next :: rest), joinLines_cons code (List.cons_ne_nil _ _), fun s' => ?_⟩
        rw [hrest, beforeClosing?_cons (braceStep_of_plain (by decide) s'), Option.map_map, Option.map_map]
        simp [Function.comp_def]
    rw [hmore, closingLine?]
    cases hsteps : braceSteps s code with
    | goOn s' =>
      rw [beforeClosing?_of_goOn hsteps, Option.map_map]
      simp [hsearch, Function.comp_def, List.count_eq_zero.mpr hcode]
    | closed =>
      obtain ⟨inside, hinit, hinside⟩ := beforeClosing?_of_closed hsteps more
      have hnone : '\n' ∉ inside := fun hfeed => hcode (hinit.subset hfeed)
      simp [hinside, List.count_eq_zero.mpr hnone]
    | bodiless => simp [beforeClosing?_of_bodiless hsteps]

end Closing

/-! ## Matched braces -/

/-- Code without braces. -/
def Unbraced (code : List Char) : Prop := '\x7b' ∉ code ∧ '\x7d' ∉ code

instance (code : List Char) : Decidable (Unbraced code) := inferInstanceAs (Decidable (_ ∧ _))

/-- Code whose braces are matched. -/
inductive Matched : List Char → Prop
  | nil : Matched []
  | char {c : Char} {rest : List Char} (noOpen : c ≠ '\x7b') (noClose : c ≠ '\x7d') (behind : Matched rest) : Matched (c :: rest)
  | group {inner rest : List Char} (within : Matched inner) (behind : Matched rest) :
      Matched ('\x7b' :: (inner ++ '\x7d' :: rest))

/-- What is left of code without braces has none. -/
theorem Unbraced.of_cons {c : Char} {rest : List Char} (h : Unbraced (c :: rest)) :
    c ≠ '\x7b' ∧ c ≠ '\x7d' ∧ Unbraced rest := by
  simp only [Unbraced, List.mem_cons, not_or] at h ⊢
  exact ⟨fun heq => h.1.1 heq.symm, fun heq => h.2.1 heq.symm, h.1.2, h.2.2⟩

/-- A character that is no brace leaves code without any. -/
theorem Unbraced.cons {c : Char} {rest : List Char} (hopen : c ≠ '\x7b') (hclose : c ≠ '\x7d') (h : Unbraced rest) :
    Unbraced (c :: rest) :=
  ⟨List.not_mem_cons_of_ne_of_not_mem hopen.symm h.1, List.not_mem_cons_of_ne_of_not_mem hclose.symm h.2⟩

/-- Code without braces has none to match. -/
theorem Unbraced.matched {code : List Char} (h : Unbraced code) : Matched code := by
  induction code with
  | nil => exact .nil
  | cons c rest ih =>
    obtain ⟨hopen, hclose, hrest⟩ := h.of_cons
    exact .char hopen hclose (ih hrest)

/-- The first brace of matched code opens a group. -/
theorem Matched.unbraced_or_group {code : List Char} (h : Matched code) :
    Unbraced code ∨ ∃ before inner behind, code = before ++ '\x7b' :: (inner ++ '\x7d' :: behind) ∧ Unbraced before ∧
      Matched inner := by
  induction h with
  | nil => exact .inl ⟨List.not_mem_nil, List.not_mem_nil⟩
  | @char c rest hopen hclose _ ih =>
    rcases ih with hrest | ⟨before, inner, behind, rfl, hbefore, hinner⟩
    · exact .inl (.cons hopen hclose hrest)
    · exact .inr ⟨c :: before, inner, behind, rfl, .cons hopen hclose hbefore, hinner⟩
  | @group inner rest hinner _ _ _ => exact .inr ⟨[], inner, rest, rfl, ⟨List.not_mem_nil, List.not_mem_nil⟩, hinner⟩

/-- Whether the braces of some code close those open before it and are matched otherwise. -/
def closesBraces : Nat → List Char → Bool
  | open_, [] => open_ = 0
  | open_, c :: rest =>
    if c = '\x7b' then closesBraces (open_ + 1) rest
    else if c = '\x7d' then 0 < open_ && closesBraces (open_ - 1) rest
    else closesBraces open_ rest

/-- Matched code up to the brace that closes one open before it, and so on for as many as are open. -/
def ClosedBy : Nat → List Char → Prop
  | 0, code => Matched code
  | open_ + 1, code => ∃ inner rest, code = inner ++ '\x7d' :: rest ∧ Matched inner ∧ ClosedBy open_ rest

/-- A character that is no brace closes nothing. -/
theorem ClosedBy.char {c : Char} {rest : List Char} (hopen : c ≠ '\x7b') (hclose : c ≠ '\x7d') {n : Nat} (h : ClosedBy n rest) :
    ClosedBy n (c :: rest) := by
  cases n with
  | zero => exact Matched.char hopen hclose h
  | succ n =>
    obtain ⟨inner, behind, rfl, hinner, hbehind⟩ := h
    exact ⟨c :: inner, behind, rfl, .char hopen hclose hinner, hbehind⟩

/-- Matched code in braces closes nothing. -/
theorem ClosedBy.group {inner rest : List Char} (hinner : Matched inner) {n : Nat} (h : ClosedBy n rest) :
    ClosedBy n ('\x7b' :: (inner ++ '\x7d' :: rest)) := by
  cases n with
  | zero => exact Matched.group hinner h
  | succ n =>
    obtain ⟨inner', behind, rfl, hinner', hbehind⟩ := h
    exact ⟨'\x7b' :: (inner ++ '\x7d' :: inner'), behind, by simp, .group hinner hinner', hbehind⟩

/-- Code that closes some braces is matched up to each of them. -/
theorem closedBy_of_closesBraces {n : Nat} {code : List Char} (h : closesBraces n code = true) : ClosedBy n code := by
  induction code generalizing n with
  | nil =>
    obtain rfl : n = 0 := by simpa [closesBraces] using h
    exact Matched.nil
  | cons c rest ih =>
    rw [closesBraces] at h
    split at h
    · rename_i hopen
      obtain ⟨inner, behind, rfl, hinner, hbehind⟩ := ih h
      exact hopen ▸ .group hinner hbehind
    rename_i hopen
    split at h
    · rename_i hclose
      rw [Bool.and_eq_true, decide_eq_true_eq] at h
      obtain ⟨m, rfl⟩ := Nat.exists_eq_add_of_lt h.1
      rw [Nat.zero_add] at h ⊢
      exact ⟨[], rest, by rw [hclose, List.nil_append], .nil, ih h.2⟩
    · rename_i hclose
      exact .char hopen hclose (ih h)

/-- Matched code leaves to be closed what was. -/
theorem Matched.closesBraces_append {inner : List Char} (h : Matched inner) (n : Nat) (more : List Char) :
    closesBraces n (inner ++ more) = closesBraces n more := by
  induction h generalizing n more with
  | nil => rfl
  | char hopen hclose _ ih => rw [List.cons_append, closesBraces, if_neg hopen, if_neg hclose, ih]
  | group _ _ ihinner ihrest => simp [closesBraces, ihinner, ihrest]

/-- Code is matched when it closes its own braces. -/
theorem matched_iff (code : List Char) : Matched code ↔ closesBraces 0 code = true := by
  constructor
  · intro h
    rw [← List.append_nil code, h.closesBraces_append]
    rfl
  · exact closedBy_of_closesBraces

instance (code : List Char) : Decidable (Matched code) := decidable_of_iff _ (matched_iff code).symm

/-- A character that is no brace leaves the depth as it is, if the search goes on. -/
theorem braceStep_of_ne {c : Char} (hopen : c ≠ '\x7b') (hclose : c ≠ '\x7d') (s : BraceState) :
    braceStep s c = .bodiless ∨ ∃ grouping, braceStep s c = .goOn ⟨s.depth, grouping, s.opened⟩ := by
  unfold braceStep
  extract_lets grouping
  rw [if_neg hopen, if_neg hclose]
  split
  · exact .inl rfl
  · exact .inr ⟨grouping, rfl⟩

/-- Inside the body, the search passes matched code by. -/
theorem Matched.beforeClosing?_append {inner : List Char} (h : Matched inner) {s : BraceState} (hopened : s.opened = true)
    (hdepth : 0 < s.depth) (more : List Char) :
    beforeClosing? s (inner ++ more) = (beforeClosing? s more).map (inner ++ ·) := by
  induction h generalizing s more with
  | nil => simp
  | @char c rest hopen hclose _ ih =>
    have hstep : braceStep s c = .goOn s := by
      obtain ⟨depth, grouping, opened⟩ := s
      simp [braceStep, hopen, hclose, show opened = true from hopened]
    rw [List.cons_append, beforeClosing?_cons hstep, ih hopened hdepth, Option.map_map]
    rfl
  | @group inner rest _ _ ihinner ihrest =>
    obtain ⟨depth, grouping, opened⟩ := s
    obtain rfl : opened = true := hopened
    change 0 < depth at hdepth
    have hopen : braceStep ⟨depth, grouping, true⟩ '\x7b' = .goOn ⟨depth + 1, grouping, true⟩ := by simp [braceStep]
    have hclose : braceStep ⟨depth + 1, grouping, true⟩ '\x7d' = .goOn ⟨depth, grouping, true⟩ := by
      simp [braceStep, Int.ne_of_gt hdepth]
    rw [List.cons_append, beforeClosing?_cons hopen, List.append_assoc, ihinner rfl (show (0 : Int) < depth + 1 by omega),
      List.cons_append, beforeClosing?_cons hclose, ihrest rfl hdepth]
    simp [Option.map_map, Function.comp_def]

/-- Before the body, only a semicolon outside all groupings stops the search at code without braces. -/
theorem Unbraced.beforeClosing?_append {before inside more : List Char} (h : Unbraced before) {grouping : Int}
    (hfound : beforeClosing? ⟨0, grouping, false⟩ (before ++ more) = some inside) :
    ∃ grouping' inside', beforeClosing? ⟨0, grouping', false⟩ more = some inside' ∧ inside = before ++ inside' := by
  induction before generalizing grouping inside with
  | nil => exact ⟨grouping, inside, hfound, rfl⟩
  | cons c rest ih =>
    obtain ⟨hopen, hclose, hrest⟩ := h.of_cons
    rw [List.cons_append, beforeClosing?] at hfound
    rcases braceStep_of_ne hopen hclose ⟨0, grouping, false⟩ with hstep | ⟨grouping', hstep⟩
    · simp [hstep] at hfound
    · simp only [hstep, Option.map_eq_some_iff] at hfound
      obtain ⟨inside', hrestFound, rfl⟩ := hfound
      obtain ⟨grouping'', inside'', hmore, rfl⟩ := ih hrest hrestFound
      exact ⟨grouping'', inside'', hmore, rfl⟩

/-- A search that succeeds has ended with the first group of braces, wherever that stands. -/
theorem beforeClosing?_of_group {before inner more inside : List Char} (hbefore : Unbraced before) (hinner : Matched inner)
    {grouping : Int}
    (hfound : beforeClosing? ⟨0, grouping, false⟩ (before ++ '\x7b' :: (inner ++ '\x7d' :: more)) = some inside) :
    inside = before ++ '\x7b' :: inner := by
  obtain ⟨grouping', inside', hgroup, rfl⟩ := hbefore.beforeClosing?_append hfound
  have hopen : braceStep ⟨0, grouping', false⟩ '\x7b' = .goOn ⟨1, grouping', true⟩ := by simp [braceStep]
  have hclose : braceStep ⟨1, grouping', true⟩ '\x7d' = .closed := by simp [braceStep]
  rw [beforeClosing?_cons hopen, hinner.beforeClosing?_append rfl Int.one_pos, beforeClosing?, hclose] at hgroup
  obtain rfl : '\x7b' :: inner = inside' := by simpa using hgroup
  rfl

/-! ## Declarations and their bodies -/

/-- The groupings that are open behind a character. -/
def groupingsAfter (open_ : Nat) (c : Char) : Nat :=
  if c = '(' || c = '[' then open_ + 1 else if c = ')' || c = ']' then open_ - 1 else open_

/-- Whether the groupings are closed at the end of some code and no brace opens in it outside of them. -/
def isSignature : Nat → List Char → Bool
  | open_, [] => open_ = 0
  | open_, c :: rest => !(open_ = 0 && c = '\x7b') && isSignature (groupingsAfter open_ c) rest

/-- A function with a body as the code has it, from the place in its line where its name stands first. `lead` ends with the name
that is declared; the body follows a signature, in braces. -/
structure Declaration (t : Toolchain) (codes : List (List Char)) where
  code : List Char
  rest : List (List Char)
  name : List Char
  lead : List Char
  signature : List Char
  body : List Char
  tail : List Char
  lines : codes = code :: rest
  declared : declaredName? t code = some name
  text : joinLines (fromName name code :: rest) = lead ++ signature ++ '\x7b' :: (body ++ '\x7d' :: tail)
  named : name <:+ lead
  isSignature : isSignature 0 signature = true
  matched : Matched (lead ++ signature)
  bodyMatched : Matched body

namespace Declaration

variable {t : Toolchain} {codes : List (List Char)} (d : Declaration t codes)

/-- How many lines further down the body closes. -/
def length : Nat := (d.lead ++ d.signature ++ d.body).count '\n'

/-- The first braces are those of the body, or no line ends between the brace that closes them and the one that closes the body. -/
def Settled : Prop :=
  Unbraced (d.lead ++ d.signature) ∨
    ∃ before inner behind, d.lead ++ d.signature = before ++ '\x7b' :: (inner ++ '\x7d' :: behind) ∧ Unbraced before ∧
      Matched inner ∧ '\n' ∉ behind ∧ '\n' ∉ d.body

/-- What the search has read when it ends, if the first group of braces is in the signature. -/
theorem eq_of_group {before inner behind inside : List Char} (hbefore : Unbraced before) (hinner : Matched inner)
    (hgroup : d.lead ++ d.signature = before ++ '\x7b' :: (inner ++ '\x7d' :: behind))
    (hfound : beforeClosing? ⟨0, 0, false⟩ (joinLines (fromName d.name d.code :: d.rest)) = some inside) :
    inside.count '\n' = d.length ↔ '\n' ∉ behind ∧ '\n' ∉ d.body := by
  rw [d.text, hgroup, List.append_assoc, List.cons_append, List.append_assoc] at hfound
  rw [beforeClosing?_of_group hbefore hinner hfound, length, hgroup, ← List.count_eq_zero, ← List.count_eq_zero]
  simp only [List.count_append, List.count_cons]
  simp
  omega

/-- The search reads as many lines as the body has when the signature settles where that begins. -/
theorem count_eq_length_iff {inside : List Char}
    (hfound : beforeClosing? ⟨0, 0, false⟩ (joinLines (fromName d.name d.code :: d.rest)) = some inside) :
    inside.count '\n' = d.length ↔ d.Settled := by
  rcases d.matched.unbraced_or_group with hunbraced | ⟨before, inner, behind, hgroup, hbefore, hinner⟩
  · rw [d.text] at hfound
    refine iff_of_true ?_ (.inl hunbraced)
    rw [beforeClosing?_of_group hunbraced d.bodyMatched hfound, length]
    simp
  · rw [d.eq_of_group hbefore hinner hgroup hfound]
    constructor
    · intro hlines
      exact .inr ⟨before, inner, behind, hgroup, hbefore, hinner, hlines⟩
    · rintro (hunbraced | ⟨before', inner', behind', hgroup', hbefore', hinner', hlines⟩)
      · exact absurd (by rw [hgroup]; simp) hunbraced.1
      · rw [← d.eq_of_group hbefore hinner hgroup hfound]
        exact (d.eq_of_group hbefore' hinner' hgroup' hfound).mpr hlines

end Declaration

/-- A function that is found has its first line among those of the source. -/
theorem exists_of_mem_braceSpansFrom {t : Toolchain} {index : Nat} {codes : List (List Char)} {span : Span}
    (h : span ∈ braceSpansFrom t index codes) :
    ∃ above code below, codes = above ++ code :: below ∧ braceSpan? t (index + above.length) code below = some span := by
  induction codes generalizing index with
  | nil => cases h
  | cons code rest ih =>
    rw [braceSpansFrom] at h
    rcases List.mem_append.mp h with h | h
    · exact ⟨[], code, rest, rfl, Option.mem_toList.mp h⟩
    · obtain ⟨above, code', below, rfl, hspan⟩ := ih h
      refine ⟨code :: above, code', below, rfl, ?_⟩
      rwa [List.length_cons, Nat.add_comm above.length, ← Nat.add_assoc]

end Functions

open Functions

section Ends

variable {t : Toolchain} {content : List Char} {f : FunctionInfo}

/-- A reported function has been declared on its first line, and the search for the end of its body has succeeded from there. -/
theorem exists_beforeClosing?_eq_some (ht : t ≠ pythonUv) (hf : f ∈ analyzeFunctions t (scan t content)) :
    ∃ code rest name inside, ((scan t content).map (·.code)).drop (f.line - 1) = code :: rest ∧
      declaredName? t code = some name ∧
      beforeClosing? ⟨0, 0, false⟩ (joinLines (fromName name code :: rest)) = some inside ∧
      f.endLine = f.line + inside.count '\n' := by
  obtain ⟨span, hspan, rfl⟩ := List.mem_map.mp hf
  rw [spans, if_neg ht] at hspan
  obtain ⟨above, code, rest, hcodes, hspan⟩ := exists_of_mem_braceSpansFrom hspan
  rw [braceSpan?_eq, Option.bind_eq_some_iff] at hspan
  obtain ⟨name, hname, hspan⟩ := hspan
  obtain ⟨length, hlength, rfl⟩ := Option.map_eq_some_iff.mp hspan
  have hnone : ∀ line ∈ above ++ code :: rest, '\n' ∉ line := fun line hline => lineFeed_notMem_code (hcodes ▸ hline)
  have hfeeds : ∀ line ∈ fromName name code :: rest, '\n' ∉ line := by
    intro line hline
    rcases List.mem_cons.mp hline with rfl | hline
    · exact fun hfeed => hnone code (by simp) (List.mem_of_mem_drop hfeed)
    · exact hnone line (by simp [hline])
  rw [closingLine?_eq hfeeds] at hlength
  obtain ⟨inside, hinside, rfl⟩ := Option.map_eq_some_iff.mp hlength
  refine ⟨code, rest, name, inside, by simp [hcodes], hname, hinside, ?_⟩
  dsimp only
  omega

/-- A function is reported to end where its body does exactly if its declaration is settled. -/
theorem endLine_eq_iff (ht : t ≠ pythonUv) (hf : f ∈ analyzeFunctions t (scan t content))
    (d : Declaration t (((scan t content).map (·.code)).drop (f.line - 1))) :
    f.endLine = f.line + d.length ↔ d.Settled := by
  obtain ⟨code, rest, name, inside, hlines, hname, hinside, hend⟩ := exists_beforeClosing?_eq_some ht hf
  obtain ⟨rfl, rfl⟩ := List.cons.inj (hlines.symm.trans d.lines)
  obtain rfl : name = d.name := Option.some.inj (hname.symm.trans d.declared)
  rw [← d.count_eq_length_iff hinside, hend, Nat.add_left_cancel_iff]

end Ends

namespace PlainSignature

def content : List Char := "fn half(x: i32) -> i32 \x7b\n    x / 2\n\x7d".toList

/-- The function of a source whose signature has no braces. -/
def declaration : Declaration rust ((scan rust content).map (·.code)) where
  code := "fn half(x: i32) -> i32 \x7b".toList
  rest := ["    x / 2".toList, "\x7d".toList]
  name := "half".toList
  lead := "half".toList
  signature := "(x: i32) -> i32 ".toList
  body := "\n    x / 2\n".toList
  tail := []
  lines := by decide +kernel
  declared := by decide +kernel
  text := by decide +kernel
  named := List.suffix_rfl
  isSignature := by decide +kernel
  matched := by decide +kernel
  bodyMatched := by decide +kernel

end PlainSignature

open PlainSignature in
/-- A signature without braces leaves the end to the body. -/
theorem plainSignature_ends_with_body :
    (⟨"half", 1, 3, 1, 0⟩ : FunctionInfo) ∈ analyzeFunctions rust (scan rust content) ∧ declaration.Settled ∧
      3 = 1 + declaration.length := by
  have hf : (⟨"half", 1, 3, 1, 0⟩ : FunctionInfo) ∈ analyzeFunctions rust (scan rust content) := by decide +kernel
  have hsettled : declaration.Settled := .inl (by decide +kernel)
  exact ⟨hf, hsettled, (endLine_eq_iff (by decide) hf declaration).mpr hsettled⟩

namespace Destructured

def content : List Char := "function sum(\x7b\n  a, b\n\x7d) \x7b\n  if (a) \x7b return 1; \x7d\n  return b;\n\x7d".toList

/-- The function of a source that takes a parameter apart. -/
def declaration : Declaration deno ((scan deno content).map (·.code)) where
  code := "function sum(\x7b".toList
  rest := ["  a, b".toList, "\x7d) \x7b".toList, "  if (a) \x7b return 1; \x7d".toList, "  return b;".toList, "\x7d".toList]
  name := "sum".toList
  lead := "sum".toList
  signature := "(\x7b\n  a, b\n\x7d) ".toList
  body := "\n  if (a) \x7b return 1; \x7d\n  return b;\n".toList
  tail := []
  lines := by decide +kernel
  declared := by decide +kernel
  text := by decide +kernel
  named := List.suffix_rfl
  isSignature := by decide +kernel
  matched := by decide +kernel
  bodyMatched := by decide +kernel

end Destructured

open Destructured in
/-- A parameter that is taken apart over several lines ends the function: its body, with a decision in it, is left out. -/
theorem destructured_ends_early :
    analyzeFunctions deno (scan deno content) = [⟨"sum", 1, 3, 1, 0⟩] ∧ 1 + declaration.length = 6 := by
  exact ⟨by decide +kernel, by decide +kernel⟩

end QualityGate
