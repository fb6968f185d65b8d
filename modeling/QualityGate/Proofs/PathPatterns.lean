import Mathlib.Data.List.Forall2
import QualityGate.Glob
import QualityGate.Proofs.Matching

/-!
# What a file pattern describes

A pattern with stars is read from left to right as parts (`parts`), and each part stands for some texts (`Part.StandsFor`). It describes a
text that can be cut into pieces, one for each part. The matcher goes over the text and tries out where each piece may end; it accepts
exactly the texts that are described (`accepts_iff_describes`), so a path matches exactly if the pattern describes what follows its
start or one of its slashes (`matchesPattern_iff_describes`).
-/

namespace QualityGate

namespace Glob

/-! ## The language of a pattern -/

/-- A part of a pattern with stars: a double star with the slash behind it, another double star, a single star, or a character. -/
inductive Part where
  | directories
  | anything
  | withinSegment
  | char (c : Char)
  deriving DecidableEq, Repr

/-- The parts of a pattern, from left to right. -/
def parts : List Char → List Part
  | [] => []
  | '*' :: '*' :: '/' :: rest => .directories :: parts rest
  | '*' :: '*' :: rest => .anything :: parts rest
  | '*' :: rest => .withinSegment :: parts rest
  | c :: rest => .char c :: parts rest

/-- The texts that a part stands for. -/
def Part.StandsFor : Part → List Char → Prop
  | directories, piece => piece = [] ∨ ∃ above, piece = above ++ ['/']
  | anything, _ => True
  | withinSegment, piece => '/' ∉ piece
  | char c, piece => piece = [c]

/-- A text that can be cut into pieces that the parts stand for, one after the other. -/
def Spells (parts : List Part) (text : List Char) : Prop :=
  ∃ pieces, List.Forall₂ Part.StandsFor parts pieces ∧ text = pieces.flatten

/-- A text that a pattern with stars describes. -/
def Describes (pattern text : List Char) : Prop := Spells (parts pattern) text

/-- What follows the start of a path or one of its slashes. -/
def FromSegment (path suffix : List Char) : Prop := suffix = path ∨ ∃ above, path = above ++ '/' :: suffix

/-- A text without ends of lines. -/
def OnOneLine (text : List Char) : Prop := ∀ c ∈ text, isLineEnd c = false

instance (text : List Char) : Decidable (OnOneLine text) := List.decidableBAll (fun c => isLineEnd c = false) text

theorem OnOneLine.behind {piece rest : List Char} (h : OnOneLine (piece ++ rest)) : OnOneLine rest :=
  fun c hc => h c (List.mem_append_right _ hc)

theorem spells_nil {text : List Char} : Spells [] text ↔ text = [] := by
  constructor
  · rintro ⟨pieces, hpieces, rfl⟩
    cases hpieces
    rfl
  · rintro rfl
    exact ⟨[], .nil, rfl⟩

/-- The first piece is cut off, and the rest of the parts spell the rest of the text. -/
theorem spells_cons {part : Part} {more : List Part} {text : List Char} :
    Spells (part :: more) text ↔ ∃ piece rest, text = piece ++ rest ∧ part.StandsFor piece ∧ Spells more rest := by
  constructor
  · rintro ⟨pieces, hpieces, rfl⟩
    cases hpieces with
    | cons hfirst hothers => exact ⟨_, _, List.flatten_cons, hfirst, _, hothers, rfl⟩
  · rintro ⟨piece, rest, rfl, hfirst, pieces, hothers, rfl⟩
    exact ⟨piece :: pieces, .cons hfirst hothers, List.flatten_cons.symm⟩

/-! ## The ways that the matcher tries -/

/-- A continuation that is tried out accepts what is left behind a piece of the characters that pass. -/
theorem spread_iff {test : Char → Bool} {next : List Char → Bool} {text : List Char} :
    spread test next text = true ↔ ∃ piece rest, text = piece ++ rest ∧ (∀ c ∈ piece, test c = true) ∧ next rest = true := by
  induction text with
  | nil =>
    rw [spread]
    constructor
    · intro h
      exact ⟨[], [], rfl, List.forall_mem_nil _, h⟩
    · rintro ⟨piece, rest, htext, -, hnext⟩
      obtain ⟨-, rfl⟩ := List.append_eq_nil_iff.mp htext.symm
      exact hnext
  | cons c text ih =>
    rw [spread, Bool.or_eq_true, Bool.and_eq_true, ih]
    constructor
    · rintro (h | ⟨hc, piece, rest, rfl, hpiece, hnext⟩)
      · exact ⟨[], c :: text, rfl, List.forall_mem_nil _, h⟩
      · exact ⟨c :: piece, rest, rfl, List.forall_mem_cons.mpr ⟨hc, hpiece⟩, hnext⟩
    · rintro ⟨piece, rest, htext, hpiece, hnext⟩
      cases piece with
      | nil =>
        rw [List.nil_append] at htext
        exact .inl (htext ▸ hnext)
      | cons d piece =>
        obtain ⟨rfl, rfl⟩ := List.cons.inj htext
        obtain ⟨hc, hpiece⟩ := List.forall_mem_cons.mp hpiece
        exact .inr ⟨hc, piece, rest, rfl, hpiece, hnext⟩

/-- What is tried out behind each slash of a text accepts what is behind one of them. -/
theorem behindSlash_iff {tries next : List Char → Bool} {text : List Char} (hnil : tries [] = false)
    (hcons : ∀ c rest, c :: rest <:+ text → tries (c :: rest) = (decide (c = '/') && next rest || tries rest)) :
    tries text = true ↔ ∃ above rest, text = above ++ '/' :: rest ∧ next rest = true := by
  induction text with
  | nil => simp [hnil]
  | cons c text ih =>
    have hrest := ih fun d rest hsuffix => hcons d rest (hsuffix.trans (List.suffix_cons c text))
    rw [hcons c text List.suffix_rfl, Bool.or_eq_true, Bool.and_eq_true, decide_eq_true_eq, hrest]
    constructor
    · rintro (⟨rfl, hnext⟩ | ⟨above, rest, rfl, hnext⟩)
      · exact ⟨[], text, rfl, hnext⟩
      · exact ⟨c :: above, rest, rfl, hnext⟩
    · rintro ⟨above, rest, htext, hnext⟩
      cases above with
      | nil =>
        obtain ⟨rfl, rfl⟩ := List.cons.inj htext
        exact .inl ⟨rfl, hnext⟩
      | cons d above =>
        obtain ⟨rfl, rfl⟩ := List.cons.inj htext
        exact .inr ⟨above, rest, rfl, hnext⟩

/-- On one line, a continuation is tried out behind every slash. -/
theorem afterSlash_iff {next : List Char → Bool} {text : List Char} (hline : OnOneLine text) :
    afterSlash next text = true ↔ ∃ above rest, text = above ++ '/' :: rest ∧ next rest = true := by
  refine behindSlash_iff rfl ?_
  intro c rest hsuffix
  have hc : isLineEnd c = false := hline c (hsuffix.mem List.mem_cons_self)
  rw [afterSlash, hc, Bool.not_false, Bool.true_and]

/-- The pattern is tried out behind every slash of a path. -/
theorem starts_iff {pattern path : List Char} :
    acceptsFrom.starts pattern path = true ↔ ∃ above suffix, path = above ++ '/' :: suffix ∧ accepts pattern suffix = true :=
  behindSlash_iff rfl fun _ _ _ => rfl

/-- The matcher accepts a text on one line exactly if the pattern describes it. -/
theorem accepts_iff_describes {pattern text : List Char} (hline : OnOneLine text) :
    accepts pattern text = true ↔ Describes pattern text := by
  unfold Describes
  -- the matcher takes a pattern apart as `parts` does: `**/`, `**`, `*` and any other character
  fun_induction parts pattern generalizing text with
  | case1 =>
    rw [spells_nil, accepts, List.isEmpty_iff]
  | case2 rest ih =>
    rw [accepts, Bool.or_eq_true, afterSlash_iff hline, spells_cons, ih hline]
    constructor
    · rintro (hspells | ⟨above, suffix, rfl, haccepts⟩)
      · exact ⟨[], text, rfl, .inl rfl, hspells⟩
      · rw [List.append_cons] at hline ⊢
        exact ⟨above ++ ['/'], suffix, rfl, .inr ⟨above, rfl⟩, (ih hline.behind).mp haccepts⟩
    · rintro ⟨piece, suffix, rfl, rfl | ⟨above, rfl⟩, hspells⟩
      · exact .inl hspells
      · exact .inr ⟨above, suffix, (List.append_cons above '/' suffix).symm, (ih hline.behind).mpr hspells⟩
  | case3 rest hslash ih =>
    have haccepts : accepts ('*' :: '*' :: rest) text = spread (fun c => !isLineEnd c) (accepts rest) text := by
      rw [accepts]
      exact hslash
    rw [haccepts, spread_iff, spells_cons]
    constructor
    · rintro ⟨piece, suffix, rfl, -, haccepts⟩
      exact ⟨piece, suffix, rfl, trivial, (ih hline.behind).mp haccepts⟩
    · rintro ⟨piece, suffix, rfl, -, hspells⟩
      have hpiece : ∀ c ∈ piece, (!isLineEnd c) = true := fun c hc => by rw [hline c (List.mem_append_left _ hc), Bool.not_false]
      exact ⟨piece, suffix, rfl, hpiece, (ih hline.behind).mpr hspells⟩
  | case4 rest hstars hstar ih =>
    have haccepts : accepts ('*' :: rest) text = spread (· ≠ '/') (accepts rest) text := by
      rw [accepts]
      · exact hstars
      · exact hstar
    have hplain : ∀ piece : List Char, (∀ c ∈ piece, decide (c ≠ '/') = true) ↔ '/' ∉ piece := by
      intro piece
      simp only [decide_eq_true_eq]
      exact ⟨fun h hmem => h '/' hmem rfl, fun h c hc heq => h (heq ▸ hc)⟩
    rw [haccepts, spread_iff, spells_cons]
    constructor
    · rintro ⟨piece, suffix, rfl, hpiece, haccepts⟩
      exact ⟨piece, suffix, rfl, (hplain piece).mp hpiece, (ih hline.behind).mp haccepts⟩
    · rintro ⟨piece, suffix, rfl, hpiece, hspells⟩
      exact ⟨piece, suffix, rfl, (hplain piece).mpr hpiece, (ih hline.behind).mpr hspells⟩
  | case5 c rest hstars hpair hstar ih =>
    have haccepts : ∀ d others, accepts (c :: rest) (d :: others) = (d = c && accepts rest others) := by
      intro d others
      rw [accepts]
      · exact hstars
      · exact hpair
      · exact hstar
    rw [spells_cons]
    constructor
    · intro h
      cases text with
      | nil =>
        rw [accepts] at h
        · cases h
        · exact hstars
        · exact hpair
        · exact hstar
      | cons d others =>
        rw [haccepts, Bool.and_eq_true, decide_eq_true_eq] at h
        obtain ⟨rfl, hrest⟩ := h
        exact ⟨[d], others, rfl, rfl, (ih (List.forall_mem_cons.mp hline).2).mp hrest⟩
    · rintro ⟨piece, suffix, rfl, rfl, hspells⟩
      rw [List.singleton_append, haccepts, (ih hline.behind).mpr hspells, Bool.and_true, decide_eq_true_eq]

theorem acceptsFrom_iff {pattern path : List Char} (hline : OnOneLine path) :
    acceptsFrom pattern path = true ↔ ∃ suffix, FromSegment path suffix ∧ Describes pattern suffix := by
  rw [acceptsFrom, Bool.or_eq_true, starts_iff, accepts_iff_describes hline]
  constructor
  · rintro (hdescribes | ⟨above, suffix, rfl, haccepts⟩)
    · exact ⟨path, .inl rfl, hdescribes⟩
    · rw [List.append_cons] at hline
      exact ⟨suffix, .inr ⟨above, rfl⟩, (accepts_iff_describes hline.behind).mp haccepts⟩
  · rintro ⟨suffix, rfl | ⟨above, rfl⟩, hdescribes⟩
    · exact .inl hdescribes
    · rw [List.append_cons] at hline
      exact .inr ⟨above, suffix, rfl, (accepts_iff_describes hline.behind).mpr hdescribes⟩

end Glob

/-- A path on one line is on one line with forward slashes. -/
theorem onOneLine_normalChars {path : List Char} (h : Glob.OnOneLine path) : Glob.OnOneLine (Path.normalChars path) := by
  have hslashes : ∀ c ∈ path.map (fun c => if c = '\\' then '/' else c), isLineEnd c = false := by
    intro c hc
    obtain ⟨d, hd, rfl⟩ := List.mem_map.mp hc
    split
    · decide
    · exact h d hd
  intro c hc
  unfold Path.normalChars at hc
  split at hc
  · rename_i rest heq
    exact hslashes c (by rw [heq]; simp [hc])
  · exact hslashes c hc

/-- What is looked for in paths: a pattern without the blanks around it, with forward slashes. -/
def wantedOf (pattern : String) : List Char := Path.normalChars (trim pattern.toList)

/-- A path on one line matches a pattern with stars exactly if the pattern describes what follows the start of the path or one of its
slashes. A pattern without stars matches exactly the paths that contain it, when something is left of it without the blanks. -/
theorem matchesPattern_iff_describes (path pattern : String) :
    ('*' ∈ wantedOf pattern → Glob.OnOneLine path.toList →
        (matchesPattern path pattern = true ↔
          ∃ suffix, Glob.FromSegment (Path.normalChars path.toList) suffix ∧ Glob.Describes (wantedOf pattern) suffix)) ∧
      ('*' ∉ wantedOf pattern → wantedOf pattern ≠ [] →
        (matchesPattern path pattern = true ↔ wantedOf pattern <:+: Path.normalChars path.toList)) := by
  have hmatches : matchesPattern path pattern =
      if (wantedOf pattern).isEmpty then false
      else if (wantedOf pattern).contains '*' then Glob.acceptsFrom (wantedOf pattern) (Path.normalChars path.toList)
      else contains (Path.normalChars path.toList) (wantedOf pattern) := rfl
  rw [hmatches]
  constructor
  · intro hstar hline
    have hne : (wantedOf pattern).isEmpty = false := List.isEmpty_eq_false_iff.mpr (List.ne_nil_of_mem hstar)
    rw [hne, if_neg Bool.false_ne_true, if_pos (List.contains_iff_mem.mpr hstar)]
    exact Glob.acceptsFrom_iff (onOneLine_normalChars hline)
  · intro hstar hne
    have hempty : (wantedOf pattern).isEmpty = false := List.isEmpty_eq_false_iff.mpr hne
    rw [hempty, if_neg Bool.false_ne_true, if_neg fun hcontains => hstar (List.contains_iff_mem.mp hcontains)]
    exact contains_iff_isInfix

/-- Three stars are a double star and a single one, the signs of regular expressions are characters like others, and a path with
backslashes matches from one of its segments on. -/
theorem adjacentStars_described :
    Glob.parts (wantedOf " ./lib/***.min.* ") =
        "lib/".toList.map .char ++ [.anything, .withinSegment] ++ ".min.".toList.map .char ++ [.withinSegment] ∧
      (∃ suffix, Glob.FromSegment "src/lib/a/b.min.js".toList suffix ∧ Glob.Describes (wantedOf " ./lib/***.min.* ") suffix) ∧
      (¬∃ suffix, Glob.FromSegment "src/lib/a/bxmin.js".toList suffix ∧ Glob.Describes (wantedOf " ./lib/***.min.* ") suffix) ∧
      wantedOf "a+(b" <:+: "x/a+(b.rs".toList := by
  have hstar : '*' ∈ wantedOf " ./lib/***.min.* " := by decide
  have hwindows : Path.normalChars "src\\lib\\a/b.min.js".toList = "src/lib/a/b.min.js".toList := by decide +kernel
  have hplain : ∀ path ∈ ["src/lib/a/bxmin.js", "x/a+(b.rs"], Path.normalChars path.toList = path.toList := by decide +kernel
  refine ⟨by decide +kernel, ?_, ?_, ?_⟩
  · rw [← hwindows]
    exact ((matchesPattern_iff_describes "src\\lib\\a/b.min.js" _).1 hstar (by decide +kernel)).mp (by decide +kernel)
  · rw [← hplain _ List.mem_cons_self, ← (matchesPattern_iff_describes "src/lib/a/bxmin.js" _).1 hstar (by decide +kernel)]
    decide +kernel
  · rw [← hplain "x/a+(b.rs" (by simp)]
    exact ((matchesPattern_iff_describes "x/a+(b.rs" "a+(b").2 (by decide) (by decide)).mp (by decide +kernel)

end QualityGate
