import QualityGate.Text.Pattern
import QualityGate.Text.Search

/-!
# What a match is

A text stands in another exactly if it is found there. A pattern is matched by trying ways to go on until one lets the rest succeed.
`Matches` says what the ways are that may be tried; the one that is taken is among them (`takes_run`), so what holds of all of them
holds of every match found. Whether a match is found depends on the text ahead alone where the pattern does not look back
(`blind_run`). A pattern with something visible in it does not match among blanks (`Visible`).
-/

namespace QualityGate

/-! ## Text in text -/

/-- A text is found in another one when it is a part of it. -/
theorem indexOf?_isSome_iff {needle text : List Char} : (indexOf? needle text).isSome = true ↔ needle <:+: text := by
  induction text with
  | nil =>
    unfold indexOf?
    cases needle <;> simp
  | cons c rest ih =>
    unfold indexOf?
    rw [List.infix_cons_iff]
    split
    · rename_i hprefix
      exact iff_of_true rfl (.inl (List.isPrefixOf_iff_prefix.mp hprefix))
    · rename_i hprefix
      rw [Option.isSome_map, ih, or_iff_right fun h => hprefix (List.isPrefixOf_iff_prefix.mpr h)]

theorem contains_iff_isInfix {text needle : List Char} : contains text needle = true ↔ needle <:+: text := indexOf?_isSome_iff

namespace Pattern

/-! ## The ways to match -/

/-- A way for a pattern to match from one spot to another, with what its groups take on the way. How often a part may be repeated
is left open. -/
inductive Matches : Pattern → Spot → Groups → Spot → Groups → Prop
  | empty {s : Spot} {g : Groups} : Matches .empty s g s g
  | one {test : Char → Bool} {s : Spot} {g : Groups} {c : Char} {rest : List Char} (ahead : s.after = c :: rest)
      (passes : test c = true) : Matches (.one test) s g ⟨c :: s.before, rest⟩ g
  | wordEdge {s : Spot} {g : Groups} : Matches .wordEdge s g s g
  | textStart {s : Spot} {g : Groups} : Matches .textStart s g s g
  | textEnd {s : Spot} {g : Groups} : Matches .textEnd s g s g
  | lineStart {s : Spot} {g : Groups} : Matches .lineStart s g s g
  | lineEnd {s : Spot} {g : Groups} : Matches .lineEnd s g s g
  | seq {p q : Pattern} {s s' s'' : Spot} {g g' g'' : Groups} (first : Matches p s g s' g') (second : Matches q s' g' s'' g'') :
      Matches (.seq p q) s g s'' g''
  | left {p q : Pattern} {s s' : Spot} {g g' : Groups} (way : Matches p s g s' g') : Matches (.alt p q) s g s' g'
  | right {p q : Pattern} {s s' : Spot} {g g' : Groups} (way : Matches q s g s' g') : Matches (.alt p q) s g s' g'
  | enough {shortest : Bool} {least : Nat} {most : Option Nat} {body : Pattern} {s : Spot} {g : Groups} :
      Matches (.times shortest least most body) s g s g
  | again {shortest : Bool} {least : Nat} {most : Option Nat} {body : Pattern} {s s' s'' : Spot} {g g' g'' : Groups}
      (first : Matches body s g s' g') (others : Matches (.times shortest least most body) s' g' s'' g'') :
      Matches (.times shortest least most body) s g s'' g''
  | group {index : Nat} {body : Pattern} {s s' : Spot} {g g' : Groups} (way : Matches body s g s' g') :
      Matches (.group index body) s g s' ((index, s.textUpTo s') :: g')

/-- Repetitions go on with more of them. -/
theorem Matches.append {shortest : Bool} {least : Nat} {most : Option Nat} {body : Pattern} {s s' s'' : Spot} {g g' g'' : Groups}
    (first : Matches (.times shortest least most body) s g s' g') (more : Matches (.times shortest least most body) s' g' s'' g'') :
    Matches (.times shortest least most body) s g s'' g'' := by
  generalize hp : Pattern.times shortest least most body = p at first
  induction first with
  | enough =>
    cases hp
    exact more
  | again hone _ _ ih =>
    cases hp
    exact .again hone (ih more rfl)
  | _ => cases hp

/-- A match goes forward: it ends where it starts or behind. -/
theorem Matches.suffix {p : Pattern} {s s' : Spot} {g g' : Groups} (h : Matches p s g s' g') : s'.after <:+ s.after := by
  induction h with
  | one hahead _ => exact hahead ▸ List.suffix_cons _ _
  | seq _ _ ihfirst ihsecond => exact ihsecond.trans ihfirst
  | again _ _ ihfirst ihothers => exact ihothers.trans ihfirst
  | left _ ih | right _ ih | group _ ih => exact ih
  | _ => exact List.suffix_rfl

/-- Whether a pattern holds a group. -/
def captures : Pattern → Bool
  | seq p q | alt p q => captures p || captures q
  | times _ _ _ body => captures body
  | group _ _ => true
  | _ => false

/-- A pattern without groups leaves those matched so far as they are. -/
theorem Matches.groups_eq {p : Pattern} {s s' : Spot} {g g' : Groups} (h : Matches p s g s' g') (hp : p.captures = false) :
    g' = g := by
  induction h with
  | seq _ _ ihfirst ihsecond =>
    rw [captures, Bool.or_eq_false_iff] at hp
    exact (ihsecond hp.2).trans (ihfirst hp.1)
  | left _ ih =>
    rw [captures, Bool.or_eq_false_iff] at hp
    exact ih hp.1
  | right _ ih =>
    rw [captures, Bool.or_eq_false_iff] at hp
    exact ih hp.2
  | again _ _ ihfirst ihothers => exact (ihothers hp).trans (ihfirst hp)
  | group => cases hp
  | _ => rfl

/-- A match of a fixed text has the text behind it. -/
theorem Matches.of_lit {text : String} {s s' : Spot} {g g' : Groups} (h : Matches (lit text) s g s' g') :
    s.after = text.toList ++ s'.after ∧ s'.before = text.toList.reverse ++ s.before ∧ g' = g := by
  unfold lit at h
  generalize text.toList = chars at h
  induction chars generalizing s g with
  | nil =>
    cases h
    exact ⟨rfl, rfl, rfl⟩
  | cons c chars ih =>
    have hseq : ∃ s₁ g₁, Matches (Pattern.one (· = c)) s g s₁ g₁ ∧
        Matches (all (chars.map fun c => Pattern.one (· = c))) s₁ g₁ s' g' := by
      cases chars with
      | nil => exact ⟨s', g', h, .empty⟩
      | cons d chars =>
        cases h with
        | seq hfirst hsecond => exact ⟨_, _, hfirst, hsecond⟩
    obtain ⟨s₁, g₁, hfirst, hsecond⟩ := hseq
    obtain ⟨hafter, hbefore, hgroups⟩ := ih hsecond
    cases hfirst with
    | one hahead hpasses =>
      rw [decide_eq_true_eq] at hpasses
      subst hpasses
      refine ⟨?_, ?_, hgroups⟩
      · rw [hahead, List.cons_append]
        exact congrArg _ hafter
      · rw [hbefore, List.reverse_cons, List.append_assoc]
        rfl

/-- A match of one of some fixed texts is a match of that text. -/
theorem Matches.of_words {texts : List String} {s s' : Spot} {g g' : Groups} (h : Matches (words texts) s g s' g') :
    ∃ text ∈ texts, Matches (lit text) s g s' g' := by
  unfold words at h
  induction texts with
  | nil =>
    cases h with
    | one _ hpasses => cases hpasses
  | cons text texts ih =>
    cases texts with
    | nil => exact ⟨text, List.mem_cons_self, h⟩
    | cons next texts =>
      cases h with
      | left hway => exact ⟨text, List.mem_cons_self, hway⟩
      | right hway =>
        obtain ⟨other, hother, hway⟩ := ih hway
        exact ⟨other, List.mem_cons_of_mem _ hother, hway⟩

/-! ## The way that is taken -/

section Taken

variable {α : Type}

/-- A step that goes on behind a match of a pattern, if it goes on. -/
def Takes (p : Pattern) (step : Step α) : Prop :=
  ∀ s g next r, step s g next = some r → ∃ s' g', Matches p s g s' g' ∧ next s' g' = some r

variable {shortest : Bool} {least : Nat} {most : Option Nat} {body : Pattern} {step : Step α}

/-- One repetition and those after it. -/
theorem Takes.cons {more : Step α} (hstep : Takes body step) (hmore : Takes (.times shortest least most body) more) :
    Takes (.times shortest least most body) fun s g next => step s g fun s' g' => more s' g' next := by
  intro s g next r hr
  obtain ⟨s', g', hfirst, hr⟩ := hstep s g _ r hr
  obtain ⟨s'', g'', hothers, hr⟩ := hmore s' g' next r hr
  exact ⟨s'', g'', .again hfirst hothers, hr⟩

/-- The required rounds of a repetition go on behind a match of it. -/
theorem Takes.exactly (h : Takes body step) (n : Nat) : Takes (.times shortest least most body) (exactly step n) := by
  induction n with
  | zero => exact fun s g next r hr => ⟨s, g, .enough, hr⟩
  | succ n ih => exact h.cons ih

/-- As many rounds as can be made go on behind a match of the repetition. -/
theorem Takes.greedy (h : Takes body step) (fuel : Nat) : Takes (.times shortest least most body) (greedy step fuel) := by
  induction fuel with
  | zero => exact fun s g next r hr => ⟨s, g, .enough, hr⟩
  | succ fuel ih =>
    intro s g next r hr
    rw [Pattern.greedy, Option.orElse_eq_orElse, Option.orElse_eq_or, Option.or_eq_some_iff] at hr
    rcases hr with hr | ⟨-, hr⟩
    · obtain ⟨s', g', hfirst, hr⟩ := h s g _ r hr
      split at hr
      · obtain ⟨s'', g'', hothers, hr⟩ := ih s' g' next r hr
        exact ⟨s'', g'', .again hfirst hothers, hr⟩
      · cases hr
    · exact ⟨s, g, .enough, hr⟩

/-- As few rounds as will do go on behind a match of the repetition. -/
theorem Takes.sparing (h : Takes body step) (fuel : Nat) : Takes (.times shortest least most body) (sparing step fuel) := by
  induction fuel with
  | zero => exact fun s g next r hr => ⟨s, g, .enough, hr⟩
  | succ fuel ih =>
    intro s g next r hr
    rw [Pattern.sparing, Option.orElse_eq_orElse, Option.orElse_eq_or, Option.or_eq_some_iff] at hr
    rcases hr with hr | ⟨-, hr⟩
    · exact ⟨s, g, .enough, hr⟩
    · obtain ⟨s', g', hfirst, hr⟩ := h s g _ r hr
      split at hr
      · obtain ⟨s'', g'', hothers, hr⟩ := ih s' g' next r hr
        exact ⟨s'', g'', .again hfirst hothers, hr⟩
      · cases hr

/-- What follows a pattern is matched behind one of the ways to match the pattern. -/
theorem takes_run (p : Pattern) : Takes p (run p : Step α) := by
  induction p with
  | empty => exact fun s g next r hr => ⟨s, g, .empty, hr⟩
  | one test =>
    intro s g next r hr
    rw [run] at hr
    split at hr
    · rename_i c rest hahead
      split at hr
      · exact ⟨_, g, .one hahead ‹_›, hr⟩
      · cases hr
    · cases hr
  | wordEdge | textStart | textEnd | lineStart | lineEnd =>
    intro s g next r hr
    rw [run] at hr
    split at hr
    · exact ⟨s, g, by constructor, hr⟩
    · cases hr
  | seq p q ihp ihq =>
    intro s g next r hr
    rw [run] at hr
    obtain ⟨s', g', hfirst, hr⟩ := ihp s g _ r hr
    obtain ⟨s'', g'', hsecond, hr⟩ := ihq s' g' next r hr
    exact ⟨s'', g'', .seq hfirst hsecond, hr⟩
  | alt p q ihp ihq =>
    intro s g next r hr
    rw [run, Option.orElse_eq_orElse, Option.orElse_eq_or, Option.or_eq_some_iff] at hr
    rcases hr with hr | ⟨-, hr⟩
    · obtain ⟨s', g', hway, hr⟩ := ihp s g next r hr
      exact ⟨s', g', .left hway, hr⟩
    · obtain ⟨s', g', hway, hr⟩ := ihq s g next r hr
      exact ⟨s', g', .right hway, hr⟩
  | times shortest least most body ih =>
    intro s g next r hr
    rw [run] at hr
    obtain ⟨s', g', hleast, hr⟩ := ih.exactly least s g _ r hr
    dsimp only at hr
    split at hr
    · obtain ⟨s'', g'', hmore, hr⟩ := ih.sparing _ s' g' next r hr
      exact ⟨s'', g'', hleast.append hmore, hr⟩
    · obtain ⟨s'', g'', hmore, hr⟩ := ih.greedy _ s' g' next r hr
      exact ⟨s'', g'', hleast.append hmore, hr⟩
  | group index body ih =>
    intro s g next r hr
    rw [run] at hr
    obtain ⟨s', g', hway, hr⟩ := ih s g _ r hr
    exact ⟨s', _, .group hway, hr⟩

end Taken

/-- A match that is found is one of the ways, at a spot of the text. -/
theorem exists_matches_of_foundFrom {p : Pattern} {before text : List Char} {m : Found} (h : foundFrom p before text = some m) :
    m.start.after <:+ text ∧ Matches p m.start [] m.stop m.groups := by
  have hat : ∀ {s : Spot}, foundAt p s = some m → s = m.start ∧ Matches p m.start [] m.stop m.groups := by
    intro s hs
    obtain ⟨s', g', hway, hm⟩ := takes_run p s [] _ m hs
    obtain rfl := Option.some.inj hm
    exact ⟨rfl, hway⟩
  induction text generalizing before with
  | nil =>
    obtain ⟨hstart, hway⟩ := hat h
    exact ⟨hstart ▸ List.suffix_rfl, hway⟩
  | cons c rest ih =>
    rw [foundFrom, Option.orElse_eq_orElse, Option.orElse_eq_or, Option.or_eq_some_iff] at h
    rcases h with h | ⟨-, h⟩
    · obtain ⟨hstart, hway⟩ := hat h
      exact ⟨hstart ▸ List.suffix_rfl, hway⟩
    · obtain ⟨hsuffix, hway⟩ := ih h
      exact ⟨hsuffix.trans (List.suffix_cons c rest), hway⟩

/-! ## Patterns with something visible in them -/

/-- A pattern that matches only where more than blanks is ahead. -/
def Visible (p : Pattern) : Prop := ∀ s g s' g', Matches p s g s' g' → ∃ c ∈ s.after, isBlank c = false

/-- A test that no blank passes needs more than blanks ahead. -/
theorem visible_one {test : Char → Bool} (h : ∀ c, test c = true → isBlank c = false) : Visible (.one test) := by
  intro s g s' g' hway
  cases hway with
  | @one _ _ _ c rest hahead hpasses => exact ⟨c, hahead ▸ List.mem_cons_self, h c hpasses⟩

/-- A text that is not blank needs more than blanks ahead. -/
theorem visible_lit {text : String} (h : text.toList.all isBlank = false) : Visible (lit text) := by
  intro s g s' g' hway
  obtain ⟨hahead, -, -⟩ := hway.of_lit
  obtain ⟨c, hc, hvisible⟩ := List.all_eq_false.mp h
  exact ⟨c, hahead ▸ List.mem_append_left _ hc, by simpa using hvisible⟩

/-- Texts to choose from that are not blank need more than blanks ahead. -/
theorem visible_words {texts : List String} (h : ∀ text ∈ texts, text.toList.all isBlank = false) : Visible (words texts) := by
  intro s g s' g' hway
  obtain ⟨text, htext, hlit⟩ := hway.of_words
  exact visible_lit (h text htext) s g s' g' hlit

/-- Two patterns in a row need what the first needs. -/
theorem Visible.first {p q : Pattern} (h : Visible p) : Visible (.seq p q) := by
  intro s g s' g' hway
  cases hway with
  | seq hfirst _ => exact h _ _ _ _ hfirst

/-- Two patterns in a row need what the second needs. -/
theorem Visible.second {p q : Pattern} (h : Visible q) : Visible (.seq p q) := by
  intro s g s' g' hway
  cases hway with
  | seq hfirst hsecond =>
    obtain ⟨c, hc, hvisible⟩ := h _ _ _ _ hsecond
    exact ⟨c, hfirst.suffix.subset hc, hvisible⟩

/-- A group needs what its pattern needs. -/
theorem Visible.group {index : Nat} {p : Pattern} (h : Visible p) : Visible (.group index p) := by
  intro s g s' g' hway
  cases hway with
  | group hway => exact h _ _ _ _ hway

/-- A text in which such a pattern is found is more than blanks. -/
theorem Visible.of_find {p : Pattern} (h : Visible p) {text : List Char} {m : Found} (hm : p.find text = some m) :
    ∃ c ∈ text, isBlank c = false := by
  obtain ⟨hsuffix, hway⟩ := exists_matches_of_foundFrom hm
  obtain ⟨c, hc, hvisible⟩ := h _ _ _ _ hway
  exact ⟨c, hsuffix.subset hc, hvisible⟩

/-! ## Patterns that do not look back -/

/-- Whether a pattern asks what stands before a spot. -/
def looksBack : Pattern → Bool
  | wordEdge | textStart | lineStart => true
  | seq p q | alt p q => looksBack p || looksBack q
  | times _ _ _ body | group _ body => looksBack body
  | _ => false

section Blind

variable {α : Type}

/-- Two ways to go on that do so alike from spots with the same text ahead. -/
def Alike (next₁ next₂ : Next α) : Prop :=
  ∀ s₁ s₂ g₁ g₂, s₁.after = s₂.after → (next₁ s₁ g₁).isSome = (next₂ s₂ g₂).isSome

/-- A step whose success depends on the text ahead and on what follows alone. -/
def Blind (step : Step α) : Prop :=
  ∀ next₁ next₂, Alike next₁ next₂ → Alike (fun s g => step s g next₁) (fun s g => step s g next₂)

/-- Going on alike where some of the text ahead is used up. -/
theorem Alike.shorter {next₁ next₂ : Next α} (h : Alike next₁ next₂) (length : Nat) :
    Alike (fun s g => if s.after.length < length then next₁ s g else none)
      (fun s g => if s.after.length < length then next₂ s g else none) := by
  intro s₁ s₂ g₁ g₂ hs
  dsimp only
  rw [hs]
  split
  · exact h s₁ s₂ g₁ g₂ hs
  · rfl

theorem isSome_orElse (x y : Option α) : (x <|> y).isSome = (x.isSome || y.isSome) := by
  cases x <;> rfl

/-- The required rounds look no further back than one. -/
theorem Blind.exactly {step : Step α} (h : Blind step) (n : Nat) : Blind (exactly step n) := by
  induction n with
  | zero => exact fun next₁ next₂ hnext => hnext
  | succ n ih => exact fun next₁ next₂ hnext => h _ _ (ih next₁ next₂ hnext)

/-- As many rounds as can be made look no further back than one. -/
theorem Blind.greedy {step : Step α} (h : Blind step) (fuel : Nat) : Blind (greedy step fuel) := by
  induction fuel with
  | zero => exact fun next₁ next₂ hnext => hnext
  | succ fuel ih =>
    intro next₁ next₂ hnext s₁ s₂ g₁ g₂ hs
    have hmore := (ih next₁ next₂ hnext).shorter s₁.after.length
    simp only [Pattern.greedy, isSome_orElse]
    rw [← hs, hnext s₁ s₂ g₁ g₂ hs]
    exact congrArg (· || _) (h _ _ hmore s₁ s₂ g₁ g₂ hs)

/-- As few rounds as will do look no further back than one. -/
theorem Blind.sparing {step : Step α} (h : Blind step) (fuel : Nat) : Blind (sparing step fuel) := by
  induction fuel with
  | zero => exact fun next₁ next₂ hnext => hnext
  | succ fuel ih =>
    intro next₁ next₂ hnext s₁ s₂ g₁ g₂ hs
    have hmore := (ih next₁ next₂ hnext).shorter s₁.after.length
    simp only [Pattern.sparing, isSome_orElse]
    rw [← hs, hnext s₁ s₂ g₁ g₂ hs]
    exact congrArg (_ || ·) (h _ _ hmore s₁ s₂ g₁ g₂ hs)

/-- A pattern that does not look back matches alike whatever stands before it. -/
theorem blind_run {p : Pattern} (hp : p.looksBack = false) : Blind (run p : Step α) := by
  induction p with
  | empty => exact fun next₁ next₂ hnext => hnext
  | one test =>
    intro next₁ next₂ hnext s₁ s₂ g₁ g₂ hs
    simp only [run, hs]
    cases s₂.after with
    | nil => rfl
    | cons c rest =>
      dsimp only
      split
      · exact hnext _ _ _ _ rfl
      · rfl
  | textEnd =>
    intro next₁ next₂ hnext s₁ s₂ g₁ g₂ hs
    simp only [run, hs]
    cases s₂.after.isEmpty with
    | true => exact hnext s₁ s₂ g₁ g₂ hs
    | false => rfl
  | lineEnd =>
    intro next₁ next₂ hnext s₁ s₂ g₁ g₂ hs
    have hend : s₁.atLineEnd = s₂.atLineEnd := by rw [Spot.atLineEnd, Spot.atLineEnd, hs]
    simp only [run, hend]
    cases s₂.atLineEnd with
    | true => exact hnext s₁ s₂ g₁ g₂ hs
    | false => rfl
  | wordEdge | textStart | lineStart => cases hp
  | seq p q ihp ihq =>
    rw [looksBack, Bool.or_eq_false_iff] at hp
    exact fun next₁ next₂ hnext => ihp hp.1 _ _ (ihq hp.2 next₁ next₂ hnext)
  | alt p q ihp ihq =>
    rw [looksBack, Bool.or_eq_false_iff] at hp
    intro next₁ next₂ hnext s₁ s₂ g₁ g₂ hs
    simp only [run, isSome_orElse]
    rw [ihp hp.1 next₁ next₂ hnext s₁ s₂ g₁ g₂ hs, ihq hp.2 next₁ next₂ hnext s₁ s₂ g₁ g₂ hs]
  | times shortest least most body ih =>
    refine fun next₁ next₂ hnext => (ih hp).exactly least _ _ fun s₁ s₂ g₁ g₂ hs => ?_
    rw [hs]
    cases shortest with
    | true => exact (ih hp).sparing _ next₁ next₂ hnext s₁ s₂ g₁ g₂ hs
    | false => exact (ih hp).greedy _ next₁ next₂ hnext s₁ s₂ g₁ g₂ hs
  | group index body ih =>
    intro next₁ next₂ hnext s₁ s₂ g₁ g₂ hs
    exact ih hp (fun s' g' => next₁ s' ((index, s₁.textUpTo s') :: g')) (fun s' g' => next₂ s' ((index, s₂.textUpTo s') :: g'))
      (fun s₁' s₂' _ _ hs' => hnext s₁' s₂' _ _ hs') s₁ s₂ g₁ g₂ hs

end Blind

/-- A pattern of which it matters, of what stands before a spot, whether a word may go on from there and nothing else. -/
def EdgeOnly (p : Pattern) : Prop :=
  ∀ before₁ before₂ text, before₁.head?.any isWordChar = before₂.head?.any isWordChar →
    (foundAt p ⟨before₁, text⟩).isSome = (foundAt p ⟨before₂, text⟩).isSome

/-- The edge of a word, and then a pattern that does not look back. -/
theorem edgeOnly_seq {body : Pattern} (hbody : body.looksBack = false) : EdgeOnly (.seq .wordEdge body) := by
  have hat : ∀ s : Spot, (foundAt (.seq .wordEdge body) s).isSome =
      (s.atWordEdge && (run body s [] fun s' g => some (Found.mk s s' g)).isSome) := by
    intro s
    simp only [foundAt, run]
    cases s.atWordEdge <;> rfl
  intro before₁ before₂ text h
  have hedge : (Spot.mk before₁ text).atWordEdge = (Spot.mk before₂ text).atWordEdge := by
    rw [Spot.atWordEdge, Spot.atWordEdge, h]
  have hblind : Blind (run body : Step Found) := blind_run hbody
  have hbody := hblind (fun s' g => some (Found.mk ⟨before₁, text⟩ s' g)) (fun s' g => some (Found.mk ⟨before₂, text⟩ s' g))
    (fun _ _ _ _ _ => rfl) ⟨before₁, text⟩ ⟨before₂, text⟩ [] [] rfl
  dsimp only at hbody
  rw [hat, hat, hedge, hbody]

/-- A pattern is found here, or from the next character on. -/
theorem isSome_foundFrom_cons (p : Pattern) (before : List Char) (c : Char) (rest : List Char) :
    (foundFrom p before (c :: rest)).isSome = ((foundAt p ⟨before, c :: rest⟩).isSome || (foundFrom p (c :: before) rest).isSome) :=
  isSome_orElse _ _

/-- Such a pattern is found alike behind texts that leave a word alike open. -/
theorem EdgeOnly.isSome_foundFrom {p : Pattern} (hp : EdgeOnly p) {before₁ before₂ : List Char} (text : List Char)
    (h : before₁.head?.any isWordChar = before₂.head?.any isWordChar) :
    (foundFrom p before₁ text).isSome = (foundFrom p before₂ text).isSome := by
  induction text generalizing before₁ before₂ with
  | nil => exact hp before₁ before₂ [] h
  | cons c rest ih =>
    have hrest : (foundFrom p (c :: before₁) rest).isSome = (foundFrom p (c :: before₂) rest).isSome := ih rfl
    rw [isSome_foundFrom_cons, isSome_foundFrom_cons, hp before₁ before₂ _ h, hrest]

/-- Such a pattern occurs behind a character that is no part of a word. -/
theorem EdgeOnly.occurs_cons {p : Pattern} (hp : EdgeOnly p) {c : Char} {text : List Char} (hc : isWordChar c = false)
    (h : p.occurs text = true) : p.occurs (c :: text) = true := by
  have hedge : [c].head?.any isWordChar = ([] : List Char).head?.any isWordChar := by simpa using hc
  have hrest : (foundFrom p [c] text).isSome = true := (hp.isSome_foundFrom text hedge).trans h
  rw [occurs, find, isSome_foundFrom_cons, hrest, Bool.or_true]

end Pattern

end QualityGate
