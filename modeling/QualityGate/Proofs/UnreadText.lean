import QualityGate.Proofs.Matching

/-!
# Text that a pattern does not read

A pattern that takes up characters and asks for nothing else goes on alike in two texts that differ only in how they end, as long as it
does not read into either end: none of its tests passes the first character there, or what follows the pattern fails behind it
(`run_agree`). Repetitions whose end is marked are followed to that mark (`run_many_eq`), so a fixed form of text leads to one spot.
-/

namespace QualityGate.Pattern

/-! ## Where a match is found -/

/-- A match that is found starts at a spot of the text, and is the preferred one there. -/
theorem exists_foundAt_of_foundFrom {p : Pattern} {before text : List Char} {m : Found} (h : foundFrom p before text = some m) :
    ∃ done rest, text = done ++ rest ∧ foundAt p ⟨done.reverse ++ before, rest⟩ = some m := by
  induction text generalizing before with
  | nil => exact ⟨[], [], rfl, h⟩
  | cons c text ih =>
    rw [foundFrom, Option.orElse_eq_orElse, Option.orElse_eq_or, Option.or_eq_some_iff] at h
    rcases h with h | ⟨-, h⟩
    · exact ⟨[], c :: text, rfl, h⟩
    · obtain ⟨done, rest, rfl, hat⟩ := ih h
      refine ⟨c :: done, rest, rfl, ?_⟩
      rw [List.reverse_cons, List.append_assoc]
      exact hat

/-- A pattern that matches at a spot of a text is found in the text. -/
theorem isSome_foundFrom_append {p : Pattern} {before done rest : List Char}
    (h : (foundAt p ⟨done.reverse ++ before, rest⟩).isSome = true) : (foundFrom p before (done ++ rest)).isSome = true := by
  induction done generalizing before with
  | nil =>
    cases rest with
    | nil => exact h
    | cons c rest =>
      rw [List.nil_append, isSome_foundFrom_cons, Bool.or_eq_true]
      exact .inl h
  | cons c done ih =>
    rw [List.cons_append, isSome_foundFrom_cons, Bool.or_eq_true]
    rw [List.reverse_cons, List.append_assoc] at h
    exact .inr (ih h)

/-- A search begins where it would find nothing before. -/
theorem foundFrom_append {p : Pattern} {before done rest : List Char}
    (h : ∀ taken more, done = taken ++ more → more ≠ [] → foundAt p ⟨taken.reverse ++ before, more ++ rest⟩ = none) :
    foundFrom p before (done ++ rest) = foundFrom p (done.reverse ++ before) rest := by
  induction done generalizing before with
  | nil => rfl
  | cons c done ih =>
    have hnone : foundAt p ⟨before, c :: done ++ rest⟩ = none := h [] (c :: done) rfl (List.cons_ne_nil _ _)
    have hrest := ih fun taken more hdone hmore => by
      have := h (c :: taken) more (congrArg (c :: ·) hdone) hmore
      rwa [List.reverse_cons, List.append_assoc] at this
    rw [List.cons_append, foundFrom, ← List.cons_append, hnone, List.reverse_cons, List.append_assoc]
    exact hrest

/-- A pattern is found where it matches at once. -/
theorem foundFrom_of_foundAt {p : Pattern} {before text : List Char} {m : Found} (h : foundAt p ⟨before, text⟩ = some m) :
    foundFrom p before text = some m := by
  cases text with
  | nil => exact h
  | cons c rest =>
    rw [foundFrom, h]
    rfl

/-- A pattern occurs in a text when it matches somewhere. -/
theorem occurs_iff {p : Pattern} {text : List Char} :
    p.occurs text = true ↔ ∃ done rest, text = done ++ rest ∧ (foundAt p ⟨done.reverse, rest⟩).isSome = true := by
  constructor
  · intro h
    obtain ⟨m, hm⟩ := Option.isSome_iff_exists.mp h
    obtain ⟨done, rest, htext, hat⟩ := exists_foundAt_of_foundFrom hm
    rw [List.append_nil] at hat
    exact ⟨done, rest, htext, by rw [hat, Option.isSome_some]⟩
  · rintro ⟨done, rest, rfl, hat⟩
    refine isSome_foundFrom_append ?_
    rwa [List.append_nil]

/-- A pattern that begins at the start of the text matches there or nowhere. -/
theorem find_textStart (p : Pattern) (text : List Char) : (seq textStart p).find text = foundAt (seq textStart p) ⟨[], text⟩ := by
  have hlater : ∀ (text : List Char) (c : Char) (before : List Char), foundFrom (seq textStart p) (c :: before) text = none := by
    intro text
    induction text with
    | nil => exact fun _ _ => rfl
    | cons d text ih => exact fun c before => by rw [foundFrom, ih]; rfl
  cases text with
  | nil => rfl
  | cons c text =>
    rw [find, foundFrom, hlater, Option.orElse_eq_orElse, Option.orElse_eq_or, Option.or_none]

/-! ## Texts that end differently -/

/-- Whether some test of a pattern passes a character. -/
def reads (c : Char) : Pattern → Bool
  | one test => test c
  | seq p q | alt p q => reads c p || reads c q
  | times _ _ _ body | group _ body => reads c body
  | _ => false

/-- Whether a pattern asks nothing of the text ahead but the characters that it takes up, and takes up as many as it can. -/
def takesOnly : Pattern → Bool
  | wordEdge | textEnd | lineStart | lineEnd => false
  | seq p q | alt p q => takesOnly p && takesOnly q
  | times shortest _ _ body => !shortest && takesOnly body
  | group _ body => takesOnly body
  | _ => true

/-- How many repetitions are tried at most behind the required ones. -/
def repetitions (least : Nat) (most : Option Nat) (s : Spot) : Nat :=
  match most with
  | some most => min (most - least) s.after.length
  | none => s.after.length

/-- A repetition makes the required rounds, and then as many as it can. -/
theorem run_times {α : Type} (least : Nat) (most : Option Nat) (body : Pattern) (s : Spot) (groups : Groups) (next : Next α) :
    run (.times false least most body) s groups next =
      exactly (run body) least s groups fun s' groups' => greedy (run body) (repetitions least most s') s' groups' next := by
  cases most <;> rfl

section Tails

variable {α β : Type}

/-- Two ways to go on that come to the same, as `f` tells it, ahead of texts that differ in their ends alone. -/
def Agree (f : α → β) (tail tail' : List Char) (next next' : Next α) : Prop :=
  ∀ before text groups, (next ⟨before, text ++ tail⟩ groups).map f = (next' ⟨before, text ++ tail'⟩ groups).map f

/-- A way to go on that fails behind the start of an end. -/
def FailsBehind (tail : List Char) (next : Next α) : Prop :=
  ∀ s groups, s.after <:+ tail → s.after ≠ tail → next s groups = none

/-- A pattern reads nothing of an end, or nothing comes of it. -/
def Unread (p : Pattern) (tail : List Char) (next : Next α) : Prop :=
  (∀ c ∈ tail.head?, p.reads c = false) ∨ FailsBehind tail next

/-- A step before it leaves a way to go on failing behind the start of an end. -/
theorem FailsBehind.step {p : Pattern} {step : Step α} {tail : List Char} {next : Next α} (h : FailsBehind tail next)
    (hstep : Takes p step) : FailsBehind tail fun s groups => step s groups next := by
  intro s groups hsuffix hne
  rw [Option.eq_none_iff_forall_ne_some]
  intro r hr
  obtain ⟨s', groups', hway, hnext⟩ := hstep s groups next r hr
  have hbehind : s'.after ≠ tail := by
    intro heq
    exact hne (hsuffix.eq_of_length (Nat.le_antisymm hsuffix.length_le (heq ▸ hway.suffix.length_le)))
  rw [h s' groups' (hway.suffix.trans hsuffix) hbehind] at hnext
  cases hnext

/-- A pattern that reads nothing of an end does so before a step of its own. -/
theorem Unread.step {body p : Pattern} {step : Step α} {tail : List Char} {next : Next α} (h : Unread body tail next)
    (hstep : Takes p step) : Unread body tail fun s groups => step s groups next :=
  h.imp id fun hfails => hfails.step hstep

/-- The repetitions that go on where some of the text ahead is used up fail where going on does. -/
theorem Unread.shorter {body : Pattern} {tail : List Char} {next : Next α} (h : Unread body tail next) (length : Nat) :
    Unread body tail fun s groups => if s.after.length < length then next s groups else none := by
  refine h.imp id fun hfails s groups hsuffix hne => ?_
  dsimp only
  rw [hfails s groups hsuffix hne, ite_self]

/-- Two ways to go on agree where both are stopped that take nothing. -/
theorem Agree.shorter {f : α → β} {tail tail' : List Char} {next next' : Next α} (h : Agree f tail tail' next next')
    (text : List Char) :
    Agree f tail tail' (fun s groups => if s.after.length < (text ++ tail).length then next s groups else none)
      (fun s groups => if s.after.length < (text ++ tail').length then next' s groups else none) := by
  intro before more groups
  simp only [List.length_append, Nat.add_lt_add_iff_right]
  split
  · exact h before more groups
  · rfl

/-- A step that goes on alike ahead of different ends where it reads neither of them. -/
def Parallel (f : α → β) (body : Pattern) (step : Step α) : Prop :=
  ∀ tail tail' next next', Unread body tail next → Unread body tail' next' → Agree f tail tail' next next' →
    Agree f tail tail' (fun s groups => step s groups next) fun s groups => step s groups next'

variable {f : α → β} {body : Pattern} {step : Step α}

/-- Steps that go on alike do so as many times as are required. -/
theorem Parallel.exactly (h : Parallel f body step) (hstep : Takes body step) (n : Nat) :
    Parallel f body (exactly step n) := by
  induction n with
  | zero => exact fun _ _ _ _ _ _ hnext => hnext
  | succ n ih =>
    intro tail tail' next next' hunread hunread' hnext
    have htakes : Takes (.times false 0 none body) (Pattern.exactly step n) := hstep.exactly n
    exact h tail tail' _ _ (hunread.step htakes) (hunread'.step htakes) (ih tail tail' next next' hunread hunread' hnext)

/-- Steps that go on alike do so as often as they can. -/
theorem Parallel.greedy (h : Parallel f body step) (hstep : Takes body step) (fuel : Nat) :
    Parallel f body (greedy step fuel) := by
  induction fuel with
  | zero => exact fun _ _ _ _ _ _ hnext => hnext
  | succ fuel ih =>
    intro tail tail' next next' hunread hunread' hnext before text groups
    have htakes : Takes (.times false 0 none body) (Pattern.greedy step fuel) := hstep.greedy fuel
    have hmore := h tail tail' _ _ ((hunread.step htakes).shorter (text ++ tail).length)
      ((hunread'.step htakes).shorter (text ++ tail').length)
      ((ih tail tail' next next' hunread hunread' hnext).shorter text) before text groups
    dsimp only at hmore
    simp only [Pattern.greedy, Option.orElse_eq_orElse, Option.orElse_eq_or, Option.map_or]
    rw [hmore, hnext before text groups]

/-- More repetitions than there are characters ahead are never tried. -/
theorem greedy_of_le (hstep : Takes body step) {s : Spot} {n m : Nat} (hn : s.after.length ≤ n) (hm : s.after.length ≤ m)
    (groups : Groups) (next : Next α) : greedy step n s groups next = greedy step m s groups next := by
  have hnothing : ∀ s : Spot, s.after.length = 0 → ∀ (k : Nat) (groups : Groups), greedy step k s groups next = next s groups := by
    intro s hempty k groups
    cases k with
    | zero => rfl
    | succ k =>
      have hnone : (step s groups fun s' groups' =>
          if s'.after.length < s.after.length then greedy step k s' groups' next else none) = none := by
        rw [Option.eq_none_iff_forall_ne_some]
        intro r hr
        obtain ⟨s', groups', -, hnext⟩ := hstep s groups _ r hr
        rw [hempty, if_neg (Nat.not_lt_zero _)] at hnext
        cases hnext
      rw [greedy, hnone]
      rfl
  induction n generalizing s m groups with
  | zero => rw [hnothing s (Nat.le_zero.mp hn), hnothing s (Nat.le_zero.mp hn)]
  | succ n ih =>
    cases m with
    | zero => rw [hnothing s (Nat.le_zero.mp hm), hnothing s (Nat.le_zero.mp hm)]
    | succ m =>
      rw [greedy, greedy]
      congr 2
      funext s' groups'
      by_cases hless : s'.after.length < s.after.length
      · rw [if_pos hless, if_pos hless]
        exact ih (Nat.le_of_lt_succ (Nat.lt_of_lt_of_le hless hn)) (Nat.le_of_lt_succ (Nat.lt_of_lt_of_le hless hm)) groups'
      · rw [if_neg hless, if_neg hless]

/-- How many repetitions are tried does not depend on the text, as far as it matters. -/
theorem greedy_repetitions (hstep : Takes body step) {s : Spot} {n : Nat} (hn : s.after.length ≤ n) (least : Nat) (most : Option Nat)
    (groups : Groups) (next : Next α) : greedy step (repetitions least most s) s groups next =
      greedy step ((most.map (· - least)).getD n) s groups next := by
  cases most with
  | none => exact greedy_of_le hstep (Nat.le_refl _) hn groups next
  | some most =>
    rcases Nat.le_total (most - least) s.after.length with hle | hge
    · have hmin : repetitions least (some most) s = most - least := Nat.min_eq_left hle
      rw [hmin]
      rfl
    · have hmin : repetitions least (some most) s = s.after.length := Nat.min_eq_right hge
      rw [hmin]
      exact greedy_of_le hstep (Nat.le_refl _) hge groups next

/-- A test that reads nothing of an end fails at its start. -/
theorem Unread.run_one {test : Char → Bool} {tail : List Char} {next : Next α} (h : Unread (.one test) tail next)
    (before : List Char) (groups : Groups) : run (.one test) ⟨before, tail⟩ groups next = none := by
  cases tail with
  | nil => rfl
  | cons c tail =>
    simp only [run]
    rcases h with hreads | hfails
    · have htest : test c = false := hreads c rfl
      rw [htest, if_neg Bool.false_ne_true]
    · rw [hfails ⟨c :: before, tail⟩ groups (List.suffix_cons c tail) (List.cons_ne_self c tail).symm, ite_self]

/-- Two patterns in a row read nothing of an end when neither does. -/
theorem Unread.seq {p q : Pattern} {tail : List Char} {next : Next α} (h : Unread (.seq p q) tail next) :
    Unread p tail (fun s groups => run q s groups next) ∧ Unread q tail next := by
  rcases h with hreads | hfails
  · exact ⟨.inl fun c hc => (Bool.or_eq_false_iff.mp (hreads c hc)).1, .inl fun c hc => (Bool.or_eq_false_iff.mp (hreads c hc)).2⟩
  · exact ⟨.inr (hfails.step (takes_run q)), .inr hfails⟩

/-- Two patterns to choose from read nothing of an end when neither does. -/
theorem Unread.alt {p q : Pattern} {tail : List Char} {next : Next α} (h : Unread (.alt p q) tail next) :
    Unread p tail next ∧ Unread q tail next := by
  rcases h with hreads | hfails
  · exact ⟨.inl fun c hc => (Bool.or_eq_false_iff.mp (hreads c hc)).1, .inl fun c hc => (Bool.or_eq_false_iff.mp (hreads c hc)).2⟩
  · exact ⟨.inr hfails, .inr hfails⟩

/-- A group reads nothing of an end when its pattern does not. -/
theorem Unread.group {index : Nat} {tail : List Char} {next : Next α} (h : Unread (.group index body) tail next) (s : Spot) :
    Unread body tail fun s' groups => next s' ((index, s.textUpTo s') :: groups) :=
  Or.imp id (fun hfails s' _ hsuffix hne => hfails s' _ hsuffix hne) h

/-- A pattern that takes up characters alone goes on alike in texts that end differently, where it reads neither end. -/
theorem run_agree {p : Pattern} (hp : p.takesOnly = true) : Parallel f p (run p) := by
  induction p with
  | empty => exact fun _ _ _ _ _ _ hnext => hnext
  | one test =>
    intro tail tail' next next' hunread hunread' hnext before text groups
    cases text with
    | nil =>
      dsimp only [List.nil_append]
      rw [hunread.run_one, hunread'.run_one]
    | cons c text =>
      simp only [run, List.cons_append]
      split
      · exact hnext (c :: before) text groups
      · rfl
  | textStart =>
    intro tail tail' next next' _ _ hnext before text groups
    simp only [run]
    split
    · exact hnext before text groups
    · rfl
  | wordEdge | textEnd | lineStart | lineEnd => cases hp
  | seq p q ihp ihq =>
    rw [takesOnly, Bool.and_eq_true] at hp
    intro tail tail' next next' hunread hunread' hnext
    exact ihp hp.1 tail tail' _ _ hunread.seq.1 hunread'.seq.1 (ihq hp.2 tail tail' next next' hunread.seq.2 hunread'.seq.2 hnext)
  | alt p q ihp ihq =>
    rw [takesOnly, Bool.and_eq_true] at hp
    intro tail tail' next next' hunread hunread' hnext before text groups
    simp only [run, Option.orElse_eq_orElse, Option.orElse_eq_or, Option.map_or]
    rw [ihp hp.1 tail tail' next next' hunread.alt.1 hunread'.alt.1 hnext before text groups,
      ihq hp.2 tail tail' next next' hunread.alt.2 hunread'.alt.2 hnext before text groups]
  | times shortest least most body ih =>
    rw [takesOnly, Bool.and_eq_true, Bool.not_eq_true'] at hp
    obtain ⟨rfl, hbody⟩ := hp
    have htakes : Takes body (run body : Step α) := takes_run body
    intro tail tail' next next' hunread hunread' hnext
    -- in both texts as many rounds are allowed as there are characters, so one number of rounds that serves both has to be found
    have hgreedy : ∀ fuel, Agree f tail tail' (fun s groups => greedy (run body) fuel s groups next)
        fun s groups => greedy (run body) fuel s groups next' :=
      fun fuel => (ih hbody).greedy htakes fuel tail tail' next next' hunread hunread' hnext
    have hfails : ∀ {tail : List Char} {next : Next α}, Unread body tail next →
        Unread body tail fun s groups => greedy (run body) (repetitions least most s) s groups next := by
      intro tail next hunread
      refine hunread.imp id fun hfails s groups hsuffix hne => ?_
      have htimes : Takes (.times false 0 none body) (greedy (run body : Step α) (repetitions least most s)) := htakes.greedy _
      exact hfails.step htimes s groups hsuffix hne
    have hrest : Agree f tail tail' (fun s groups => greedy (run body) (repetitions least most s) s groups next)
        fun s groups => greedy (run body) (repetitions least most s) s groups next' := by
      intro before text groups
      have hle : (text ++ tail).length ≤ text.length + tail.length + tail'.length := by simp
      have hle' : (text ++ tail').length ≤ text.length + tail.length + tail'.length := by simp
      have hleft := greedy_repetitions htakes (s := ⟨before, text ++ tail⟩) hle least most groups next
      have hright := greedy_repetitions htakes (s := ⟨before, text ++ tail'⟩) hle' least most groups next'
      dsimp only
      rw [hleft, hright]
      exact hgreedy _ before text groups
    intro before text groups
    dsimp only
    rw [run_times, run_times]
    exact (ih hbody).exactly htakes least tail tail' _ _ (hfails hunread) (hfails hunread') hrest before text groups
  | group index body ih =>
    intro tail tail' next next' hunread hunread' hnext before text groups
    exact ih hp tail tail' _ _ (hunread.group _) (hunread'.group _) (fun before' text' groups' => hnext before' text' _) before text groups

end Tails

/-! ## Following a form of text -/

section Following

variable {α : Type}

/-- Patterns one after the other, in two parts. -/
theorem run_all_append (first second : List Pattern) (s : Spot) (groups : Groups) (next : Next α) :
    run (all (first ++ second)) s groups next = run (all first) s groups fun s' groups' => run (all second) s' groups' next := by
  have hcons : ∀ (p : Pattern) (ps : List Pattern) (s : Spot) (groups : Groups) (next : Next α),
      run (all (p :: ps)) s groups next = run p s groups fun s' groups' => run (all ps) s' groups' next := by
    intro p ps s groups next
    cases ps <;> rfl
  induction first generalizing s groups with
  | nil => rfl
  | cons p first ih =>
    rw [List.cons_append, hcons, hcons]
    congr 1
    funext s' groups'
    exact ih s' groups'

theorem run_one_cons (test : Char → Bool) (before : List Char) (c : Char) (rest : List Char) (groups : Groups) (next : Next α) :
    run (.one test) ⟨before, c :: rest⟩ groups next = if test c then next ⟨c :: before, rest⟩ groups else none := rfl

theorem run_seq (p q : Pattern) (s : Spot) (groups : Groups) (next : Next α) :
    run (.seq p q) s groups next = run p s groups fun s' groups' => run q s' groups' next := rfl

theorem run_group (index : Nat) (body : Pattern) (s : Spot) (groups : Groups) (next : Next α) :
    run (.group index body) s groups next = run body s groups fun s' groups' => next s' ((index, s.textUpTo s') :: groups') := rfl

theorem run_shortest (body : Pattern) (s : Spot) (groups : Groups) (next : Next α) :
    run (.times true 0 none body) s groups next = sparing (run body) s.after.length s groups next := rfl

/-- At the edge of a word, what follows is tried; elsewhere nothing is. -/
theorem run_wordEdge (s : Spot) (groups : Groups) (next : Next α) :
    run .wordEdge s groups next = if s.atWordEdge then next s groups else none := rfl

/-- A fixed text is followed to its end. -/
theorem run_lit_append (text : String) (before rest : List Char) (groups : Groups) (next : Next α) :
    run (lit text) ⟨before, text.toList ++ rest⟩ groups next = next ⟨text.toList.reverse ++ before, rest⟩ groups := by
  unfold lit
  generalize text.toList = chars
  induction chars generalizing before with
  | nil => rfl
  | cons c chars ih =>
    have hone : run (.one (· = c)) ⟨before, c :: chars ++ rest⟩ groups
        (fun s groups => run (all (chars.map fun c => .one (· = c))) s groups next) =
          next ⟨(c :: chars).reverse ++ before, rest⟩ groups := by
      simp only [run, List.cons_append, decide_true, if_true]
      rw [ih, List.reverse_cons, List.append_assoc]
      rfl
    rw [← hone, List.map_cons, ← List.singleton_append, run_all_append]
    rfl

/-- A fixed text is not found where another one stands. -/
theorem run_lit_eq_none {text : String} {s : Spot} (h : ¬text.toList <+: s.after) (groups : Groups) (next : Next α) :
    run (lit text) s groups next = none := by
  rw [Option.eq_none_iff_forall_ne_some]
  intro r hr
  obtain ⟨s', groups', hway, -⟩ := takes_run (lit text) s groups next r hr
  exact h (hway.of_lit.1 ▸ List.prefix_append _ _)

/-- A text does not match where another character is ahead. -/
theorem run_lit_cons_eq_none {text : String} {c d : Char} {chars : List Char} (htext : text.toList = d :: chars) (hne : d ≠ c)
    (before rest : List Char) (groups : Groups) (next : Next α) : run (lit text) ⟨before, c :: rest⟩ groups next = none := by
  refine run_lit_eq_none (fun hprefix => ?_) groups next
  rw [htext] at hprefix
  exact hne (List.cons_prefix_cons.mp hprefix).1

variable {test : Char → Bool}

/-- A test is repeated up to the first character that does not pass, where going on before that fails. -/
theorem greedy_one {done rest before : List Char} (hdone : ∀ c ∈ done, test c = true) (hrest : rest.head?.any test = false)
    {groups : Groups} {next : Next α} (hnext : ∀ before c rest, test c = true → next ⟨before, c :: rest⟩ groups = none)
    {fuel : Nat} (hfuel : done.length ≤ fuel) :
    greedy (run (.one test)) fuel ⟨before, done ++ rest⟩ groups next = next ⟨done.reverse ++ before, rest⟩ groups := by
  induction done generalizing before fuel with
  | nil =>
    cases fuel with
    | zero => rfl
    | succ fuel =>
      have hstop : ∀ next' : Next α, run (.one test) ⟨before, rest⟩ groups next' = none := by
        intro next'
        cases rest with
        | nil => rfl
        | cons c rest =>
          have htest : test c = false := hrest
          rw [run_one_cons, htest, if_neg Bool.false_ne_true]
      rw [greedy, List.nil_append, hstop]
      rfl
  | cons c done ih =>
    obtain ⟨hc, hdone⟩ := List.forall_mem_cons.mp hdone
    obtain ⟨fuel, rfl⟩ : ∃ n, fuel = n + 1 := Nat.exists_eq_add_one_of_ne_zero (by simp at hfuel; omega)
    have hmore : run (.one test) ⟨before, c :: done ++ rest⟩ groups
        (fun s' groups' => if s'.after.length < (c :: done ++ rest).length then greedy (run (.one test)) fuel s' groups' next else none) =
          next ⟨(c :: done).reverse ++ before, rest⟩ groups := by
      have hless : (done ++ rest).length < (c :: (done ++ rest)).length := Nat.lt_succ_self _
      rw [List.cons_append, run_one_cons, if_pos hc, if_pos hless, ih hdone (Nat.le_of_succ_le_succ hfuel), List.reverse_cons,
        List.append_assoc]
      rfl
    have hnone : next ⟨before, c :: done ++ rest⟩ groups = none := hnext before c (done ++ rest) hc
    rw [greedy, hmore, hnone, Option.orElse_eq_orElse, Option.orElse_eq_or, Option.or_none]

/-- A repetition whose end is marked, as what follows it cannot begin with what is repeated, is followed to that end. -/
theorem run_many_append {done rest before : List Char} (hdone : ∀ c ∈ done, test c = true) (hrest : rest.head?.any test = false)
    {groups : Groups} {next : Next α} (hnext : ∀ before c rest, test c = true → next ⟨before, c :: rest⟩ groups = none) :
    run (many (.one test)) ⟨before, done ++ rest⟩ groups next = next ⟨done.reverse ++ before, rest⟩ groups := by
  unfold many
  rw [run_times]
  exact greedy_one hdone hrest hnext (by simp [repetitions])

/-- A test with a round at least takes all characters that pass, where going on before their end fails. -/
theorem run_many1_append {done rest before : List Char} (hne : done ≠ []) (hdone : ∀ c ∈ done, test c = true)
    (hrest : rest.head?.any test = false) {groups : Groups} {next : Next α}
    (hnext : ∀ before c rest, test c = true → next ⟨before, c :: rest⟩ groups = none) :
    run (many1 (.one test)) ⟨before, done ++ rest⟩ groups next = next ⟨done.reverse ++ before, rest⟩ groups := by
  obtain ⟨c, done, rfl⟩ := List.exists_cons_of_ne_nil hne
  obtain ⟨hc, hdone⟩ := List.forall_mem_cons.mp hdone
  unfold many1
  rw [run_times]
  rw [exactly, List.cons_append, run_one_cons, if_pos hc, exactly]
  rw [greedy_one hdone hrest hnext (by simp [repetitions]), List.reverse_cons, List.append_assoc]
  rfl

/-- The shortest repetition goes on to the first spot from which the rest of the pattern succeeds. -/
theorem sparing_one {done rest before : List Char} (hdone : ∀ c ∈ done, test c = true)
    {groups : Groups} {next : Next α}
    (hnext : ∀ taken more, done = taken ++ more → more ≠ [] → next ⟨taken.reverse ++ before, more ++ rest⟩ groups = none)
    (hlast : (next ⟨done.reverse ++ before, rest⟩ groups).isSome = true) {fuel : Nat} (hfuel : done.length ≤ fuel) :
    sparing (run (.one test)) fuel ⟨before, done ++ rest⟩ groups next = next ⟨done.reverse ++ before, rest⟩ groups := by
  induction done generalizing before fuel with
  | nil =>
    obtain ⟨r, hr⟩ := Option.isSome_iff_exists.mp hlast
    have hr : next ⟨before, rest⟩ groups = some r := hr
    cases fuel with
    | zero => rfl
    | succ fuel =>
      rw [sparing, List.nil_append, hr]
      exact hr.symm
  | cons c done ih =>
    obtain ⟨hc, hdone⟩ := List.forall_mem_cons.mp hdone
    obtain ⟨fuel, rfl⟩ : ∃ n, fuel = n + 1 := Nat.exists_eq_add_one_of_ne_zero (by simp at hfuel; omega)
    have hnone : next ⟨before, c :: done ++ rest⟩ groups = none := hnext [] (c :: done) rfl (List.cons_ne_nil _ _)
    have hless : (done ++ rest).length < (c :: (done ++ rest)).length := Nat.lt_succ_self _
    rw [List.reverse_cons, List.append_assoc] at hlast ⊢
    rw [sparing, hnone, List.cons_append, run_one_cons, if_pos hc, if_pos hless]
    refine ih hdone (fun taken more hsplit hmore => ?_) hlast (Nat.le_of_succ_le_succ hfuel)
    have := hnext (c :: taken) more (congrArg (c :: ·) hsplit) hmore
    rwa [List.reverse_cons, List.append_assoc] at this

/-- An optional pattern that does not match is done without. -/
theorem run_opt_of_none {p : Pattern} {s : Spot} {groups : Groups} (h : ∀ next : Next α, run p s groups next = none) (next : Next α) :
    run (opt p) s groups next = next s groups := by
  unfold opt
  rw [run_times, exactly]
  cases repetitions 0 (some 1) s with
  | zero => rfl
  | succ n =>
    rw [greedy, h]
    rfl

/-- An optional pattern is tried first, and done without where it fails. -/
theorem run_opt {p : Pattern} {s : Spot} (hs : s.after ≠ []) (groups : Groups) (next : Next α) :
    run (opt p) s groups next =
      ((run p s groups fun s' groups' => if s'.after.length < s.after.length then next s' groups' else none).or
        (next s groups)) := by
  have hone : repetitions 0 (some 1) s = 1 := by
    obtain ⟨c, rest, hafter⟩ := List.exists_cons_of_ne_nil hs
    simp [repetitions, hafter]
  unfold opt
  rw [run_times, exactly, hone, greedy, Option.orElse_eq_orElse, Option.orElse_eq_or]
  rfl

end Following

/-! ## What a match takes up -/

/-- A match of patterns one after the other, in two parts. -/
theorem Matches.of_all_append {first second : List Pattern} {s s' : Spot} {groups groups' : Groups}
    (h : Matches (all (first ++ second)) s groups s' groups') :
    ∃ s₁ groups₁, Matches (all first) s groups s₁ groups₁ ∧ Matches (all second) s₁ groups₁ s' groups' := by
  have hcons : ∀ {p : Pattern} {ps : List Pattern} {s s' : Spot} {groups groups' : Groups},
      Matches (all (p :: ps)) s groups s' groups' →
        ∃ s₁ groups₁, Matches p s groups s₁ groups₁ ∧ Matches (all ps) s₁ groups₁ s' groups' := by
    intro p ps s s' groups groups' hway
    cases ps with
    | nil => exact ⟨s', groups', hway, .empty⟩
    | cons q ps =>
      cases hway with
      | seq hfirst hothers => exact ⟨_, _, hfirst, hothers⟩
  induction first generalizing s groups with
  | nil => exact ⟨s, groups, .empty, h⟩
  | cons p first ih =>
    obtain ⟨s₁, groups₁, hp, hrest⟩ := hcons h
    obtain ⟨s₂, groups₂, hfirst, hsecond⟩ := ih hrest
    refine ⟨s₂, groups₂, ?_, hsecond⟩
    cases first with
    | nil =>
      cases hfirst
      exact hp
    | cons q first => exact .seq hp hfirst

/-- The text between two spots is what has been taken up on the way. -/
theorem textUpTo_eq {s s' : Spot} {taken : List Char} (h : s'.before = taken.reverse ++ s.before) : s.textUpTo s' = taken := by
  rw [Spot.textUpTo, h, List.length_append, Nat.add_sub_cancel, List.take_left, List.reverse_reverse]

/-- A repeated character test takes up characters that pass it. -/
theorem Matches.of_many {test : Char → Bool} {shortest : Bool} {least : Nat} {most : Option Nat} {s s' : Spot} {groups groups' : Groups}
    (h : Matches (.times shortest least most (.one test)) s groups s' groups') :
    ∃ taken, s.after = taken ++ s'.after ∧ s'.before = taken.reverse ++ s.before ∧ ∀ c ∈ taken, test c = true := by
  generalize hp : Pattern.times shortest least most (.one test) = p at h
  induction h with
  | enough => exact ⟨[], rfl, rfl, List.forall_mem_nil _⟩
  | again hfirst _ _ ih =>
    cases hp
    cases hfirst with
    | @one _ _ _ c rest hahead hpasses =>
      obtain ⟨taken, hafter, hbefore, htaken⟩ := ih rfl
      dsimp only at hafter hbefore
      refine ⟨c :: taken, ?_, ?_, List.forall_mem_cons.mpr ⟨hpasses, htaken⟩⟩
      · rw [hahead, hafter, List.cons_append]
      · rw [hbefore, List.reverse_cons, List.append_assoc]
        rfl
  | _ => cases hp

/-- A character test that is repeated at least once takes up some text, all of which passes it. -/
theorem exists_of_run_many1 {α : Type} {test : Char → Bool} {s : Spot} {groups : Groups} {next : Next α} {r : α}
    (h : run (many1 (.one test)) s groups next = some r) :
    ∃ taken rest, s.after = taken ++ rest ∧ taken ≠ [] ∧ (∀ c ∈ taken, test c = true) ∧
      next ⟨taken.reverse ++ s.before, rest⟩ groups = some r := by
  obtain ⟨before, after⟩ := s
  unfold many1 at h
  rw [run_times, exactly] at h
  cases after with
  | nil => cases h
  | cons c rest =>
    rw [run_one_cons] at h
    split at h
    · rename_i hc
      have htakes : Takes (.times false 0 none (.one test)) (greedy (run (.one test)) (repetitions 1 none ⟨c :: before, rest⟩)) :=
        Takes.greedy (takes_run (α := α) (.one test)) _
      obtain ⟨s', groups', hway, hnext⟩ := htakes _ _ _ _ h
      obtain rfl := hway.groups_eq rfl
      obtain ⟨taken, hafter, hbefore, htaken⟩ := hway.of_many
      refine ⟨c :: taken, s'.after, congrArg (c :: ·) hafter, List.cons_ne_nil _ _, List.forall_mem_cons.mpr ⟨hc, htaken⟩, ?_⟩
      rw [List.reverse_cons, List.append_assoc, List.singleton_append, ← hbefore]
      exact hnext
    · cases h

end QualityGate.Pattern
