import QualityGate.Proofs.JsonLines
import QualityGate.Proofs.Lines
import QualityGate.Proofs.UnreadText
import QualityGate.Refactor.Agent

/-!
# Fenced answers

An answer in fenced blocks is taken as it stands. A block is found whatever stands before and behind it, as long as no other line
starts with a fence, and its text is what stands between its fences (`AgentAnswer.blocksFrom_block`); where no block is, none is
found (`AgentAnswer.blocks_eq_nil`).
-/

namespace QualityGate

namespace AgentAnswer

open Pattern

/-! ## Texts and blocks -/

/-- Whether what follows a text starts a line. -/
def StartsLine (before : List Char) : Prop := before.getLast?.all isLineEnd = true

/-- Whether no line of a text starts with a fence. -/
def Unfenced (text : List Char) : Prop :=
  ∀ before after, text = before ++ after → StartsLine before → ¬fence.toList <+: after

/-- Whether a text can stand between fences: it is empty or ends in a line feed, and no line of it starts with a fence. -/
structure Fits (text : List Char) : Prop where
  ends : text.getLast?.all (· = '\n') = true
  unfenced : Unfenced text

/-- A text between fences, of which the first one says something. -/
def block (info text : List Char) : List Char := fence.toList ++ info ++ '\n' :: text ++ fence.toList

/-- No line starts with a fence when none stands where a line starts. -/
theorem unfenced_iff {text : List Char} :
    Unfenced text ↔ ∀ i ≤ text.length, StartsLine (text.take i) → ¬fence.toList <+: text.drop i := by
  constructor
  · exact fun h i _ => h _ _ (List.take_append_drop i text).symm
  · rintro h before after rfl hstart
    have := h before.length (by simp)
    rw [List.take_left, List.drop_left] at this
    exact this hstart

instance (before : List Char) : Decidable (StartsLine before) := inferInstanceAs (Decidable (_ = true))

instance (text : List Char) : Decidable (Unfenced text) := decidable_of_iff _ unfenced_iff.symm

instance (text : List Char) : Decidable (Fits text) :=
  decidable_of_iff (text.getLast?.all (· = '\n') = true ∧ Unfenced text)
    ⟨fun ⟨hends, h⟩ => ⟨hends, h⟩, fun h => ⟨h.ends, h.unfenced⟩⟩

/-- Whether a fence at the start of a line is closed by one at the start of a later line. -/
def HasBlock (output : List Char) : Prop :=
  ∃ before info text after, output = before ++ block info text ++ after ∧ StartsLine before ∧ '\n' ∉ info ∧
    StartsLine ('\n' :: text)

theorem mem_block (info text : List Char) : '\n' ∈ block info text := by simp [block]

variable {before info text prose rest taken more : List Char}

/-- A text that fits ends its line, or is empty. -/
theorem Fits.endsLine (h : Fits text) : text.getLast?.all isLineEnd = true := by
  have hends := h.ends
  cases hlast : text.getLast? with
  | none => rfl
  | some c =>
    rw [hlast] at hends
    obtain rfl : c = '\n' := by simpa using hends
    rfl

/-- What follows a text that fits starts a line. -/
theorem Fits.startsLine (h : Fits text) : StartsLine ('\n' :: text) := by
  have hends := h.endsLine
  unfold StartsLine
  rw [List.getLast?_cons]
  cases hlast : text.getLast? with
  | none => rfl
  | some c =>
    rw [hlast] at hends
    exact hends

/-- The pattern sees the start of a line where a text starts one. -/
theorem atLineStart_iff {c : Char} {before after : List Char} :
    (Spot.mk (text.reverse ++ c :: before) after).atLineStart = true ↔ StartsLine (c :: text) := by
  unfold StartsLine Spot.atLineStart
  rw [List.getLast?_cons, List.head?_append, List.head?_reverse]
  cases text.getLast? <;> rfl

/-! ## What is no fence -/

/-- Within a text no line of which starts with a fence, a spot at the start of a line is not at a fence. -/
theorem Unfenced.not_fence (h : Unfenced text) (htext : text = taken ++ more) {after : List Char}
    (hstart : (Spot.mk (taken.reverse ++ before) after).atLineStart = true) : ¬fence.toList <+: more := by
  refine h taken more htext ?_
  unfold StartsLine
  cases hlast : taken.getLast? with
  | none => rfl
  | some c =>
    unfold Spot.atLineStart at hstart
    rw [List.head?_append, List.head?_reverse, hlast] at hstart
    exact hstart

/-- What ends a line is not completed to a fence by what follows it. -/
theorem Unfenced.not_fence_append (h : Unfenced text) (hends : text.getLast?.all isLineEnd = true)
    (htext : text = taken ++ more) (hmore : more ≠ []) {after : List Char}
    (hstart : (Spot.mk (taken.reverse ++ before) after).atLineStart = true) (rest : List Char) :
    ¬fence.toList <+: more ++ rest := by
  intro hfence
  rcases List.prefix_or_prefix_of_prefix hfence (List.prefix_append more rest) with hfence | hwithin
  · exact h.not_fence htext hstart hfence
  · have hlast : more.getLast? = some (more.getLast hmore) := List.getLast?_eq_some_getLast hmore
    have hticks : ∀ c ∈ fence.toList, isLineEnd c = false := by simp [fence, isLineEnd]
    have hend := hticks _ (hwithin.subset (List.getLast_mem hmore))
    rw [htext, List.getLast?_append, hlast] at hends
    exact absurd hends (by simp [hend])

/-- A block is a fence at the start of a line, what that says, and a text up to the next fence. -/
theorem run_fencedBlock {α : Type} (s : Spot) (g : Groups) (next : Next α) :
    run fencedBlock s g next =
      if s.atLineStart then
        run (lit fence) s g fun s₁ g₁ =>
          run (.group 1 (.many (.butNot '\n'))) s₁ g₁ fun s₂ g₂ =>
            run (.one (· = '\n')) s₂ g₂ fun s₃ g₃ =>
              run (.group 2 (.times true 0 none (.one fun _ => true))) s₃ g₃ fun s₄ g₄ =>
                if s₄.atLineStart then run (lit fence) s₄ g₄ next else none
      else none := rfl

/-- No block is found where no fence starts a line. -/
theorem foundAt_eq_none {s : Spot} (h : s.atLineStart = true → ¬fence.toList <+: s.after) : foundAt fencedBlock s = none := by
  unfold foundAt
  rw [run_fencedBlock]
  split
  · rename_i hstart
    exact run_lit_eq_none (h hstart) _ _
  · rfl

/-- At a block the block is found, with what its first line says and its text. -/
theorem foundAt_block (hstart : before.head?.all isLineEnd = true) (hinfo : '\n' ∉ info) (htext : Fits text) :
    ∃ m : Found, foundAt fencedBlock ⟨before, block info text ++ rest⟩ = some m ∧ m.start.before = before ∧
      m.stop = ⟨(block info text).reverse ++ before, rest⟩ ∧ m.group 1 = some info ∧ m.group 2 = some text := by
  have hsplit : block info text ++ rest = fence.toList ++ (info ++ '\n' :: (text ++ (fence.toList ++ rest))) := by
    simp [block]
  have hopen : (Spot.mk before (block info text ++ rest)).atLineStart = true := hstart
  have hinfoTest : ∀ c ∈ info, decide (c ≠ '\n') = true := fun c hc => decide_eq_true fun heq => hinfo (heq ▸ hc)
  -- What follows the first line finds the closing fence where the text ends, and none before.
  have hclosed : ∀ (before' : List Char) (g : Groups),
      run (.group 2 (.times true 0 none (.one fun _ => true))) ⟨'\n' :: before', text ++ (fence.toList ++ rest)⟩ g
          (fun s₄ g₄ =>
            if s₄.atLineStart then
              run (lit fence) s₄ g₄ fun s' g' => some (⟨⟨before, block info text ++ rest⟩, s', g'⟩ : Found)
            else none) =
        some ⟨⟨before, block info text ++ rest⟩, ⟨fence.toList.reverse ++ (text.reverse ++ '\n' :: before'), rest⟩,
          (2, text) :: g⟩ := by
    intro before' g
    have hlast : (Spot.mk (text.reverse ++ '\n' :: before') (fence.toList ++ rest)).atLineStart = true :=
      atLineStart_iff.mpr htext.startsLine
    rw [run_group, run_shortest, sparing_one (fun _ _ => rfl) ?_ ?_ ?_]
    · rw [if_pos hlast, run_lit_append, textUpTo_eq rfl]
    · intro taken more hsplit hmore
      split
      · rename_i hstart
        exact run_lit_eq_none (htext.unfenced.not_fence_append htext.endsLine hsplit hmore hstart _) _ _
      · rfl
    · rw [if_pos hlast, run_lit_append, Option.isSome_some]
    · simp
  unfold foundAt
  rw [run_fencedBlock, if_pos hopen]
  simp only [hsplit] at hclosed ⊢
  rw [run_lit_append, run_group, butNot, run_many_append hinfoTest rfl ?_]
  · rw [run_one_cons, if_pos (decide_eq_true rfl), hclosed, textUpTo_eq rfl]
    refine ⟨_, rfl, rfl, ?_, rfl, rfl⟩
    simp [block]
  · intro b c more hc
    rw [run_one_cons, if_neg]
    simpa using hc

/-! ## The blocks of an output -/

/-- The blocks at or behind a spot. -/
def blocksFrom (fuel : Nat) (s : Spot) : List (List Char × List Char) :=
  (findAllFrom fencedBlock fuel s).map fun m => ((m.group 1).getD [], (m.group 2).getD [])

theorem blocks_eq (output : List Char) : blocks output = blocksFrom (output.length + 1) ⟨[], output⟩ := rfl

/-- The first block behind prose that ends a line, and those that follow it. -/
theorem blocksFrom_block (hprose : Unfenced prose) (hstart : (prose.reverse ++ before).head?.all isLineEnd = true)
    (hinfo : '\n' ∉ info) (htext : Fits text) (fuel : Nat) :
    blocksFrom (fuel + 1) ⟨before, prose ++ (block info text ++ rest)⟩ =
      (info, text) :: blocksFrom fuel ⟨(block info text).reverse ++ (prose.reverse ++ before), rest⟩ := by
  have hends : prose.getLast?.all isLineEnd = true := by
    rw [List.head?_append, List.head?_reverse] at hstart
    cases hlast : prose.getLast? with
    | none => rfl
    | some c =>
      rw [hlast] at hstart
      exact hstart
  obtain ⟨m, hm, hfirst, hstop, hinfoGroup, htextGroup⟩ := @foundAt_block _ info text rest hstart hinfo htext
  have hfound : foundFrom fencedBlock before (prose ++ (block info text ++ rest)) = some m := by
    rw [foundFrom_append fun taken more hsplit hmore => foundAt_eq_none fun hat =>
      hprose.not_fence_append hends hsplit hmore hat _]
    exact foundFrom_of_foundAt hm
  have hmoved : m.stop.before.length ≠ m.start.before.length := by
    rw [hstop, hfirst, List.length_append, List.length_reverse]
    have hblock : 0 < (block info text).length := List.length_pos_of_mem (mem_block info text)
    omega
  unfold blocksFrom
  rw [findAllFrom]
  dsimp only
  rw [hfound]
  dsimp only
  rw [if_neg hmoved, hstop, List.map_cons, hinfoGroup, htextGroup]
  rfl

/-- No block is found in a text no line of which starts with a fence. -/
theorem blocksFrom_unfenced (h : Unfenced rest) (before : List Char) (fuel : Nat) : blocksFrom fuel ⟨before, rest⟩ = [] := by
  have hnone : foundFrom fencedBlock before rest = none := by
    rw [Option.eq_none_iff_forall_ne_some]
    intro m hm
    obtain ⟨done, more, hsplit, hat⟩ := exists_foundAt_of_foundFrom hm
    rw [foundAt_eq_none fun hstart => h.not_fence hsplit hstart] at hat
    cases hat
  unfold blocksFrom
  cases fuel with
  | zero => rfl
  | succ fuel =>
    rw [findAllFrom]
    dsimp only
    rw [hnone]
    rfl

variable {info' text' between after : List Char}

/-- One block among texts without fences is the only one. -/
theorem blocks_single (hbefore : Unfenced before) (hstart : StartsLine before) (hinfo : '\n' ∉ info) (htext : Fits text)
    (hafter : Unfenced after) : blocks (before ++ block info text ++ after) = [(info, text)] := by
  have hopen : (before.reverse ++ []).head?.all isLineEnd = true := by
    rw [List.append_nil, List.head?_reverse]
    exact hstart
  rw [blocks_eq, List.append_assoc, blocksFrom_block hbefore hopen hinfo htext, blocksFrom_unfenced hafter]

/-- Two blocks among texts without fences are the only ones, in their order. -/
theorem blocks_pair (hbefore : Unfenced before) (hstart : StartsLine before) (hinfo : '\n' ∉ info) (htext : Fits text)
    (hbetween : Unfenced between) (hne : between ≠ []) (hstart' : StartsLine between) (hinfo' : '\n' ∉ info')
    (htext' : Fits text') (hafter : Unfenced after) :
    blocks (before ++ block info text ++ between ++ block info' text' ++ after) = [(info, text), (info', text')] := by
  have hopen : (before.reverse ++ []).head?.all isLineEnd = true := by
    rw [List.append_nil, List.head?_reverse]
    exact hstart
  have hopen' : ∀ behind : List Char, (between.reverse ++ behind).head?.all isLineEnd = true := fun behind => by
    have hlast : between.getLast? = some (between.getLast hne) := List.getLast?_eq_some_getLast hne
    unfold StartsLine at hstart'
    rw [hlast] at hstart'
    rw [List.head?_append, List.head?_reverse, hlast]
    exact hstart'
  obtain ⟨fuel, hfuel⟩ : ∃ fuel,
      (before ++ block info text ++ between ++ block info' text' ++ after).length + 1 = fuel + 1 + 1 := by
    have hpos : 0 < (before ++ block info text ++ between ++ block info' text' ++ after).length :=
      List.length_pos_of_mem (List.mem_append_left _ (List.mem_append_right _ (mem_block info' text')))
    exact ⟨_, congrArg (· + 1) (Nat.succ_pred_eq_of_pos hpos).symm⟩
  rw [blocks_eq, hfuel]
  simp only [List.append_assoc]
  rw [blocksFrom_block hbefore hopen hinfo htext, blocksFrom_block hbetween (hopen' _) hinfo' htext',
    blocksFrom_unfenced hafter]

/-- Where a block is found there is one. -/
theorem hasBlock_of_foundAt {m : Found} (h : foundAt fencedBlock ⟨before.reverse, rest⟩ = some m) : HasBlock (before ++ rest) := by
  unfold foundAt at h
  rw [run_fencedBlock] at h
  split at h
  · rename_i hstart
    obtain ⟨s₁, g₁, hopen, h⟩ := takes_run _ _ _ _ _ h
    obtain ⟨hafter₁, -, -⟩ := hopen.of_lit
    rw [run_group] at h
    obtain ⟨s₂, g₂, hfirst, h⟩ := takes_run _ _ _ _ _ h
    obtain ⟨info, hafter₂, -, hinfo⟩ := hfirst.of_many
    obtain ⟨s₃, g₃, hline, h⟩ := takes_run _ _ _ _ _ h
    cases hline with
    | @one _ _ _ c rest' ahead passes =>
      obtain rfl : c = '\n' := of_decide_eq_true passes
      rw [run_group] at h
      obtain ⟨s₄, g₄, htext, h⟩ := takes_run _ _ _ _ _ h
      obtain ⟨text, hafter₄, hbefore₄, -⟩ := htext.of_many
      split at h
      · rename_i hstart₄
        obtain ⟨s₅, g₅, hclose, -⟩ := takes_run _ _ _ _ _ h
        obtain ⟨hafter₅, -, -⟩ := hclose.of_lit
        refine ⟨before, info, text, s₅.after, ?_, ?_, fun hmem => of_decide_eq_true (hinfo _ hmem) rfl, ?_⟩
        · dsimp only at hafter₁ hafter₄
          rw [hafter₁, hafter₂, ahead, hafter₄, hafter₅]
          simp [block]
        · unfold StartsLine
          rw [← List.head?_reverse]
          exact hstart
        · obtain ⟨before₄, after₄⟩ := s₄
          obtain rfl : before₄ = _ := hbefore₄
          exact atLineStart_iff.mp hstart₄
      · cases h
  · cases h

/-- An output without a closed fence has no blocks. -/
theorem blocks_eq_nil {output : List Char} (h : ¬HasBlock output) : blocks output = [] := by
  have hnone : foundFrom fencedBlock [] output = none := by
    rw [Option.eq_none_iff_forall_ne_some]
    intro m hm
    obtain ⟨done, rest, rfl, hat⟩ := exists_foundAt_of_foundFrom hm
    rw [List.append_nil] at hat
    exact h (hasBlock_of_foundAt hat)
  rw [blocks_eq, blocksFrom, findAllFrom]
  dsimp only
  rw [hnone]
  rfl

/-! ## Answers -/

/-- Blanks around a text are not what starts a line with a backtick. -/
theorem tickLine_trim {text : List Char} (h : Json.TickLine ('\n' :: text)) : Json.TickLine ('\n' :: trim text) := by
  have hstart : Json.TickLine ('\n' :: trimStart text) := h.behind_of_beyond (.dropWhile (by decide) text)
  obtain ⟨blanks, hsplit, hblanks⟩ := exists_trimEnd_append (trimStart text)
  have htick : '\x60' ∉ blanks := fun hmem => absurd (hblanks _ hmem) (by decide)
  obtain ⟨first, last, heq⟩ := hstart
  rw [hsplit, ← List.cons_append, List.append_eq_append_iff] at heq
  rcases heq with ⟨more, hfirst, -⟩ | ⟨more, hfirst, hlast⟩
  · exact ⟨first, more, hfirst.symm⟩
  · -- The backtick would be the last of what the blanks begin with.
    cases hmore : more.getLast? with
    | none =>
      rw [List.getLast?_eq_none_iff.mp hmore, List.append_nil] at hfirst
      exact ⟨first, [], by rw [List.append_nil]; exact hfirst⟩
    | some c =>
      have hc := congrArg List.getLast? hfirst
      rw [List.getLast?_append, List.getLast?_append, hmore] at hc
      obtain rfl : '\x60' = c := Option.some.inj hc
      exact absurd (hlast ▸ List.mem_append_left _ (List.mem_of_getLast? hmore)) htick

/-- The closing fence of a block starts a line. -/
theorem tickLine_block (info : List Char) (h : Fits text) : Json.TickLine (block info text) := by
  have hends := h.ends
  rcases List.eq_nil_or_concat text with rfl | ⟨lead, c, rfl⟩
  · exact ⟨fence.toList ++ info, ['\x60', '\x60'], by simp [block, fence]⟩
  · rw [List.concat_eq_append, List.getLast?_append] at hends
    obtain rfl : c = '\n' := by simpa using hends
    exact ⟨fence.toList ++ info ++ '\n' :: lead, ['\x60', '\x60'], by simp [block, fence]⟩

/-- An answer that holds a block is no JSON object. -/
theorem ofObject?_block (htext : Fits text) (info before after : List Char) :
    ofObject? (before ++ block info text ++ after) = none := by
  have hline : Json.TickLine ('\n' :: (before ++ block info text ++ after)) :=
    List.infix_cons ((tickLine_block info htext).trans ⟨before, after, rfl⟩)
  unfold ofObject?
  dsimp only
  split
  · rw [Json.ofText?_of_tickLine (by rw [String.toList_ofList]; exact tickLine_trim hline)]
    rfl
  · rfl

/-- An answer with blocks is what its blocks make up. -/
theorem ofOutput?_of_block (htext : Fits text) (info before after : List Char) :
    ofOutput? (String.ofList (before ++ block info text ++ after)) = ofBlocks? (before ++ block info text ++ after) := by
  unfold ofOutput?
  rw [String.toList_ofList, ofObject?_block htext]
  rfl

/-- An answer in fenced blocks is taken as it stands, in either order of the blocks and whatever prose is around them, as long as no
other line starts with a fence; without tests only the source is taken. Where no fence is closed nothing is taken, unless what is left
of the output without the blanks around it starts as a JSON object does. -/
theorem ofOutput?_fenced :
    (∀ info infoTests source tests before between after : List Char,
      (∀ c ∈ info, isLineEnd c = false) → isTest info = false → Fits source →
      (∀ c ∈ infoTests, isLineEnd c = false) → isTest infoTests = true → Fits tests →
      Unfenced before → StartsLine before → Unfenced between → between ≠ [] → StartsLine between → Unfenced after →
      ofOutput? (String.ofList (before ++ block info source ++ between ++ block infoTests tests ++ after)) =
          some ⟨String.ofList source, some (String.ofList tests)⟩ ∧
        ofOutput? (String.ofList (before ++ block infoTests tests ++ between ++ block info source ++ after)) =
          some ⟨String.ofList source, some (String.ofList tests)⟩ ∧
        ofOutput? (String.ofList (before ++ block info source ++ after)) = some ⟨String.ofList source, none⟩) ∧
      ∀ output : String, ¬HasBlock output.toList → (trim output.toList).head? ≠ some '\x7b' → ofOutput? output = none := by
  constructor
  · intro info infoTests source tests before between after hinfo hsourceInfo hsource hinfoTests htestInfo htests hbefore hstart
      hbetween hne hends hafter
    have hline : '\n' ∉ info := fun hmem => absurd (hinfo _ hmem) (by decide)
    have hlineTests : '\n' ∉ infoTests := fun hmem => absurd (hinfoTests _ hmem) (by decide)
    refine ⟨?_, ?_, ?_⟩
    · rw [ofOutput?_of_block htests, ofBlocks?,
        blocks_pair hbefore hstart hline hsource hbetween hne hends hlineTests htests hafter]
      simp [addBlock, hsourceInfo, htestInfo]
    · rw [ofOutput?_of_block hsource, ofBlocks?,
        blocks_pair hbefore hstart hlineTests htests hbetween hne hends hline hsource hafter]
      simp [addBlock, hsourceInfo, htestInfo]
    · rw [ofOutput?_of_block hsource, ofBlocks?, blocks_single hbefore hstart hline hsource hafter]
      simp [addBlock, hsourceInfo]
  · intro output hnone hhead
    unfold ofOutput? ofObject? ofBlocks?
    dsimp only
    rw [if_neg hhead, blocks_eq_nil hnone]
    rfl

/-- Prose around a source and its tests is left out, and a source whose fence is not closed is not taken. -/
theorem proseAround_leftOut :
    let before := "Here it is:\n".toList
    let between := "\nAnd its tests:\n".toList
    let after := "\nDone.".toList
    let source := "fn one() \x7b\x7d\n".toList
    let tests := "#[test]\nfn works() \x7b\x7d\n".toList
    let unclosed := "\x60\x60\x60rust\nfn one() \x7b\x7d\n"
    Unfenced before ∧ StartsLine before ∧ Unfenced between ∧ StartsLine between ∧ Unfenced after ∧ Fits source ∧ Fits tests ∧
      isTest "rust".toList = false ∧ isTest "rust Tests".toList = true ∧
      ofOutput? (String.ofList (before ++ block "rust".toList source ++ between ++ block "rust Tests".toList tests ++ after)) =
        some ⟨String.ofList source, some (String.ofList tests)⟩ ∧
      ¬HasBlock unclosed.toList ∧ (trim unclosed.toList).head? ≠ some '\x7b' ∧ ofOutput? unclosed = none := by
  intro before between after source tests unclosed
  have hbefore : Unfenced before := by decide +kernel
  have hbetween : Unfenced between := by decide +kernel
  have hafter : Unfenced after := by decide +kernel
  have hsource : Fits source := by decide +kernel
  have htests : Fits tests := by decide +kernel
  have hinfo : isTest "rust".toList = false := by decide +kernel
  have htestInfo : isTest "rust Tests".toList = true := by decide +kernel
  have hstart : StartsLine before := by decide +kernel
  have hends : StartsLine between := by decide +kernel
  have hhead : (trim unclosed.toList).head? ≠ some '\x7b' := by decide +kernel
  have hunclosed : ¬HasBlock unclosed.toList := by
    rintro ⟨start, info, text, rest, heq, -⟩
    -- A block has two fences of three backticks.
    have hticks : unclosed.toList.count '\x60' = 3 := by decide +kernel
    rw [heq] at hticks
    have hfence : fence.toList.count '\x60' = 3 := by decide
    simp only [block, List.count_append, List.count_cons, hfence] at hticks
    omega
  have hline : ∀ c ∈ "rust".toList, isLineEnd c = false := by simp [isLineEnd]
  have hlineTests : ∀ c ∈ "rust Tests".toList, isLineEnd c = false := by simp [isLineEnd]
  obtain ⟨hfenced, hnone⟩ := ofOutput?_fenced
  have hboth := hfenced "rust".toList "rust Tests".toList source tests before between after hline hinfo hsource
    hlineTests htestInfo htests hbefore hstart hbetween (by decide +kernel) hends hafter
  exact ⟨hbefore, hstart, hbetween, hends, hafter, hsource, htests, hinfo, htestInfo, hboth.1, hunclosed, hhead,
    hnone unclosed hunclosed hhead⟩

/-- An object behind a blank is taken, although the output has no fence and does not start with the object. Behind prose that does not
end its line a block is not found, and a block right behind another one is not found either. -/
theorem openProse_misread :
    let object := " \x7b\"source_code\":\"x\"\x7d"
    let prose := "Answer: ".toList
    let source := "x\n".toList
    let tests := "y\n".toList
    Unfenced object.toList ∧ object.toList.head? ≠ some '\x7b' ∧ ofOutput? object = some ⟨"x", none⟩ ∧
      Unfenced prose ∧ Fits source ∧ Fits tests ∧ isTest [] = false ∧ isTest "test".toList = true ∧
      ofOutput? (String.ofList (prose ++ block [] source)) = none ∧
      ofOutput? (String.ofList (block [] source ++ block "test".toList tests)) = some ⟨"x\n", none⟩ := by
  decide +kernel

end AgentAnswer

end QualityGate
