import Mathlib.Data.List.Induction
import QualityGate.CommandLine.Words

/-!
# Quoted words

A word can be written as it is, between quotes, or in pieces of both kinds (`Words.Spells`), and a command has written words with
blanks between them (`Words.Writes`). The words that are read are exactly those that a command writes (`Words.ofChars?_eq_some_iff`),
and nothing is read exactly if the command leaves a quote open (`Words.ofChars?_eq_none_iff`). The one direction follows a written
command from left to right; for the other one `Words.Reads` says what the reader has seen wherever it stands. Any words can be
written (`Words.exists_writes`).
-/

namespace QualityGate.Words

/-! ## Written words -/

/-- The two kinds of quotes. -/
def quotes : List Char := ['"', '\'']

/-- Characters that stand for themselves: no quotes and no blanks. -/
def Bare (text : List Char) : Prop := ∀ c ∈ text, c ∉ quotes ∧ isBlank c = false

/-- Blanks and nothing else. -/
def Blank (text : List Char) : Prop := ∀ c ∈ text, isBlank c = true

/-- How a word can be written: as it is, between quotes of a kind that is not in it, or in such pieces, one behind the other. -/
inductive Spells : List Char → List Char → Prop
  | bare {word : List Char} (hne : word ≠ []) (hbare : Bare word) : Spells word word
  | quoted {quote : Char} {word : List Char} (hquote : quote ∈ quotes) (hnone : quote ∉ word) :
      Spells word (quote :: (word ++ [quote]))
  | append {word more text rest : List Char} (h : Spells word text) (hmore : Spells more rest) :
      Spells (word ++ more) (text ++ rest)

/-- Written words with blanks between them. -/
inductive Joins : List (List Char) → List Char → Prop
  | none : Joins [] []
  | one {word text : List Char} (h : Spells word text) : Joins [word] text
  | more {words : List (List Char)} {text gap word part : List Char} (h : Joins words text) (hwords : words ≠ []) (hgap : Blank gap)
      (hne : gap ≠ []) (hlast : Spells word part) : Joins (words ++ [word]) (text ++ gap ++ part)

/-- Written words with blanks between them, and with any blanks before and behind. -/
def Writes (words : List (List Char)) (text : List Char) : Prop :=
  ∃ lead body trail, Blank lead ∧ Joins words body ∧ Blank trail ∧ text = lead ++ body ++ trail

/-- A text in which every quote is closed: pieces without quotes and pieces between quotes. -/
inductive Closed : List Char → Prop
  | unquoted {text : List Char} (h : ∀ c ∈ text, c ∉ quotes) : Closed text
  | quoted {quote : Char} {text : List Char} (hquote : quote ∈ quotes) (hnone : quote ∉ text) : Closed (quote :: (text ++ [quote]))
  | append {text rest : List Char} (h : Closed text) (hrest : Closed rest) : Closed (text ++ rest)

/-- Whether a quote is open at the end of a text: it stands where all quotes before it are closed, and it does not occur again. -/
def LeftOpen (text : List Char) : Prop :=
  ∃ before quote inside, Closed before ∧ quote ∈ quotes ∧ quote ∉ inside ∧ text = before ++ quote :: inside

variable {r : Reader} {c quote : Char} {word text gap rest part before inside : List Char} {words : List (List Char)}

theorem mem_quotes : c ∈ quotes ↔ c = '"' ∨ c = '\'' := by simp [quotes]

theorem Blank.nil : Blank [] := List.forall_mem_nil _

theorem Blank.append (h : Blank text) (hrest : Blank rest) : Blank (text ++ rest) := List.forall_mem_append.mpr ⟨h, hrest⟩

/-- A blank is no quote. -/
theorem notMem_quotes_of_isBlank (h : isBlank c = true) : c ∉ quotes := by
  intro hquote
  rcases mem_quotes.mp hquote with rfl | rfl <;> exact absurd h (by decide)

/-- What spells a word leaves no quote open. -/
theorem Spells.closed (h : Spells word text) : Closed text := by
  induction h with
  | bare _ hbare => exact .unquoted fun c hc => (hbare c hc).1
  | quoted hquote hnone => exact .quoted hquote hnone
  | append _ _ ih ihmore => exact ih.append ihmore

theorem Blank.closed (h : Blank gap) : Closed gap := .unquoted fun c hc => notMem_quotes_of_isBlank (h c hc)

/-- Words with blanks between them leave no quote open. -/
theorem Joins.closed (h : Joins words text) : Closed text := by
  induction h with
  | none => exact .unquoted (List.forall_mem_nil _)
  | one h => exact h.closed
  | more _ _ hgap _ hlast ih => exact (ih.append hgap.closed).append hlast.closed

/-- What writes words leaves no quote open. -/
theorem Writes.closed (h : Writes words text) : Closed text := by
  obtain ⟨lead, body, trail, hlead, hbody, htrail, rfl⟩ := h
  exact (hlead.closed.append hbody.closed).append htrail.closed

/-! ## What is read of written words -/

/-- The pending word goes on with a text. -/
def Reader.extend (r : Reader) (text : List Char) : Reader := { r with pending := some (r.pending.getD [] ++ text) }

@[simp] theorem quote_extend (r : Reader) (text : List Char) : (r.extend text).quote = r.quote := rfl

@[simp] theorem quote_close (r : Reader) : r.close.quote = r.quote := rfl

theorem extend_extend (r : Reader) (text rest : List Char) : (r.extend text).extend rest = r.extend (text ++ rest) := by
  simp [Reader.extend]

theorem close_close (r : Reader) : r.close.close = r.close := by
  simp [Reader.close]

/-- A quote outside of quotes opens, and with it a word begins or goes on. -/
theorem step_quote (hr : r.quote = none) (hc : c ∈ quotes) : r.step c = { r with quote := some c }.extend [] := by
  simp only [Reader.step, hr, if_pos (mem_quotes.mp hc), Reader.extend, List.append_nil]

/-- A blank outside of quotes closes the word. -/
theorem step_blank (hr : r.quote = none) (hc : isBlank c = true) : r.step c = r.close := by
  have hquote : ¬(c = '"' ∨ c = '\'') := mem_quotes.not.mp (notMem_quotes_of_isBlank hc)
  simp only [Reader.step, hr, if_neg hquote, if_pos hc]

/-- Any other character outside of quotes belongs to the word. -/
theorem step_bare (hr : r.quote = none) (hc : c ∉ quotes) (hblank : isBlank c = false) : r.step c = r.extend [c] := by
  have hquote : ¬(c = '"' ∨ c = '\'') := mem_quotes.not.mp hc
  simp only [Reader.step, hr, if_neg hquote, hblank, Bool.false_eq_true, if_false]
  rfl

/-- Inside quotes each character belongs to the word, except the quote that closes them. -/
theorem step_inside (hr : r.quote = some quote) (hc : c ≠ quote) : r.step c = r.extend [c] := by
  simp only [Reader.step, hr, if_neg hc]
  rfl

/-- The quote that opened closes, and adds nothing to the word. -/
theorem step_closes (hr : r.quote = some quote) : r.step quote = { r with quote := none } := by
  simp only [Reader.step, hr, if_true]

/-- Characters that each are one more of the pending word are all of them added to it. -/
theorem foldl_extend (h : ∀ c ∈ text, ∀ s : Reader, s.quote = r.quote → s.step c = s.extend [c]) (word : List Char) :
    text.foldl Reader.step (r.extend word) = r.extend (word ++ text) := by
  induction text generalizing word with
  | nil => rw [List.append_nil, List.foldl_nil]
  | cons c text ih =>
    obtain ⟨hc, hrest⟩ := List.forall_mem_cons.mp h
    rw [List.foldl_cons, hc _ (quote_extend r word), extend_extend, ih hrest, List.append_assoc, List.singleton_append]

/-- Behind a quote, up to the same quote. -/
theorem foldl_inside (hr : r.quote = none) (hquote : quote ∈ quotes) (hnone : quote ∉ inside) :
    (quote :: inside).foldl Reader.step r = { r with quote := some quote }.extend inside := by
  rw [List.foldl_cons, step_quote hr hquote, foldl_extend, List.nil_append]
  intro c hc s hs
  exact step_inside hs fun heq => hnone (heq ▸ hc)

/-- A written word is read as more of the pending one. -/
theorem Spells.foldl (h : Spells word text) (hr : r.quote = none) : text.foldl Reader.step r = r.extend word := by
  induction h generalizing r with
  | @bare word hne hbare =>
    obtain ⟨c, rest, rfl⟩ := List.exists_cons_of_ne_nil hne
    obtain ⟨hc, hrest⟩ := List.forall_mem_cons.mp hbare
    rw [List.foldl_cons, step_bare hr hc.1 hc.2, foldl_extend, List.singleton_append]
    exact fun d hd s hs => step_bare (hs.trans hr) (hrest d hd).1 (hrest d hd).2
  | quoted hquote hnone =>
    rw [← List.cons_append, List.foldl_append, foldl_inside hr hquote hnone, List.foldl_cons, List.foldl_nil, step_closes rfl]
    exact congrArg (fun q => Reader.extend { r with quote := q } _) hr.symm
  | append _ _ ih ihmore => rw [List.foldl_append, ih hr, ihmore ((quote_extend r _).trans hr), extend_extend]

/-- Blanks close the word, and nothing more. -/
theorem Blank.foldl (h : Blank gap) (hr : r.quote = none) (hne : gap ≠ []) : gap.foldl Reader.step r = r.close := by
  induction gap generalizing r with
  | nil => exact absurd rfl hne
  | cons c gap ih =>
    obtain ⟨hc, hrest⟩ := List.forall_mem_cons.mp h
    rw [List.foldl_cons, step_blank hr hc]
    cases gap with
    | nil => rfl
    | cons d gap => rw [ih hrest ((quote_close r).trans hr) (List.cons_ne_nil _ _), close_close]

/-- Blanks, if there are any, complete the pending word, which it is at the end in any case. -/
theorem Blank.close_foldl (h : Blank gap) (hr : r.quote = none) : (gap.foldl Reader.step r).close = r.close := by
  by_cases hne : gap = []
  · rw [hne, List.foldl_nil]
  · rw [h.foldl hr hne, close_close]

/-- A reader that is between two words. -/
def between (words : List (List Char)) : Reader := ⟨words, none, none⟩

theorem start_eq : start = between [] := rfl

theorem close_between (words : List (List Char)) : (between words).close = between words :=
  congrArg (Reader.mk · none none) (List.append_nil words)

theorem close_extend_between (words : List (List Char)) (word : List Char) :
    ((between words).extend word).close = between (words ++ [word]) := rfl

theorem quote_of_close (h : r.close = between words) : r.quote = none := congrArg Reader.quote h

/-- Blanks before the words are passed over. -/
theorem Blank.foldl_between (h : Blank gap) (words : List (List Char)) : gap.foldl Reader.step (between words) = between words := by
  by_cases hne : gap = []
  · rw [hne, List.foldl_nil]
  · rw [h.foldl rfl hne, close_between]

/-- Words with blanks between them are read as these words. -/
theorem Joins.close_foldl (h : Joins words text) : (text.foldl Reader.step (between [])).close = between words := by
  induction h with
  | none => rfl
  | one h => rw [h.foldl rfl, close_extend_between, List.nil_append]
  | more _ _ hgap hne hlast ih =>
    rw [List.foldl_append, List.foldl_append, hgap.foldl (quote_of_close ih) hne, ih, hlast.foldl rfl, close_extend_between]

/-- The words that a text writes are what is read. -/
theorem Writes.ofChars?_eq (h : Writes words text) : ofChars? text = some words := by
  obtain ⟨lead, body, trail, hlead, hbody, htrail, rfl⟩ := h
  have hquote := quote_of_close hbody.close_foldl
  have hread : ((lead ++ body ++ trail).foldl Reader.step start).close = between words := by
    rw [List.foldl_append, List.foldl_append, start_eq, hlead.foldl_between, htrail.close_foldl hquote, hbody.close_foldl]
  unfold ofChars?
  dsimp only
  rw [hread, quote_of_close hread]
  rfl

/-! ## Open quotes -/

/-- A text that leaves no quote open is read to a place outside of quotes. -/
theorem Closed.quote_foldl (h : Closed text) (hr : r.quote = none) : (text.foldl Reader.step r).quote = none := by
  induction h generalizing r with
  | @unquoted text h =>
    induction text generalizing r with
    | nil => exact hr
    | cons c text ih =>
      obtain ⟨hc, hrest⟩ := List.forall_mem_cons.mp h
      rw [List.foldl_cons]
      cases hblank : isBlank c with
      | true => exact ih hrest (by rw [step_blank hr hblank, quote_close, hr])
      | false => exact ih hrest (by rw [step_bare hr hc hblank, quote_extend, hr])
  | quoted hquote hnone =>
    rw [← List.cons_append, List.foldl_append, foldl_inside hr hquote hnone, List.foldl_cons, List.foldl_nil, step_closes rfl]
  | append _ _ ih ihrest => rw [List.foldl_append, ihrest (ih hr)]

/-- A text that leaves a quote open has no words. -/
theorem LeftOpen.ofChars?_eq (h : LeftOpen text) : ofChars? text = none := by
  obtain ⟨before, quote, inside, hbefore, hquote, hnone, rfl⟩ := h
  have hopen : ((before ++ quote :: inside).foldl Reader.step start).quote = some quote := by
    rw [List.foldl_append, foldl_inside (hbefore.quote_foldl rfl) hquote hnone]
    rfl
  unfold ofChars?
  dsimp only
  rw [hopen]
  rfl

/-! ## Where a reader stands -/

/-- A text that writes words and behind which one more can be written. -/
def Ready (words : List (List Char)) (text : List Char) : Prop :=
  Writes words text ∧ ∀ word part, Spells word part → Writes (words ++ [word]) (text ++ part)

/-- What is written of a word where a quote opens: nothing, or a first part of the word. -/
def Begun (word text : List Char) : Prop := word = [] ∧ text = [] ∨ Spells word text

/-- Where a reader stands behind a text: between words, in a word, or behind a quote that is open. -/
inductive Reads : List Char → Reader → Prop
  | between {words : List (List Char)} {text : List Char} (h : Ready words text) : Reads text (between words)
  | inWord {words : List (List Char)} {before word part : List Char} (h : Ready words before) (hword : Spells word part) :
      Reads (before ++ part) ⟨words, some word, none⟩
  | inQuote {words : List (List Char)} {before word part inside : List Char} {quote : Char} (h : Ready words before)
      (hbegun : Begun word part) (hquote : quote ∈ quotes) (hnone : quote ∉ inside) :
      Reads (before ++ part ++ quote :: inside) ⟨words, some (word ++ inside), some quote⟩

/-- No words are joined by nothing. -/
theorem Joins.eq_nil (h : Joins [] text) : text = [] := by
  generalize hwords : ([] : List (List Char)) = words at h
  cases h with
  | none => rfl
  | one => cases hwords
  | more => exact absurd hwords.symm (by simp)

theorem ready_nil : Ready [] [] :=
  ⟨⟨[], [], [], .nil, .none, .nil, rfl⟩, fun _ part h => ⟨[], part, [], .nil, .one h, .nil, by simp⟩⟩

/-- Behind a blank one more word can be written. -/
theorem Writes.ready (h : Writes words text) (hc : isBlank c = true) : Ready words (text ++ [c]) := by
  obtain ⟨lead, body, trail, hlead, hbody, htrail, rfl⟩ := h
  have hmore : Blank (trail ++ [c]) := htrail.append (List.forall_mem_singleton.mpr hc)
  refine ⟨⟨lead, body, trail ++ [c], hlead, hbody, hmore, by simp⟩, fun word part hspells => ?_⟩
  by_cases hwords : words = []
  -- All blanks so far stand before the first word.
  · subst hwords
    obtain rfl := hbody.eq_nil
    exact ⟨lead ++ (trail ++ [c]), part, [], hlead.append hmore, .one hspells, .nil, by simp⟩
  · exact ⟨lead, body ++ (trail ++ [c]) ++ part, [], hlead, hbody.more hwords hmore (by simp) hspells, .nil, by simp⟩

/-- A word that has begun goes on with what spells the rest. -/
theorem Begun.append (hbegun : Begun word part) {more rest : List Char} (h : Spells more rest) :
    Spells (word ++ more) (part ++ rest) := by
  rcases hbegun with ⟨rfl, rfl⟩ | hword
  · exact h
  · exact hword.append h

/-- Words and the first part of another one leave no quote open. -/
theorem Begun.closed_append (hbegun : Begun word part) (h : Ready words before) : Closed (before ++ part) := by
  rcases hbegun with ⟨-, rfl⟩ | hword
  · rw [List.append_nil]
    exact h.1.closed
  · exact (h.2 _ _ hword).closed

/-- A character that is neither a quote nor a blank spells itself. -/
theorem spells_singleton (hc : c ∉ quotes) (hblank : isBlank c = false) : Spells [c] [c] :=
  .bare (List.cons_ne_nil _ _) (List.forall_mem_singleton.mpr ⟨hc, hblank⟩)

/-- One more character leads from where a reader stands to where it stands next. -/
theorem Reads.step (h : Reads text r) (c : Char) : Reads (text ++ [c]) (r.step c) := by
  cases h with
  | between h =>
    by_cases hc : c ∈ quotes
    · rw [step_quote rfl hc]
      have hopened := Reads.inQuote h (.inl ⟨rfl, rfl⟩) hc List.not_mem_nil
      rw [List.append_nil] at hopened
      exact hopened
    · cases hblank : isBlank c with
      | true =>
        rw [step_blank rfl hblank, close_between]
        exact .between (h.1.ready hblank)
      | false =>
        rw [step_bare rfl hc hblank]
        exact .inWord h (spells_singleton hc hblank)
  | inWord h hword =>
    by_cases hc : c ∈ quotes
    -- The word goes on between the quotes.
    · rw [step_quote rfl hc]
      exact .inQuote h (.inr hword) hc List.not_mem_nil
    · cases hblank : isBlank c with
      | true =>
        rw [step_blank rfl hblank]
        exact .between ((h.2 _ _ hword).ready hblank)
      | false =>
        rw [step_bare rfl hc hblank, List.append_assoc]
        exact .inWord h (hword.append (spells_singleton hc hblank))
  | @inQuote words before word part inside quote h hbegun hquote hnone =>
    by_cases hc : c = quote
    · rw [hc, step_closes rfl, List.append_assoc, List.append_assoc, List.cons_append]
      exact .inWord h (hbegun.append (.quoted hquote hnone))
    · rw [step_inside rfl hc]
      have hnone' : quote ∉ inside ++ [c] := by simpa using ⟨hnone, fun heq => hc heq.symm⟩
      rw [List.append_assoc, List.cons_append]
      simpa [Reader.extend] using Reads.inQuote h hbegun hquote hnone'

/-- Where the reader of a text stands at its end. -/
theorem reads_foldl (text : List Char) : Reads text (text.foldl Reader.step start) := by
  induction text using List.reverseRecOn with
  | nil => exact .between ready_nil
  | append_singleton text c ih =>
    rw [List.foldl_append]
    exact ih.step c

/-- Where no quote is open the text writes the words so far and the pending one. -/
theorem Reads.writes_or_leftOpen (h : Reads text r) :
    r.quote = none ∧ Writes r.close.words text ∨ r.quote ≠ none ∧ LeftOpen text := by
  cases h with
  | between h => exact .inl ⟨rfl, by rw [close_between]; exact h.1⟩
  | inWord h hword => exact .inl ⟨rfl, h.2 _ _ hword⟩
  | inQuote h hbegun hquote hnone =>
    exact .inr ⟨Option.some_ne_none _, _, _, _, hbegun.closed_append h, hquote, hnone, rfl⟩

/-- The words that are read are those that the text writes. -/
theorem ofChars?_eq_some_iff : ofChars? text = some words ↔ Writes words text := by
  refine ⟨fun h => ?_, Writes.ofChars?_eq⟩
  unfold ofChars? at h
  dsimp only at h
  rcases (reads_foldl text).writes_or_leftOpen with ⟨hquote, hwrites⟩ | ⟨hquote, -⟩
  · rw [hquote] at h
    obtain rfl : (text.foldl Reader.step start).close.words = words := by simpa using h
    exact hwrites
  · rw [if_pos (Option.isSome_iff_ne_none.mpr hquote)] at h
    cases h

/-- Nothing is read of a text exactly if it leaves a quote open. -/
theorem ofChars?_eq_none_iff : ofChars? text = none ↔ LeftOpen text := by
  refine ⟨fun h => ?_, LeftOpen.ofChars?_eq⟩
  rcases (reads_foldl text).writes_or_leftOpen with ⟨-, hwrites⟩ | ⟨-, hopen⟩
  · rw [hwrites.ofChars?_eq] at h
    cases h
  · exact hopen

/-! ## Commands -/

/-- A quote of the kind that a character is not. -/
def otherQuote (c : Char) : Char := if c = '"' then '\'' else '"'

/-- A way to write any word: an empty pair of quotes, and then each character between quotes of its own. -/
def spelling (word : List Char) : List Char := ['"', '"'] ++ word.flatMap fun c => [otherQuote c, c, otherQuote c]

/-- A quote is spelled between two of the other kind, as any character is. -/
theorem spells_between_otherQuote (c : Char) : Spells [c] [otherQuote c, c, otherQuote c] := by
  unfold otherQuote
  split
  · rename_i hc
    exact .quoted (mem_quotes.mpr (.inr rfl)) (by simp [hc])
  · rename_i hc
    exact .quoted (mem_quotes.mpr (.inl rfl)) (by simpa using Ne.symm hc)

/-- Every word is spelled by its characters, each between quotes of another kind. -/
theorem spells_spelling (word : List Char) : Spells word (spelling word) := by
  induction word using List.reverseRecOn with
  | nil => exact .quoted (mem_quotes.mpr (.inl rfl)) List.not_mem_nil
  | append_singleton word c ih =>
    have hmore := ih.append (spells_between_otherQuote c)
    simpa [spelling] using hmore

/-- Any words can be written. -/
theorem exists_writes (words : List (List Char)) : ∃ text, Writes words text := by
  induction words using List.reverseRecOn with
  | nil => exact ⟨[], ready_nil.1⟩
  | append_singleton words word ih =>
    obtain ⟨text, h⟩ := ih
    exact ⟨_, (h.ready (c := ' ') (by decide)).2 word _ (spells_spelling word)⟩

/-- Texts are words when their characters are. -/
theorem map_ofList_eq_iff {texts : List (List Char)} {words : List String} :
    texts.map String.ofList = words ↔ texts = words.map String.toList := by
  constructor
  · rintro rfl
    simp [Function.comp_def]
  · rintro rfl
    simp [Function.comp_def]

/-- A command is split into words where its characters are. -/
theorem split_eq_ok_iff {command : String} {words : List String} :
    split command = .ok words ↔ ofChars? command.toList = some (words.map String.toList) := by
  unfold split
  cases ofChars? command.toList with
  | none => simp
  | some texts => simpa using map_ofList_eq_iff

/-- A command is refused where its characters have no words, with the command in the message. -/
theorem split_eq_error_iff {command : String} {failure : Failure} :
    split command = .error failure ↔
      ofChars? command.toList = none ∧ failure = .configuration s!"Unterminated quote in command: {command}" := by
  unfold split
  cases ofChars? command.toList with
  | none => simpa using eq_comm
  | some texts => simp

/-- A command is split into the words that it writes, and nothing else makes it fail than a quote that it leaves open. -/
theorem split_eq_iff (command : String) :
    (∀ words : List String, split command = .ok words ↔ Writes (words.map String.toList) command.toList) ∧
      ∀ failure : Failure, split command = .error failure ↔
        LeftOpen command.toList ∧ failure = .configuration s!"Unterminated quote in command: {command}" := by
  constructor
  · intro words
    rw [split_eq_ok_iff, ofChars?_eq_some_iff]
  · intro failure
    rw [split_eq_error_iff, ofChars?_eq_none_iff]

example : split "agent --model \"big one\" it\"'\"s'\"' ''" = .ok ["agent", "--model", "big one", "it's\"", ""] := by rfl

/-- Any words are those of some command. -/
theorem exists_split_eq_ok (words : List String) : ∃ command, split command = .ok words := by
  obtain ⟨text, h⟩ := exists_writes (words.map String.toList)
  refine ⟨String.ofList text, split_eq_ok_iff.mpr ?_⟩
  rw [String.toList_ofList]
  exact ofChars?_eq_some_iff.mpr h

end QualityGate.Words
