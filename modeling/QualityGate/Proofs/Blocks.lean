import QualityGate.Proofs.SourcePlaces
import QualityGate.Source.Block

/-!
# Blocks and the code channel

The search for the end of a block reads a text on its own: it passes over what it takes for literals and comments, and counts the
braces among the other characters (`Reads`, `afterBlock?_eq_some_iff`). It knows of no toolchain. Where a text has none of the
pieces that its toolchain reads in a way of its own, the search passes over what the scanner keeps off the code channel, and reads
the braces that are on it (`exists_reads`).
-/

namespace QualityGate.Block

open Scan Toolchain

/-! ## What the search reads -/

/-- What of a text is read on the way to a place: literals and comments are passed over whole, other characters are read. -/
inductive Reads (place : List Char) : List Char → List Char → Prop
  | here : Reads place place []
  | pass {text after read : List Char} (passed : pass? text = some after) (behind : Reads place after read) : Reads place text read
  | char {c : Char} {rest read : List Char} (plain : pass? (c :: rest) = none) (behind : Reads place rest read) :
      Reads place (c :: rest) (c :: read)

/-- The braces that are open behind some characters and whether any has been opened, unless a block has been closed by then. -/
def openBraces? : Int → Bool → List Char → Option (Int × Bool)
  | depth, opened, [] => some (depth, opened)
  | depth, opened, c :: rest =>
    if c = '\x7b' then openBraces? (depth + 1) true rest
    else if c = '\x7d' then
      if opened && depth - 1 = 0 then none else openBraces? (depth - 1) opened rest
    else openBraces? depth opened rest

/-- Characters behind which a closing brace closes the first block. -/
def IsOpenBlock (read : List Char) : Prop := openBraces? 0 false read = some (1, true)

instance (read : List Char) : Decidable (IsOpenBlock read) := inferInstanceAs (Decidable (_ = _))

theorem afterLine_isSuffix (text : List Char) : afterLine text <:+ text :=
  (List.drop_suffix 1 _).trans (List.dropWhile_suffix _)

/-- What is behind a comment is the end of the text. -/
theorem afterComment_isSuffix (text : List Char) : afterComment text <:+ text := by
  fun_induction afterComment text with
  | case1 rest => exact (List.suffix_cons '/' rest).trans (List.suffix_cons '*' _)
  | case2 c rest _ ih => exact ih.trans (List.suffix_cons c rest)
  | case3 => exact List.suffix_rfl

/-- What is behind a quoted string is the end of the text. -/
theorem afterQuote_isSuffix (quote : Char) (text : List Char) : afterQuote quote text <:+ text := by
  fun_induction afterQuote quote text with
  | case1 => exact List.suffix_rfl
  | case2 c rest ih => exact ih.trans ((List.suffix_cons c rest).trans (List.suffix_cons '\\' _))
  | case3 rest => exact List.suffix_cons quote rest
  | case4 c rest _ _ ih => exact ih.trans (List.suffix_cons c rest)

/-- The search takes for character literals what the scanner does, code points aside. -/
theorem exists_charToken_of_charLength? {text : List Char} {n : Nat} (h : charLength? text = some n) :
    ∃ token, CharToken token ∧ token <+: text ∧ token.length = n := by
  unfold charLength? at h
  split at h
  · rename_i c rest
    split at h
    · rename_i hc
      rw [Bool.and_eq_true, Bool.not_eq_true'] at hc
      exact ⟨_, .escape hc.1 hc.2, ⟨rest, rfl⟩, Option.some.inj h⟩
    · cases h
  · rename_i c rest _
    split at h
    · rename_i hc
      simp only [Bool.and_eq_true, decide_eq_true_eq] at hc
      exact ⟨_, .plain hc.1.1.1 hc.1.1.2 hc.1.2 hc.2, ⟨rest, rfl⟩, Option.some.inj h⟩
    · cases h
  · cases h

/-- A character literal has a character at least. -/
theorem charLength?_pos {text : List Char} {n : Nat} (h : charLength? text = some n) : 0 < n := by
  obtain ⟨token, htoken, -, rfl⟩ := exists_charToken_of_charLength? h
  cases htoken <;> simp

/-- Something is passed over, and the search goes on in what is left. -/
theorem exists_of_pass? {text after : List Char} (h : pass? text = some after) : ∃ c rest, text = c :: rest ∧ after <:+ rest := by
  unfold pass? at h
  split at h
  · rename_i rest
    rw [← Option.some.inj h]
    exact ⟨_, _, rfl, (afterLine_isSuffix rest).trans (List.suffix_cons '/' rest)⟩
  · rename_i rest
    rw [← Option.some.inj h]
    exact ⟨_, _, rfl, (afterComment_isSuffix rest).trans (List.suffix_cons '*' rest)⟩
  · rename_i c rest _ _
    split at h
    · rw [← Option.some.inj h]
      exact ⟨_, _, rfl, afterQuote_isSuffix c rest⟩
    · obtain ⟨n, hn, rfl⟩ := Option.map_eq_some_iff.mp h
      obtain ⟨m, rfl⟩ := Nat.exists_eq_add_one_of_ne_zero (charLength?_pos hn).ne'
      exact ⟨_, _, rfl, List.drop_suffix m rest⟩
  · cases h

/-- A literal or comment that is passed over leaves less to read. -/
theorem length_lt_of_pass? {text after : List Char} (h : pass? text = some after) : after.length < text.length := by
  obtain ⟨c, rest, rfl, hsuffix⟩ := exists_of_pass? h
  exact Nat.lt_succ_of_le hsuffix.length_le

/-- A character literal begins with its quote. -/
theorem charLength?_eq_none {c : Char} (hc : c ≠ '\'') (rest : List Char) : charLength? (c :: rest) = none := by
  unfold charLength?
  split <;> simp_all

/-- Where no comment begins, a literal is passed over or nothing is. -/
theorem pass?_of_no_comment {c : Char} {rest : List Char} (h : c = '/' → rest.head? ≠ some '/' ∧ rest.head? ≠ some '*') :
    pass? (c :: rest) = if c = '"' ∨ c = '`' then some (afterQuote c rest)
      else (charLength? (c :: rest)).map fun length => (c :: rest).drop length := by
  rw [pass?]
  · rintro more rfl rfl
    exact (h rfl).1 rfl
  · rintro more rfl rfl
    exact (h rfl).2 rfl

/-- No literal or comment begins with a character other than a slash and the quotes. -/
theorem pass?_eq_none {c : Char} (hslash : c ≠ '/') (hquote : isQuote c = false) (rest : List Char) : pass? (c :: rest) = none := by
  simp only [isQuote, Bool.or_eq_false_iff, decide_eq_false_iff_not] at hquote
  rw [pass?_of_no_comment fun h => absurd h hslash, if_neg (by simp [hquote]), charLength?_eq_none hquote.1.2, Option.map_none]

section Reads

variable {place text after read : List Char}

/-- Where a literal or comment is passed over, reading goes on behind it. -/
theorem reads_iff_of_pass (hplace : pass? place = none) (passed : pass? text = some after) :
    Reads place text read ↔ Reads place after read := by
  refine ⟨fun h => ?_, .pass passed⟩
  cases h with
  | here =>
    rw [hplace] at passed
    cases passed
  | pass passed' behind =>
    rw [passed] at passed'
    exact Option.some.inj passed' ▸ behind
  | char plain =>
    rw [plain] at passed
    cases passed

/-- What is read leads to a place within the text. -/
theorem Reads.isSuffix (h : Reads place text read) : place <:+ text := by
  induction h with
  | here => exact List.suffix_rfl
  | pass passed _ ih =>
    obtain ⟨c, rest, rfl, hsuffix⟩ := exists_of_pass? passed
    exact (ih.trans hsuffix).trans (List.suffix_cons c rest)
  | char _ _ ih => exact ih.trans (List.suffix_cons _ _)

/-- Where nothing is passed over, the place is here, or the character is read and the place is behind it. -/
theorem exists_reads_iff_of_char {c : Char} {rest : List Char} (plain : pass? (c :: rest) = none) {P : List Char → Prop} :
    (∃ read, Reads place (c :: rest) read ∧ P read) ↔ place = c :: rest ∧ P [] ∨ ∃ more, Reads place rest more ∧ P (c :: more) := by
  constructor
  · rintro ⟨read, h, hread⟩
    cases h with
    | here => exact .inl ⟨rfl, hread⟩
    | pass passed =>
      rw [plain] at passed
      cases passed
    | char _ behind => exact .inr ⟨_, behind, hread⟩
  · rintro (⟨rfl, hread⟩ | ⟨more, behind, hread⟩)
    · exact ⟨[], .here, hread⟩
    · exact ⟨c :: more, .char plain behind, hread⟩

end Reads

/-- The search ends behind a brace exactly if what it reads up to the brace is an open block. -/
theorem rest?_eq_some_iff {fuel : Nat} {text after : List Char} (hfuel : text.length < fuel) (depth : Int) (opened : Bool) :
    rest? fuel depth opened text = some after ↔
      ∃ read, Reads ('\x7d' :: after) text read ∧ openBraces? depth opened read = some (1, true) := by
  have hplace : pass? ('\x7d' :: after) = none := pass?_eq_none (by decide) (by decide) after
  induction fuel generalizing text depth opened with
  | zero => exact absurd hfuel (Nat.not_lt_zero _)
  | succ fuel ih =>
    cases text with
    | nil =>
      refine iff_of_false nofun ?_
      rintro ⟨read, hreads, -⟩
      cases hreads with
      | pass passed => cases passed
    | cons c rest =>
      rw [rest?]
      cases hpass : pass? (c :: rest) with
      | some next =>
        have hshort := length_lt_of_pass? hpass
        simp only [reads_iff_of_pass hplace hpass]
        exact ih (by omega) depth opened
      | none =>
        have hshort : rest.length < fuel := by simpa using hfuel
        have hrest := fun depth opened => ih hshort depth opened
        rw [exists_reads_iff_of_char hpass]
        simp only [openBraces?, List.cons.injEq]
        by_cases hopen : c = '\x7b'
        · simpa [hopen] using hrest (depth + 1) true
        by_cases hclose : c = '\x7d'
        · by_cases hend : opened = true ∧ depth - 1 = 0
          · have hdepth : depth = 1 := by omega
            simp [hclose, hend.1, hdepth, eq_comm]
          · have hnot : ¬(depth = 1 ∧ opened = true) := fun h => hend ⟨h.2, by omega⟩
            simpa [hclose, hend, hnot] using hrest (depth - 1) opened
        · simpa [hopen, hclose, Ne.symm hclose] using hrest depth opened

/-- The text behind the first block is told by what is read up to the brace that closes it. -/
theorem afterBlock?_eq_some_iff (text after : List Char) :
    afterBlock? text = some after ↔ ∃ read, Reads ('\x7d' :: after) text read ∧ IsOpenBlock read :=
  rest?_eq_some_iff (Nat.lt_succ_self _) 0 false

/-! ## Pieces that are read in a way of their own -/

/-- The pieces that a toolchain with braces reads in a way of its own. -/
def ownPieces : Toolchain → List String
  | .rust => ["`", "r\"", "r#", "'\\u\x7b", "/*"]
  | .go => ["`", "'\\u\x7b"]
  | .deno => ["'"]
  | .pythonUv => []

/-- Whether a text has none of those pieces. -/
def Common (t : Toolchain) (text : List Char) : Prop := ∀ piece ∈ ownPieces t, ¬piece.toList <:+: text

instance (t : Toolchain) (text : List Char) : Decidable (Common t text) :=
  inferInstanceAs (Decidable (∀ piece ∈ ownPieces t, ¬piece.toList <:+: text))

/-- A token without a character ends before the character. -/
theorem isPrefix_of_notMem {token text rest : List Char} {d : Char} (hd : d ∉ token) (h : token <+: text ++ d :: rest) :
    token <+: text := by
  rcases List.prefix_or_prefix_of_prefix h (List.prefix_append text _) with h' | ⟨more, rfl⟩
  · exact h'
  · cases more with
    | nil => simp
    | cons m more =>
      obtain ⟨hm, -⟩ := List.cons_prefix_cons.mp ((List.prefix_append_right_inj text).mp h)
      exact absurd (by simp [hm]) hd

section Common

variable {t : Toolchain} {c : Char} {between after : List Char}

theorem Common.of_cons (h : Common t (c :: between)) : Common t between :=
  fun piece hpiece hinfix => h piece hpiece (List.infix_cons hinfix)

theorem closingBrace_notMem_ownPieces : ∀ piece ∈ ownPieces t, '\x7d' ∉ piece.toList := by
  cases t <;> decide +kernel

/-- Before a closing brace, no such piece begins where the text has none. -/
theorem Common.not_isPrefix (h : Common t between) {piece : String} (hpiece : piece ∈ ownPieces t) :
    ¬piece.toList <+: between ++ '\x7d' :: after := by
  intro hp
  exact h piece hpiece (isPrefix_of_notMem (closingBrace_notMem_ownPieces piece hpiece) hp).isInfix

/-- The opening of a raw literal has one of its pieces. -/
theorem exists_ownPiece_of_rawToken {opening : List Char} {mode : Mode} (h : RawToken opening mode) :
    ∃ piece ∈ ownPieces rust, piece.toList <:+: opening := by
  obtain ⟨lead, n, isLead⟩ := h
  obtain ⟨before, rfl⟩ : ∃ before, lead = before ++ ['r'] := by
    rcases isLead with rfl | rfl
    · exact ⟨[], rfl⟩
    · exact ⟨['b'], rfl⟩
  cases n with
  | zero => exact ⟨"r\"", by simp [ownPieces], before, [], by simp⟩
  | succ n => exact ⟨"r#", by simp [ownPieces], before, List.replicate n '#' ++ ['"'], by simp [List.replicate_succ]⟩

/-- Such a text has no raw string literal that begins before the brace. -/
theorem Common.rawLiteral?_eq_none (h : Common rust (c :: between)) :
    rawLiteral? (c :: lineRest (between ++ '\x7d' :: after)) = none := by
  cases hraw : rawLiteral? (c :: lineRest (between ++ '\x7d' :: after)) with
  | none => rfl
  | some found =>
    obtain ⟨opening, mode⟩ := found
    obtain ⟨htoken, hp⟩ := (rawLiteral?_eq_some_iff _ opening mode).mp hraw
    have hbrace : '\x7d' ∉ opening := by
      intro hmem
      rcases (htoken.opens hp).letters _ hmem with hd | hd | hd <;> exact absurd hd (by decide)
    have hopening : opening <+: c :: between :=
      isPrefix_of_notMem hbrace (hp.trans (List.cons_prefix_cons.mpr ⟨rfl, lineRest_isPrefix _⟩))
    obtain ⟨piece, hpiece, hin⟩ := exists_ownPiece_of_rawToken htoken
    exact absurd (hin.trans hopening.isInfix) (h piece hpiece)

/-- A token within a line is a token of the line. -/
theorem isPrefix_lineRest {token text : List Char} (htoken : '\n' ∉ token) (h : token <+: text) : token <+: lineRest text := by
  obtain ⟨rest, rfl⟩ := h
  have hne : ∀ c ∈ token, decide (c ≠ '\n') = true := by
    intro c hc
    rw [decide_eq_true_eq]
    rintro rfl
    exact htoken hc
  rw [lineRest, List.takeWhile_append_of_pos hne]
  exact List.prefix_append _ _

/-- Both readers see the same character literals, those of code points aside. -/
theorem charLiteral?_eq_charLength? {rest : List Char} (h : ¬"'\\u\x7b".toList <+: '\'' :: rest) :
    charLiteral? ('\'' :: lineRest rest) = charLength? ('\'' :: rest) := by
  have hline : '\'' :: lineRest rest = lineRest ('\'' :: rest) := by simp [lineRest]
  ext n
  constructor
  · intro hn
    obtain ⟨token, htoken, hp, rfl⟩ := (charLiteral?_eq_some_iff _ n).mp hn
    rw [hline] at hp
    obtain ⟨more, hmore⟩ := hp.trans (lineRest_isPrefix _)
    rw [← hmore] at h ⊢
    cases htoken with
    | escape single inLine => simp [charLength?, single, inLine]
    | codePoint => exact absurd ⟨_, rfl⟩ h
    | plain single noEscape noQuote inLine => simp [charLength?, single, noEscape, noQuote, inLine]
  · intro hn
    obtain ⟨token, htoken, hp, rfl⟩ := exists_charToken_of_charLength? hn
    rw [hline]
    exact (charLiteral?_eq_some_iff _ _).mpr ⟨token, htoken, isPrefix_lineRest htoken.lineFeed_notMem hp, rfl⟩

end Common

/-! ## The scanner and the search -/

/-- Where the search goes on when the scanner is in a mode. -/
def resume : Mode → List Char → List Char
  | .lineComment, text => afterLine text
  | .blockComment _, text => afterComment text
  | .literal [quote] _, text => afterQuote quote text
  | _, text => text

/-- Where the search goes on when the scanner has some of a token to skip. -/
def resumeAt (k : Cursor) (text : List Char) : List Char := resume k.mode (text.drop k.skip)

/-- The modes in which both readers are inside the same thing. -/
def IsShared (t : Toolchain) : Mode → Prop
  | .code | .lineComment => True
  | .blockComment depth => nestedBlocks t = false ∧ depth = 1
  | .literal close escapes => ∃ quote, isQuote quote = true ∧ close = [quote] ∧ escapes = true

/-- The scanner at a place that the search understands: what is left of a token is left on the line, or is the character behind a
backslash. -/
structure Alike (t : Toolchain) (k : Cursor) (text : List Char) : Prop where
  mode : IsShared t k.mode
  room : k.skip ≤ (lineRest text).length ∨ k.skip = 1 ∧ isLiteral k.mode = true

/-- What the search does where the scanner takes a character and is alike behind it. -/
inductive Follows (t : Toolchain) (k : Cursor) (c : Char) (text : List Char) : Prop
  | inside (busy : ¬InCode k) (same : resumeAt k (c :: text) = resumeAt (cross t k c text) text)
  | char (here : InCode k) (plain : pass? (c :: text) = none) (shows : shown t k c text = [c])
      (next : InCode (cross t k c text))
  | token (here : InCode k) (passed : pass? (c :: text) = some (resumeAt (cross t k c text) text))

section Steps

variable {t : Toolchain} {k : Cursor} {c : Char} {text : List Char} {mode : Mode} {skip : Nat}

/-- The modes of both readers are modes that occur. -/
theorem IsShared.regular (h : IsShared t mode) : Regular mode := by
  cases mode with
  | code | lineComment => trivial
  | blockComment =>
    obtain ⟨-, rfl⟩ := h
    exact Nat.one_pos
  | literal =>
    obtain ⟨quote, hquote, rfl, -⟩ := h
    exact ⟨List.cons_ne_nil _ _, by simpa using isDelimiter_of_isQuote hquote⟩

/-- In code the search goes on with the whole text. -/
theorem resumeAt_of_inCode (h : InCode k) (text : List Char) : resumeAt k text = text := by
  rw [resumeAt, h.1, h.2]
  rfl

theorem alike_of_inCode (h : InCode k) : Alike t k text :=
  ⟨by rw [h.1]; trivial, .inl (by rw [h.2]; exact Nat.zero_le _)⟩

theorem not_inCode_of_mode (h : k.mode = mode) (hmode : mode ≠ .code) : ¬InCode k := fun hin => hmode (h.symm.trans hin.1)

/-- Inside a token or a comment the search is told by the mode that the scanner comes to. -/
theorem follows_inside (busy : ¬InCode k) (hnext : (cross t k c text).mode = mode ∧ (cross t k c text).skip = skip)
    (shared : IsShared t mode) (room : skip ≤ (lineRest text).length ∨ skip = 1 ∧ isLiteral mode = true)
    (same : resumeAt k (c :: text) = resume mode (text.drop skip)) :
    Alike t (cross t k c text) text ∧ Follows t k c text := by
  obtain ⟨rfl, rfl⟩ := hnext
  exact ⟨⟨shared, room⟩, .inside busy same⟩

/-- A token or a comment that opens is passed over. -/
theorem follows_token (here : InCode k) (hnext : (cross t k c text).mode = mode ∧ (cross t k c text).skip = skip)
    (shared : IsShared t mode) (room : skip ≤ (lineRest text).length)
    (passed : pass? (c :: text) = some (resume mode (text.drop skip))) :
    Alike t (cross t k c text) text ∧ Follows t k c text := by
  obtain ⟨rfl, rfl⟩ := hnext
  exact ⟨⟨shared, .inl room⟩, .token here passed⟩

/-- At a line feed both readers leave what ends with the line. -/
theorem follows_lineFeed (h : Alike t k ('\n' :: text)) : Alike t (cross t k '\n' text) text ∧ Follows t k '\n' text := by
  have hroom : k.skip = 0 ∨ k.skip = 1 ∧ isLiteral k.mode = true := h.room.imp_left fun hle => by simpa [lineRest] using hle
  have hshared := h.mode
  have hnext : (cross t k '\n' text).mode = nextMode k.mode ∧ (cross t k '\n' text).skip = 0 := ⟨rfl, rfl⟩
  cases hmode : k.mode with
  | code =>
    have hfree : k.skip = 0 := by simpa [hmode, isLiteral] using hroom
    have hin : InCode (cross t k '\n' text) := ⟨by rw [hnext.1, hmode]; rfl, hnext.2⟩
    exact ⟨alike_of_inCode hin, .char ⟨hmode, hfree⟩ (pass?_eq_none (by decide) (by decide) text) (by simp [shown]) hin⟩
  | lineComment =>
    have hfree : k.skip = 0 := by simpa [hmode, isLiteral] using hroom
    rw [hmode] at hnext
    refine follows_inside (not_inCode_of_mode hmode (by simp)) hnext trivial (.inl (Nat.zero_le _)) ?_
    simp [resumeAt, hmode, hfree, resume, nextMode, afterLine]
  | blockComment depth =>
    have hfree : k.skip = 0 := by simpa [hmode, isLiteral] using hroom
    rw [hmode] at hnext hshared
    refine follows_inside (not_inCode_of_mode hmode (by simp)) hnext hshared (.inl (Nat.zero_le _)) ?_
    simp [resumeAt, hmode, hfree, resume, nextMode, afterComment]
  | literal close escapes =>
    rw [hmode] at hnext hshared
    refine follows_inside (not_inCode_of_mode hmode (by simp)) hnext hshared (.inl (Nat.zero_le _)) ?_
    obtain ⟨quote, hquote, rfl, rfl⟩ := hshared
    have hne : quote ≠ '\n' := by
      rintro rfl
      exact absurd hquote (by decide)
    -- A backslash at the end of the line takes the line feed along.
    rcases hroom with hfree | ⟨hskip, -⟩
    · simp [resumeAt, hmode, hfree, resume, nextMode, afterQuote, hne.symm]
    · simp [resumeAt, hmode, hskip, resume, nextMode]

/-- A character of a token that the scanner has read is passed over by both readers. -/
theorem follows_skip (h : Alike t k (c :: text)) (hc : c ≠ '\n') (hskip : 0 < k.skip) :
    Alike t (cross t k c text) text ∧ Follows t k c text := by
  have hnext : (cross t k c text).mode = k.mode ∧ (cross t k c text).skip = k.skip - 1 := by simp [cross, hc, step, hskip]
  have hroom : k.skip - 1 ≤ (lineRest text).length := by
    rcases h.room with hle | ⟨hone, -⟩
    · rw [lineRest_cons hc, List.length_cons] at hle
      exact Nat.sub_le_of_le_add hle
    · simp [hone]
  refine follows_inside (fun hin => absurd hin.2 (Nat.ne_of_gt hskip)) hnext h.mode (.inl hroom) ?_
  obtain ⟨n, hn⟩ := Nat.exists_eq_succ_of_ne_zero (Nat.ne_of_gt hskip)
  simp [resumeAt, hn]

/-- In a line comment both readers pass over the character. -/
theorem follows_lineComment (hc : c ≠ '\n') (free : k.skip = 0) (hmode : k.mode = .lineComment) :
    Alike t (cross t k c text) text ∧ Follows t k c text := by
  have hnext : (cross t k c text).mode = .lineComment ∧ (cross t k c text).skip = 0 := by
    simp [cross, hc, step, free, modeStep, hmode, Cursor.say]
  refine follows_inside (not_inCode_of_mode hmode (by simp)) hnext trivial (.inl (Nat.zero_le _)) ?_
  simp [resumeAt, hmode, free, resume, afterLine, hc]

/-- A comment goes on with each character that does not begin its end. -/
theorem afterComment_cons (h : ¬(c = '*' ∧ text.head? = some '/')) : afterComment (c :: text) = afterComment text := by
  rw [afterComment]
  rintro rest rfl rfl
  exact h ⟨rfl, rfl⟩

/-- In a block comment both readers pass over the character, and leave the comment at its end. -/
theorem follows_block (hc : c ≠ '\n') (free : k.skip = 0) (hmode : k.mode = .blockComment 1) (hnested : nestedBlocks t = false) :
    Alike t (cross t k c text) text ∧ Follows t k c text := by
  have hslash := head?_lineRest (d := '/') (by decide) text
  by_cases hclose : c = '*' ∧ text.head? = some '/'
  · have hnext : (cross t k c text).mode = .code ∧ (cross t k c text).skip = 1 := by
      simp [cross, step, free, modeStep, hmode, hslash, hclose, Cursor.enter]
    obtain ⟨rfl, hhead⟩ := hclose
    obtain ⟨more, rfl⟩ := List.head?_eq_some_iff.mp hhead
    refine follows_inside (not_inCode_of_mode hmode (by simp)) hnext trivial (.inl (by simp [lineRest])) ?_
    simp [resumeAt, hmode, free, resume, afterComment]
  · have hnext : (cross t k c text).mode = .blockComment 1 ∧ (cross t k c text).skip = 0 := by
      simp [cross, hc, step, free, modeStep, hmode, hnested, hslash, hclose, Cursor.say]
    refine follows_inside (not_inCode_of_mode hmode (by simp)) hnext ⟨hnested, rfl⟩ (.inl (Nat.zero_le _)) ?_
    simp [resumeAt, hmode, free, resume, afterComment_cons hclose]

/-- In a literal both readers pass over the character, and leave the literal at its quote. -/
theorem follows_literal (hc : c ≠ '\n') (free : k.skip = 0) {quote : Char} (hmode : k.mode = .literal [quote] true)
    (hquote : isQuote quote = true) : Alike t (cross t k c text) text ∧ Follows t k c text := by
  have hshared : IsShared t (.literal [quote] true) := ⟨quote, hquote, rfl, rfl⟩
  have hbusy := not_inCode_of_mode hmode (by simp)
  by_cases hescape : c = '\\'
  · have hnext : (cross t k c text).mode = .literal [quote] true ∧ (cross t k c text).skip = 1 := by
      simp [cross, step, free, modeStep, hmode, hescape, Cursor.enter]
    refine follows_inside hbusy hnext hshared (.inr ⟨rfl, rfl⟩) ?_
    cases text <;> simp [resumeAt, hmode, free, resume, afterQuote, hescape]
  by_cases hclose : c = quote
  · subst hclose
    have hnext : (cross t k c text).mode = .code ∧ (cross t k c text).skip = 0 := by
      simp [cross, hc, step, free, modeStep, hmode, hescape, Cursor.enter]
    refine follows_inside hbusy hnext trivial (.inl (Nat.zero_le _)) ?_
    simp [resumeAt, hmode, free, resume, afterQuote, hescape]
  · have hnext : (cross t k c text).mode = .literal [quote] true ∧ (cross t k c text).skip = 0 := by
      simp [cross, hc, step, free, modeStep, hmode, hescape, Ne.symm hclose]
    refine follows_inside hbusy hnext hshared (.inl (Nat.zero_le _)) ?_
    simp [resumeAt, hmode, free, resume, afterQuote, hescape, hclose]

/-! ### In code -/

/-- No literal begins where there is neither a quote nor a raw string. -/
theorem literal?_eq_none {previous : Option Char} {rest : List Char} (hquote : isQuote c = false)
    (hraw : t = rust → rawLiteral? (c :: rest) = none) : literal? t previous (c :: rest) = none := by
  simp only [isQuote, Bool.or_eq_false_iff, decide_eq_false_iff_not] at hquote
  obtain ⟨⟨hdouble, hsingle⟩, hback⟩ := hquote
  cases t <;> simp [literal?, hdouble, hsingle, hback, Ne.symm hdouble, Ne.symm hsingle, hraw]

/-- In code the scanner takes a character with the rest of the line in view. -/
theorem cross_inCode (h : InCode k) (hc : c ≠ '\n') :
    cross t k c text = { codeStep t k c (lineRest text) with previous := some c, position := k.position + 1 } := by
  simp [cross, hc, step, h.2, modeStep, h.1]

/-- What a character in code does where no comment opens. -/
theorem codeStep_of_not_opens {rest : List Char} (hopens : opensComment t c rest = false) :
    codeStep t k c rest =
      match (if (t = .rust ∨ t = .go) ∧ c = '\'' then charLiteral? (c :: rest) else none) with
      | some length => (k.emit ['\'', '\'']).enter .code (length - 1)
      | none =>
        match literal? t k.previous (c :: rest) with
        | some (opening, mode) => (k.emit opening).enter mode (opening.length - 1)
        | none => k.emit [c] := by
  have hnone := hopens
  rw [opensComment_eq, Bool.or_eq_false_iff, Bool.or_eq_false_iff] at hnone
  unfold codeStep
  dsimp only
  rw [hopens, Cursor.mark_false]
  exact (if_neg (by simp [hnone])).trans ((if_neg (by simp [hnone])).trans (if_neg (by simp [hnone])))

/-- Where no token and no comment begins, the character is code and nothing else happens. -/
theorem plain_inCode (h : InCode k) (hc : c ≠ '\n') (hopens : opensComment t c (lineRest text) = false)
    (hchar : (if (t = .rust ∨ t = .go) ∧ c = '\'' then charLiteral? (c :: lineRest text) else none) = none)
    (hliteral : literal? t k.previous (c :: lineRest text) = none) : InCode (cross t k c text) ∧ shown t k c text = [c] := by
  have hcode : codeStep t k c (lineRest text) = k.emit [c] := by rw [codeStep_of_not_opens hopens, hchar, hliteral]
  have hstep : step t k c (lineRest text) = cross t k c text := by simp [cross, hc]
  rw [shown, if_neg hc, hstep, cross_inCode h hc, hcode]
  exact ⟨h, by simp [Cursor.emit]⟩

/-- Where no token and no comment begins, both readers read the character. -/
theorem follows_plain (h : InCode k) (hc : c ≠ '\n') (hopens : opensComment t c (lineRest text) = false)
    (hchar : (if (t = .rust ∨ t = .go) ∧ c = '\'' then charLiteral? (c :: lineRest text) else none) = none)
    (hliteral : literal? t k.previous (c :: lineRest text) = none) (hpass : pass? (c :: text) = none) :
    Alike t (cross t k c text) text ∧ Follows t k c text := by
  obtain ⟨hnext, hshown⟩ := plain_inCode h hc hopens hchar hliteral
  exact ⟨alike_of_inCode hnext, .char h hpass hshown hnext⟩

/-- A closing brace in code is shown. -/
theorem shown_closingBrace (h : InCode k) : shown t k '\x7d' text = ['\x7d'] := by
  have hopens : opensComment t '\x7d' (lineRest text) = false := by simp [opensComment]
  exact (plain_inCode h (by decide) hopens (by simp) (literal?_eq_none (by decide) fun _ => by simp [rawLiteral?])).2

/-- In code, a slash opens a comment for both readers or for none. -/
theorem follows_slash (h : InCode k) (hhash : hashComments t = false) (hblock : nestedBlocks t = true → text.head? ≠ some '*') :
    Alike t (cross t k '/' text) text ∧ Follows t k '/' text := by
  have hslash := head?_lineRest (d := '/') (by decide) text
  have hstar := head?_lineRest (d := '*') (by decide) text
  have hcross : cross t k '/' text = _ := cross_inCode h (by decide)
  by_cases hline : text.head? = some '/'
  · obtain ⟨more, rfl⟩ := List.head?_eq_some_iff.mp hline
    have hnext : (cross t k '/' ('/' :: more)).mode = .lineComment ∧ (cross t k '/' ('/' :: more)).skip = 1 := by
      simp [hcross, codeStep, hhash, hslash, Cursor.enter]
    exact follows_token h hnext trivial (by simp [lineRest]) rfl
  by_cases hopen : text.head? = some '*'
  · obtain ⟨more, rfl⟩ := List.head?_eq_some_iff.mp hopen
    have hnested : nestedBlocks t = false := by simpa using hblock
    have hnext : (cross t k '/' ('*' :: more)).mode = .blockComment 1 ∧ (cross t k '/' ('*' :: more)).skip = 1 := by
      simp [hcross, codeStep, hhash, hslash, hstar, Cursor.enter]
    exact follows_token h hnext ⟨hnested, rfl⟩ (by simp [lineRest]) rfl
  have hopens : opensComment t '/' (lineRest text) = false := by simp [opensComment, hhash, hslash, hstar, hline, hopen]
  have hpass : pass? ('/' :: text) = none := by
    rw [pass?_of_no_comment fun _ => ⟨hline, hopen⟩, if_neg (by decide), charLength?_eq_none (by decide), Option.map_none]
  exact follows_plain h (by decide) hopens (by simp) (literal?_eq_none (by decide) fun _ => by simp [rawLiteral?]) hpass

/-- A comment begins with a slash, where no other sign opens one. -/
theorem opensComment_eq_false (hhash : hashComments t = false) (hc : c ≠ '/') (rest : List Char) :
    opensComment t c rest = false := by
  simp [opensComment, hhash, hc]

/-- A quote that closes itself opens the same literal for both readers. -/
theorem follows_quote (h : InCode k) (hhash : hashComments t = false) (hquote : c = '"' ∨ c = '`')
    (hliteral : literal? t k.previous (c :: lineRest text) = some ([c], .literal [c] true)) :
    Alike t (cross t k c text) text ∧ Follows t k c text := by
  have hne : c ≠ '\n' ∧ c ≠ '/' ∧ c ≠ '\'' ∧ isQuote c = true := by rcases hquote with rfl | rfl <;> decide
  obtain ⟨hline, hslash, hsingle, hisQuote⟩ := hne
  have hcode : codeStep t k c (lineRest text) = (k.emit [c]).enter (.literal [c] true) 0 := by
    rw [codeStep_of_not_opens (opensComment_eq_false hhash hslash _), hliteral, if_neg fun hc => hsingle hc.2]
    rfl
  have hnext : (cross t k c text).mode = .literal [c] true ∧ (cross t k c text).skip = 0 := by
    rw [cross_inCode h hline, hcode]
    exact ⟨rfl, rfl⟩
  have hpass : pass? (c :: text) = some (afterQuote c text) := by
    rw [pass?_of_no_comment fun hc => absurd hc hslash, if_pos hquote]
  exact follows_token h hnext ⟨c, hisQuote, rfl, rfl⟩ (Nat.zero_le _) hpass

/-- A character literal is one for both readers or for none. -/
theorem follows_single (h : InCode k) (ht : t = .rust ∨ t = .go) (hpoint : ¬"'\\u\x7b".toList <+: '\'' :: text) :
    Alike t (cross t k '\'' text) text ∧ Follows t k '\'' text := by
  have hhash : hashComments t = false := by rcases ht with rfl | rfl <;> rfl
  have hopens := opensComment_eq_false (c := '\'') hhash (by decide) (lineRest text)
  have hsame := charLiteral?_eq_charLength? hpoint
  have hchar : (if (t = .rust ∨ t = .go) ∧ '\'' = '\'' then charLiteral? ('\'' :: lineRest text) else none) =
      charLength? ('\'' :: text) := by rw [if_pos ⟨ht, rfl⟩, hsame]
  have hpass : pass? ('\'' :: text) = (charLength? ('\'' :: text)).map fun length => ('\'' :: text).drop length := by
    rw [pass?_of_no_comment fun hc => absurd hc (by decide), if_neg (by decide)]
  cases hlength : charLength? ('\'' :: text) with
  | none =>
    rw [hlength] at hchar hpass
    have hliteral : literal? t k.previous ('\'' :: lineRest text) = none := by
      rcases ht with rfl | rfl <;> simp [literal?, rawLiteral?]
    exact follows_plain h (by decide) hopens hchar hliteral hpass
  | some n =>
    rw [hlength] at hchar hpass hsame
    obtain ⟨token, -, hp, rfl⟩ := (charLiteral?_eq_some_iff _ n).mp hsame
    have hcode : codeStep t k '\'' (lineRest text) = (k.emit ['\'', '\'']).enter .code (token.length - 1) := by
      rw [codeStep_of_not_opens hopens, hchar]
    have hnext : (cross t k '\'' text).mode = .code ∧ (cross t k '\'' text).skip = token.length - 1 := by
      rw [cross_inCode h (by decide), hcode]
      exact ⟨rfl, rfl⟩
    have hle := hp.length_le
    rw [List.length_cons] at hle
    refine follows_token h hnext trivial (Nat.sub_le_of_le_add hle) ?_
    obtain ⟨m, hm⟩ := Nat.exists_eq_succ_of_ne_zero (Nat.ne_of_gt (charLength?_pos hlength))
    rw [hpass, hm]
    rfl

/-- In code without pieces of its own, the toolchain takes a character as the search does. -/
theorem follows_code (ht : t ≠ .pythonUv) (h : InCode k) (hc : c ≠ '\n') {between after : List Char}
    (hcommon : Common t (c :: between)) (htext : text = between ++ '\x7d' :: after) :
    Alike t (cross t k c text) text ∧ Follows t k c text := by
  have hhash : hashComments t = false := by simpa [hashComments] using ht
  have hpiece : ∀ piece ∈ ownPieces t, ¬piece.toList <+: c :: text := fun piece hpiece => htext ▸ hcommon.not_isPrefix hpiece
  by_cases hslash : c = '/'
  · subst hslash
    refine follows_slash h hhash fun hnested hhead => ?_
    obtain rfl : t = .rust := by simpa [nestedBlocks] using hnested
    obtain ⟨more, rfl⟩ := List.head?_eq_some_iff.mp hhead
    exact hpiece "/*" (by simp [ownPieces]) ⟨more, rfl⟩
  have hraw : t = .rust → rawLiteral? (c :: lineRest text) = none := by
    rintro rfl
    exact htext ▸ hcommon.rawLiteral?_eq_none
  by_cases hdouble : c = '"'
  · subst hdouble
    refine follows_quote h hhash (.inl rfl) ?_
    cases t with
    | pythonUv => exact absurd rfl ht
    | rust | go | deno => simp [literal?, hraw]
  by_cases hback : c = '`'
  · subst hback
    refine follows_quote h hhash (.inr rfl) ?_
    cases t with
    | pythonUv => exact absurd rfl ht
    | rust | go => exact absurd ⟨text, rfl⟩ (hpiece "`" (by simp [ownPieces]))
    | deno => simp [literal?]
  by_cases hsingle : c = '\''
  · subst hsingle
    cases t with
    | pythonUv => exact absurd rfl ht
    | deno => exact absurd ⟨text, rfl⟩ (hpiece "'" (by simp [ownPieces]))
    | rust => exact follows_single h (.inl rfl) (hpiece "'\\u\x7b" (by simp [ownPieces]))
    | go => exact follows_single h (.inr rfl) (hpiece "'\\u\x7b" (by simp [ownPieces]))
  have hquote : isQuote c = false := by simp [isQuote, hdouble, hsingle, hback]
  exact follows_plain h hc (opensComment_eq_false hhash hslash _) (if_neg fun heq => hsingle heq.2) (literal?_eq_none hquote hraw)
    (pass?_eq_none hslash hquote text)

/-- Before the closing brace of a text that has nothing of its toolchain's own, the search follows the scanner. -/
theorem follows (ht : t ≠ .pythonUv) (h : Alike t k (c :: text)) {between after : List Char} (hcommon : Common t (c :: between))
    (htext : text = between ++ '\x7d' :: after) : Alike t (cross t k c text) text ∧ Follows t k c text := by
  by_cases hc : c = '\n'
  · subst hc
    exact follows_lineFeed h
  by_cases hskip : 0 < k.skip
  · exact follows_skip h hc hskip
  have free : k.skip = 0 := by simpa using hskip
  have hshared := h.mode
  cases hmode : k.mode with
  | code => exact follows_code ht ⟨hmode, free⟩ hc hcommon htext
  | lineComment => exact follows_lineComment hc free hmode
  | blockComment depth =>
    rw [hmode] at hshared
    obtain ⟨hnested, rfl⟩ := hshared
    exact follows_block hc free hmode hnested
  | literal close escapes =>
    rw [hmode] at hshared
    obtain ⟨quote, hquote, rfl, rfl⟩ := hshared
    exact follows_literal hc free hmode hquote

end Steps

/-! ## Braces -/

/-- Whether a character is a brace. -/
def isBrace (c : Char) : Bool := c = '\x7b' || c = '\x7d'

/-- Only braces open and close blocks. -/
theorem openBraces?_filter (depth : Int) (opened : Bool) (read : List Char) :
    openBraces? depth opened (read.filter isBrace) = openBraces? depth opened read := by
  induction read generalizing depth opened with
  | nil => rfl
  | cons c rest ih =>
    by_cases hopen : c = '\x7b'
    · simp [hopen, isBrace, openBraces?, ih]
    by_cases hclose : c = '\x7d'
    · simp [hclose, isBrace, openBraces?, ih]
    · simp [hopen, hclose, isBrace, openBraces?, ih]

section Agreement

variable {t : Toolchain} {k : Cursor} {c : Char} {text : List Char}

/-- Only a brace in code is shown as one. -/
theorem filter_shown_eq_nil (hk : Regular k.mode) (h : InCode k → isBrace c = false) : (shown t k c text).filter isBrace = [] := by
  rw [List.filter_eq_nil_iff]
  intro d hd hbrace
  rcases shown_cases hk c text with htoken | ⟨heq, hline | hin⟩
  · have hd' := htoken d hd
    simp only [isBrace, Bool.or_eq_true, decide_eq_true_eq] at hbrace
    rcases hbrace with rfl | rfl <;> exact absurd hd' (by decide)
  · obtain rfl : d = c := by simpa [heq] using hd
    rw [hline] at hbrace
    exact absurd hbrace (by decide)
  · obtain rfl : d = c := by simpa [heq] using hd
    rw [h hin] at hbrace
    cases hbrace

/-- No literal or comment begins with a brace. -/
theorem isBrace_eq_false_of_pass? {after : List Char} (h : pass? (c :: text) = some after) : isBrace c = false := by
  by_contra hbrace
  have hnone : pass? (c :: text) = none := by
    simp only [isBrace, Bool.not_eq_false, Bool.or_eq_true, decide_eq_true_eq] at hbrace
    rcases hbrace with rfl | rfl <;> exact pass?_eq_none (by decide) (by decide) text
  rw [hnone] at h
  cases h

/-- Up to a brace in code, the search reads the braces that are on the code channel. -/
theorem exists_reads (ht : t ≠ .pythonUv) {between after : List Char} (hcommon : Common t between)
    (h : Alike t k (between ++ '\x7d' :: after)) (hend : InCode (through t k between ('\x7d' :: after))) :
    ∃ read, Reads ('\x7d' :: after) (resumeAt k (between ++ '\x7d' :: after)) read ∧
      read.filter isBrace = (codeOf t k between ('\x7d' :: after)).filter isBrace := by
  -- On the text before the brace: the scanner stays alike, and the search reads at its place what it adds to the code.
  induction between generalizing k with
  | nil =>
    have hplace : resumeAt k ('\x7d' :: after) = '\x7d' :: after := resumeAt_of_inCode hend _
    exact ⟨[], by rw [List.nil_append, hplace]; exact .here, rfl⟩
  | cons c between ih =>
    rw [List.cons_append] at h ⊢
    obtain ⟨hnext, hfollows⟩ := follows ht h hcommon rfl
    obtain ⟨read, hreads, hbraces⟩ := ih hcommon.of_cons hnext hend
    rw [codeOf, List.filter_append, ← hbraces]
    cases hfollows with
    | inside busy same =>
      rw [filter_shown_eq_nil h.mode.regular fun hin => absurd hin busy]
      exact ⟨read, same ▸ hreads, rfl⟩
    | char here plain hshown next =>
      rw [resumeAt_of_inCode next] at hreads
      rw [resumeAt_of_inCode here, hshown, ← List.filter_append]
      exact ⟨c :: read, .char plain hreads, rfl⟩
    | token here passed =>
      rw [resumeAt_of_inCode here, filter_shown_eq_nil h.mode.regular fun _ => isBrace_eq_false_of_pass? passed]
      exact ⟨read, .pass passed hreads, rfl⟩

end Agreement

end QualityGate.Block
