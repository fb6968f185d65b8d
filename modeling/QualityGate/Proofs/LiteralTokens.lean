import Mathlib.Data.List.TakeWhile
import QualityGate.Source.Scan

/-!
# The tokens that open and close literals

Whether a literal stands at the start of a text depends on the characters of its token alone: a token is recognised in every text
that begins with it, and what follows its end plays no part. Tokens end in a delimiter.
-/

namespace QualityGate.Scan

/-- The characters that literals are closed by. -/
def isDelimiter (c : Char) : Bool := c = '"' || c = '\'' || c = '`' || c = '#'

/-- The characters that begin what closes a literal. -/
def isQuote (c : Char) : Bool := c = '"' || c = '\'' || c = '`'

/-- A delimiter is no blank. -/
theorem not_isBlank_of_isDelimiter {c : Char} (h : isDelimiter c = true) : isBlank c = false := by
  simp only [isDelimiter, Bool.or_eq_true, decide_eq_true_eq] at h
  rcases h with ((rfl | rfl) | rfl) | rfl <;> decide

/-! ## Characters between single quotes -/

/-- The texts of character literals. -/
inductive CharToken : List Char → Prop
  | escape {c : Char} (single : isSingle c = true) (inLine : isLineEnd c = false) : CharToken ['\'', '\\', c, '\'']
  | codePoint {hex : List Char} (some_ : hex ≠ []) (digits : ∀ c ∈ hex, isHexDigit c = true) :
      CharToken ('\'' :: '\\' :: 'u' :: '\x7b' :: (hex ++ ['\x7d', '\'']))
  | plain {c : Char} (single : isSingle c = true) (noEscape : c ≠ '\\') (noQuote : c ≠ '\'') (inLine : c ≠ '\n') :
      CharToken ['\'', c, '\'']

/-- A character literal stands within a line. -/
theorem CharToken.lineFeed_notMem {token : List Char} (h : CharToken token) : '\n' ∉ token := by
  cases h with
  | @escape c _ inLine =>
    have hc : '\n' ≠ c := by
      rintro rfl
      exact absurd inLine (by decide)
    simp [hc]
  | @codePoint hex _ digits =>
    have hhex : '\n' ∉ hex := by
      intro hmem
      exact absurd (digits '\n' hmem) (by decide)
    simp [hhex]
  | plain _ _ _ inLine => simp [inLine.symm]

theorem CharToken.getLast?_eq {token : List Char} (h : CharToken token) : token.getLast? = some '\'' := by
  cases h <;> simp [List.getLast?_cons]

/-- The digits at the start of a text, and a brace and a quote that follow them. -/
theorem takeWhile_isHexDigit_append {hex : List Char} (h : ∀ c ∈ hex, isHexDigit c = true) (rest : List Char) :
    (hex ++ '\x7d' :: '\'' :: rest).takeWhile isHexDigit = hex := by
  rw [List.takeWhile_append_of_pos h, List.takeWhile_cons_of_neg (by decide), List.append_nil]

/-- Behind the digits of an escaped character stand a brace and the quote. -/
theorem eq_takeWhile_append_of_take_two {more : List Char}
    (h : (more.drop (more.takeWhile isHexDigit).length).take 2 = ['\x7d', '\'']) :
    ∃ rest, more = more.takeWhile isHexDigit ++ '\x7d' :: '\'' :: rest := by
  refine ⟨(more.drop (more.takeWhile isHexDigit).length).drop 2, ?_⟩
  have hsplit := List.take_append_drop 2 (more.drop (more.takeWhile isHexDigit).length)
  rw [h] at hsplit
  have hp : more.takeWhile isHexDigit <+: more := List.takeWhile_prefix isHexDigit
  exact (List.prefix_iff_eq_append.mp hp).symm.trans (congrArg _ hsplit.symm)

/-- A character literal is found whatever stands behind it. -/
theorem CharToken.charLiteral?_append {token : List Char} (h : CharToken token) (rest : List Char) :
    charLiteral? (token ++ rest) = some token.length := by
  cases h with
  | escape single inLine => simp [charLiteral?, single, inLine]
  | @codePoint hex some_ digits => simp [charLiteral?, takeWhile_isHexDigit_append digits, some_]
  | @plain c single noEscape noQuote inLine =>
    unfold charLiteral?
    split
    · rename_i heq
      simp only [List.cons_append, List.cons.injEq, true_and] at heq
      exact absurd heq.1 noEscape
    · rename_i heq
      simp only [List.cons_append, List.nil_append, List.cons.injEq, true_and] at heq
      obtain ⟨rfl, -⟩ := heq
      simp [single, noEscape, noQuote, inLine]
    · rename_i hne
      exact absurd rfl (hne _ _)

/-- A character literal that is found is one of these texts. -/
theorem exists_charToken_of_charLiteral? {text : List Char} {n : Nat} (h : charLiteral? text = some n) :
    ∃ token, CharToken token ∧ token <+: text ∧ token.length = n := by
  unfold charLiteral? at h
  split at h
  · rename_i c rest
    split at h
    · rename_i hc
      simp only [Bool.and_eq_true, Bool.not_eq_true', decide_eq_true_eq] at hc
      obtain ⟨rest, rfl⟩ := List.head?_eq_some_iff.mp hc.2
      exact ⟨_, .escape hc.1.1 hc.1.2, ⟨rest, rfl⟩, Option.some.inj h⟩
    · split at h
      · rename_i hu
        subst hu
        split at h
        · dsimp only at h
          split at h
          · rename_i more _ hhex
            simp only [Bool.and_eq_true, Bool.not_eq_true', List.isEmpty_eq_false_iff, decide_eq_true_eq] at hhex
            obtain ⟨rest, hmore⟩ := eq_takeWhile_append_of_take_two hhex.2
            refine ⟨_, .codePoint hhex.1 fun c hc => List.mem_takeWhile_imp hc, ⟨rest, ?_⟩, ?_⟩
            · conv => rhs; rw [hmore]
              simp
            · rw [← Option.some.inj h]
              simp
          · cases h
        · cases h
      · cases h
  · split at h
    · rename_i hc
      simp only [Bool.and_eq_true, decide_eq_true_eq] at hc
      exact ⟨_, .plain hc.1.1.1 hc.1.1.2 hc.1.2 hc.2, ⟨_, rfl⟩, Option.some.inj h⟩
    · cases h
  · cases h

/-- A character literal is recognised exactly where its text stands. -/
theorem charLiteral?_eq_some_iff (text : List Char) (n : Nat) :
    charLiteral? text = some n ↔ ∃ token, CharToken token ∧ token <+: text ∧ token.length = n := by
  constructor
  · exact exists_charToken_of_charLiteral?
  · rintro ⟨token, ht, ⟨rest, rfl⟩, rfl⟩
    exact ht.charLiteral?_append rest

/-! ## Raw literals -/

/-- The openings of raw literals, with the mode inside them. -/
inductive RawToken : List Char → Mode → Prop
  | mk (lead : List Char) (n : Nat) (isLead : lead = ['r'] ∨ lead = ['b', 'r']) :
      RawToken (lead ++ List.replicate n '#' ++ ['"']) (.literal ('"' :: List.replicate n '#') false)

/-- The opening of a raw literal is found whatever stands behind it. -/
theorem RawToken.rawLiteral?_append {opening : List Char} {mode : Mode} (h : RawToken opening mode) (rest : List Char) :
    rawLiteral? (opening ++ rest) = some (opening, mode) := by
  obtain ⟨lead, n, isLead⟩ := h
  rcases isLead with rfl | rfl <;> simp [rawLiteral?]

/-- Hashes with a quote after them are a whole number of hashes, the quote, and what follows. -/
theorem eq_replicate_hash_append {text : List Char}
    (h : (text.drop (text.takeWhile (fun c => decide (c = '#'))).length).head? = some '"') :
    ∃ rest, text = text.takeWhile (fun c => decide (c = '#')) ++ '"' :: rest := by
  obtain ⟨rest, hrest⟩ := List.head?_eq_some_iff.mp h
  have hp : text.takeWhile (fun c => decide (c = '#')) <+: text := List.takeWhile_prefix _
  refine ⟨rest, ?_⟩
  rw [← hrest]
  exact (List.prefix_iff_eq_append.mp hp).symm

/-- A raw literal is recognised exactly where its opening stands. -/
theorem rawLiteral?_eq_some_iff (text opening : List Char) (mode : Mode) :
    rawLiteral? text = some (opening, mode) ↔ RawToken opening mode ∧ opening <+: text := by
  constructor
  · intro h
    simp only [rawLiteral?] at h
    generalize hlead : (if "br".toList.isPrefixOf text = true then ['b', 'r']
      else if text.head? = some 'r' then ['r'] else []) = lead at h
    split at h
    · cases h
    · rename_i hne
      rw [not_or, List.isEmpty_iff, Decidable.not_not] at hne
      obtain ⟨hlead_ne, hquote⟩ := hne
      have hopen : (lead = ['r'] ∨ lead = ['b', 'r']) ∧ lead <+: text := by
        split at hlead
        · rename_i hbr
          exact hlead ▸ ⟨.inr rfl, by simpa using hbr⟩
        · split at hlead
          · rename_i hr
            obtain ⟨rest, rfl⟩ := List.head?_eq_some_iff.mp hr
            exact hlead ▸ ⟨.inl rfl, by simp⟩
          · exact absurd hlead.symm hlead_ne
      obtain ⟨isLead, after, rfl⟩ := hopen
      rw [List.drop_left] at h hquote
      obtain ⟨rest, hrest⟩ := eq_replicate_hash_append hquote
      have hhashes : after.takeWhile (fun c => decide (c = '#')) =
          List.replicate (after.takeWhile (fun c => decide (c = '#'))).length '#' :=
        List.eq_replicate_iff.mpr ⟨rfl, fun c hc => by simpa using List.mem_takeWhile_imp hc⟩
      obtain ⟨rfl, rfl⟩ := Prod.mk.inj (Option.some.inj h)
      refine ⟨?_, rest, ?_⟩
      · rw [hhashes]
        exact .mk lead _ isLead
      · conv => rhs; rw [hrest]
        simp
  · rintro ⟨h, rest, rfl⟩
    exact h.rawLiteral?_append rest

/-! ## Any literals -/

/-- A beginning stays one of a longer text. -/
theorem isPrefixOf_append {token x : List Char} (h : token.isPrefixOf x = true) (y : List Char) :
    token.isPrefixOf (x ++ y) = true := by
  rw [List.isPrefixOf_iff_prefix] at h ⊢
  exact h.trans (List.prefix_append x y)

/-- A beginning that is no longer than a text is one of it. -/
theorem isPrefixOf_of_append {token x y : List Char} (h : token.isPrefixOf (x ++ y) = true) (hlen : token.length ≤ x.length) :
    token.isPrefixOf x = true := by
  rw [List.isPrefixOf_iff_prefix] at h ⊢
  exact List.prefix_of_prefix_length_le h (List.prefix_append x y) hlen

/-- What may stand after a text without lengthening its last token: something that starts with a blank and holds no delimiter. -/
def Inert (y : List Char) : Prop := (∃ b rest, y = b :: rest ∧ isBlank b = true) ∧ ∀ c ∈ y, isDelimiter c = false

/-- A token that ends in a delimiter does not reach into an inert text. -/
theorem Inert.prefix_of_append {token x y : List Char} {d : Char} (hy : Inert y) (hlast : token.getLast? = some d)
    (hd : isDelimiter d = true) (h : token <+: x ++ y) : token <+: x := by
  rcases List.prefix_or_prefix_of_prefix h (List.prefix_append x y) with h' | ⟨more, rfl⟩
  · exact h'
  · cases more with
    | nil => simp
    | cons m more =>
      have hm : m :: more <+: y := List.prefix_append_right_inj x |>.mp h
      have hmem : d ∈ m :: more := List.mem_of_getLast? (by simpa [List.getLast?_append] using hlast)
      rw [hy.2 d (hm.subset hmem)] at hd
      cases hd

/-- Delimiters do not begin within what no token reaches into. -/
theorem Inert.isPrefixOf_append {token y : List Char} (hy : Inert y) (htoken : ∀ c ∈ token, isDelimiter c = true)
    (x : List Char) : token.isPrefixOf (x ++ y) = token.isPrefixOf x := by
  rw [Bool.eq_iff_iff, List.isPrefixOf_iff_prefix, List.isPrefixOf_iff_prefix]
  refine ⟨fun h => ?_, fun h => h.trans (List.prefix_append x y)⟩
  cases hl : token.getLast? with
  | none => simp [List.getLast?_eq_none_iff.mp hl]
  | some d => exact hy.prefix_of_append hl (htoken d (List.mem_of_getLast? hl)) h

/-- The opening of a raw literal ends in its quote. -/
theorem RawToken.getLast?_eq {opening : List Char} {mode : Mode} (h : RawToken opening mode) : opening.getLast? = some '"' := by
  obtain ⟨lead, n, -⟩ := h
  simp

/-- What an opening of a literal is: delimiters, perhaps behind the letters of a raw literal. It stands at the start of the text and
ends in a delimiter, and so does what closes it, which begins with a quote. -/
structure Opens (text opening : List Char) (mode : Mode) : Prop where
  isPrefix : opening <+: text
  last : ∃ d, opening.getLast? = some d ∧ isDelimiter d = true
  closes : ∃ close escapes, mode = .literal close escapes ∧ close ≠ [] ∧ ∀ c ∈ close, isDelimiter c = true
  inLine : '\n' ∉ opening
  letters : ∀ c ∈ opening, isDelimiter c = true ∨ c = 'r' ∨ c = 'b'
  quoted : ∃ quote more escapes, mode = .literal (quote :: more) escapes ∧ isQuote quote = true

/-- A line feed is no delimiter. -/
theorem lineFeed_ne_of_isDelimiter {c : Char} (h : isDelimiter c = true) : '\n' ≠ c := by
  rintro rfl
  exact absurd h (by decide)

/-- A quote is a delimiter. -/
theorem isDelimiter_of_isQuote {c : Char} (h : isQuote c = true) : isDelimiter c = true := by
  simp only [isQuote, isDelimiter, Bool.or_eq_true] at h ⊢
  exact .inl h

/-- A quote opens the literal that it closes. -/
theorem opens_singleton {c : Char} (rest : List Char) (escapes : Bool) (h : isQuote c = true) :
    Opens (c :: rest) [c] (.literal [c] escapes) := by
  have hd := isDelimiter_of_isQuote h
  have hline := lineFeed_ne_of_isDelimiter hd
  exact ⟨by simp, ⟨c, rfl, hd⟩, ⟨[c], escapes, rfl, by simp, by simpa using hd⟩, by simpa using hline,
    by simp [hd], c, [], escapes, rfl, h⟩

/-- A raw literal opens where its opening stands. -/
theorem RawToken.opens {text opening : List Char} {mode : Mode} (h : RawToken opening mode) (hp : opening <+: text) :
    Opens text opening mode := by
  refine ⟨hp, ⟨'"', h.getLast?_eq, by decide⟩, ?_, ?_, ?_, ?_⟩
  · obtain ⟨lead, n, -⟩ := h
    refine ⟨_, _, rfl, by simp, fun c hc => ?_⟩
    rcases List.mem_cons.mp hc with rfl | hc
    · decide
    · rw [List.eq_of_mem_replicate hc]
      decide
  · obtain ⟨lead, n, isLead⟩ := h
    rcases isLead with rfl | rfl <;> simp [List.mem_replicate]
  · obtain ⟨lead, n, isLead⟩ := h
    have hdelimiter : isDelimiter '#' = true ∧ isDelimiter '"' = true := by decide
    intro c hc
    rcases isLead with rfl | rfl <;> simp only [List.cons_append, List.nil_append, List.mem_cons, List.mem_append, List.mem_replicate,
      List.not_mem_nil, or_false] at hc <;> grind
  · obtain ⟨lead, n, -⟩ := h
    exact ⟨'"', _, _, rfl, by decide⟩

/-- Three quotes open the literal that they close. -/
theorem opens_triple {c : Char} {text : List Char} (h : [c, c, c].isPrefixOf text = true) (hc : isQuote c = true) :
    Opens text [c, c, c] (.literal [c, c, c] true) := by
  have hd := isDelimiter_of_isQuote hc
  have hline := lineFeed_ne_of_isDelimiter hd
  exact ⟨List.isPrefixOf_iff_prefix.mp h, ⟨c, rfl, hd⟩, ⟨_, _, rfl, by simp, by simpa using hd⟩, by simpa using hline,
    by simp [hd], c, _, _, rfl, hc⟩

/-- A literal that is found opens there. -/
theorem opens_of_literal? {t : Toolchain} {previous : Option Char} {text opening : List Char} {mode : Mode}
    (h : literal? t previous text = some (opening, mode)) : Opens text opening mode := by
  have hquote : ∀ c escapes, text.head? = some c → isQuote c = true →
      some ([c], Mode.literal [c] escapes) = some (opening, mode) → Opens text opening mode := by
    intro c escapes hc hd hfound
    obtain ⟨rest, rfl⟩ := List.head?_eq_some_iff.mp hc
    obtain ⟨rfl, rfl⟩ := Prod.mk.inj (Option.some.inj hfound)
    exact opens_singleton rest escapes hd
  unfold literal? at h
  split at h
  · split at h
    · rename_i htriple
      obtain ⟨rfl, rfl⟩ := Prod.mk.inj (Option.some.inj h)
      exact opens_triple htriple (by decide)
    · split at h
      · rename_i htriple
        obtain ⟨rfl, rfl⟩ := Prod.mk.inj (Option.some.inj h)
        exact opens_triple htriple (by decide)
      · split at h
        · exact hquote _ _ ‹_› (by decide) h
        · exact hquote _ _ ‹_› (by decide) h
        · cases h
  · dsimp only at h
    split at h
    · rename_i found hraw
      rw [Option.some.inj h] at hraw
      split at hraw
      · obtain ⟨hraw, hp⟩ := (rawLiteral?_eq_some_iff _ _ _).mp hraw
        exact hraw.opens hp
      · cases hraw
    · exact hquote _ _ ‹_› (by decide) h
    · split at h
      · exact hquote _ _ ‹_› (by decide) h
      · cases h
    · split at h
      · exact hquote _ _ ‹_› (by decide) h
      · cases h
    · cases h

/-! ## Tokens of a longer text -/

/-- A character literal of a longer text that ends within the text is one of the text. -/
theorem charLiteral?_of_append {x y : List Char} (h : ∀ n, charLiteral? (x ++ y) = some n → n ≤ x.length) :
    charLiteral? (x ++ y) = charLiteral? x := by
  ext n
  constructor
  · intro hn
    obtain ⟨token, ht, hp, rfl⟩ := (charLiteral?_eq_some_iff _ n).mp hn
    exact (charLiteral?_eq_some_iff x _).mpr
      ⟨token, ht, List.prefix_of_prefix_length_le hp (List.prefix_append x y) (h _ hn), rfl⟩
  · intro hn
    obtain ⟨token, ht, hp, rfl⟩ := (charLiteral?_eq_some_iff _ n).mp hn
    exact (charLiteral?_eq_some_iff _ _).mpr ⟨token, ht, hp.trans (List.prefix_append x y), rfl⟩

/-- A raw literal of a longer text whose opening ends within the text is one of the text. -/
theorem rawLiteral?_of_append {x y : List Char} (h : ∀ opening mode, rawLiteral? (x ++ y) = some (opening, mode) →
    opening.length ≤ x.length) : rawLiteral? (x ++ y) = rawLiteral? x := by
  cases hxy : rawLiteral? (x ++ y) with
  | some found =>
    obtain ⟨hraw, hp⟩ := (rawLiteral?_eq_some_iff _ found.1 found.2).mp hxy
    have hx : found.1 <+: x := List.prefix_of_prefix_length_le hp (List.prefix_append x y) (h _ _ hxy)
    exact ((rawLiteral?_eq_some_iff x found.1 found.2).mpr ⟨hraw, hx⟩).symm
  | none =>
    cases hx : rawLiteral? x with
    | none => rfl
    | some found =>
      obtain ⟨hraw, hp⟩ := (rawLiteral?_eq_some_iff _ found.1 found.2).mp hx
      have := (rawLiteral?_eq_some_iff (x ++ y) found.1 found.2).mpr ⟨hraw, hp.trans (List.prefix_append x y)⟩
      rw [hxy] at this
      cases this

/-- A beginning of two texts that does not reach into the second is one of the first. -/
theorem isPrefixOf_eq_of_append {token x y : List Char} (h : token.isPrefixOf (x ++ y) = true → token.length ≤ x.length) :
    token.isPrefixOf (x ++ y) = token.isPrefixOf x := by
  rw [Bool.eq_iff_iff]
  exact ⟨fun hxy => isPrefixOf_of_append hxy (h hxy), fun hx => isPrefixOf_append hx y⟩

/-- A literal of a longer text whose opening ends within the text is one of the text. -/
theorem literal?_of_append {t : Toolchain} {previous : Option Char} {x y : List Char} (hx : x ≠ [])
    (h : ∀ opening mode, literal? t previous (x ++ y) = some (opening, mode) → opening.length ≤ x.length) :
    literal? t previous (x ++ y) = literal? t previous x := by
  have hhead : (x ++ y).head? = x.head? := by
    obtain ⟨c, x, rfl⟩ := List.exists_cons_of_ne_nil hx
    rfl
  by_cases ht : t = .pythonUv
  · subst ht
    have hdouble : "\"\"\"".toList.isPrefixOf (x ++ y) = "\"\"\"".toList.isPrefixOf x :=
      isPrefixOf_eq_of_append fun hp => h ['"', '"', '"'] (.literal ['"', '"', '"'] true) (by simp only [literal?, if_pos hp])
    by_cases hd : "\"\"\"".toList.isPrefixOf x = true
    · simp only [literal?, hdouble, if_pos hd]
    · have hsingle : "'''".toList.isPrefixOf (x ++ y) = "'''".toList.isPrefixOf x :=
        isPrefixOf_eq_of_append fun hp => h ['\'', '\'', '\''] (.literal ['\'', '\'', '\''] true)
          (by simp only [literal?, hdouble, if_neg hd, if_pos hp])
      simp only [literal?, hdouble, if_neg hd, hsingle, hhead]
  · have hraw : (if t = .rust ∧ !previous.any isIdentifierChar then rawLiteral? (x ++ y) else none) =
        if t = .rust ∧ !previous.any isIdentifierChar then rawLiteral? x else none := by
      split
      · rename_i hc
        refine rawLiteral?_of_append fun opening mode ho => h opening mode ?_
        obtain ⟨rfl, hprev⟩ := hc
        simp [literal?, hprev, ho]
      · rfl
    cases t with
    | pythonUv => exact absurd rfl ht
    | _ =>
      unfold literal?
      dsimp only
      rw [hraw, hhead]

/-! ## Tokens before an inert text -/

/-- A character literal does not reach into what no token reaches into. -/
theorem Inert.charLiteral?_append {y : List Char} (hy : Inert y) (x : List Char) :
    charLiteral? (x ++ y) = charLiteral? x := by
  refine charLiteral?_of_append fun n hn => ?_
  obtain ⟨token, ht, hp, rfl⟩ := (charLiteral?_eq_some_iff _ n).mp hn
  exact (hy.prefix_of_append ht.getLast?_eq (by decide) hp).length_le

/-- A literal does not open within what no token reaches into. -/
theorem Inert.literal?_append {y : List Char} (hy : Inert y) {x : List Char} (hx : x ≠ []) (t : Toolchain)
    (previous : Option Char) : literal? t previous (x ++ y) = literal? t previous x := by
  refine literal?_of_append hx fun opening mode ho => ?_
  obtain ⟨hp, ⟨d, hlast, hd⟩, -⟩ := opens_of_literal? ho
  exact (hy.prefix_of_append hlast hd hp).length_le

end QualityGate.Scan
