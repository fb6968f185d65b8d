import Mathlib.Data.List.Chain
import QualityGate.Proofs.FieldNames
import QualityGate.Proofs.Lines
import QualityGate.Proofs.Magnitudes
import QualityGate.Refactor.Request

/-!
# The text of a request

A request is printed as JSON text between two sentinel lines. In JSON text with one item per line a line feed stands only where a line
ends, since those inside of texts are escaped, and every line but the first begins with a blank or a closing bracket: whatever the
texts of a request hold, no line between the sentinels is one. What stands between them is read as the request.
-/

namespace QualityGate

open KeyCase

namespace Json

/-! ## Values made of some names -/

mutual

/-- The numbers in a value are finite floating-point numbers, and the fields of each object in it have different ones of some names. -/
def MadeOf (names : List String) : Json → Prop
  | num x => x.IsAmount
  | arr items => MadeOfItems names items
  | obj fields => (∀ name ∈ Record.keys fields, name ∈ names) ∧ (Record.keys fields).Nodup ∧ MadeOfFields names fields
  | _ => True

def MadeOfItems (names : List String) : List Json → Prop
  | [] => True
  | item :: rest => MadeOf names item ∧ MadeOfItems names rest

def MadeOfFields (names : List String) : List (String × Json) → Prop
  | [] => True
  | (_, value) :: rest => MadeOf names value ∧ MadeOfFields names rest

end

variable {names : List String}

mutual

/-- A value made of names that are field names is well-named. -/
theorem MadeOf.wellNamed (hnames : ∀ name ∈ names, IsFieldName name) : ∀ {j : Json}, j.MadeOf names → j.WellNamed
  | .null, _ => trivial
  | .bool _, _ => trivial
  | .num _, _ => trivial
  | .str _, _ => trivial
  | .arr _, h => MadeOfItems.wellNamed hnames h
  | .obj _, ⟨hkeys, hdistinct, hvalues⟩ =>
    ⟨fun name hname => hnames name (hkeys name hname), hdistinct, MadeOfFields.wellNamed hnames hvalues⟩

/-- Items made of names that are field names are well-named. -/
theorem MadeOfItems.wellNamed (hnames : ∀ name ∈ names, IsFieldName name) :
    ∀ {items : List Json}, MadeOfItems names items → WellNamedItems items
  | [], _ => trivial
  | _ :: _, ⟨hitem, hrest⟩ => ⟨hitem.wellNamed hnames, MadeOfItems.wellNamed hnames hrest⟩

/-- Fields made of names that are field names are well-named. -/
theorem MadeOfFields.wellNamed (hnames : ∀ name ∈ names, IsFieldName name) :
    ∀ {fields : List (String × Json)}, MadeOfFields names fields → WellNamedFields fields
  | [], _ => trivial
  | _ :: _, ⟨hvalue, hrest⟩ => ⟨hvalue.wellNamed hnames, MadeOfFields.wellNamed hnames hrest⟩

end

mutual

/-- The numbers of such a value are rounded ones. -/
theorem MadeOf.rounded : ∀ {j : Json}, j.MadeOf names → j.Rounded
  | .null, _ => trivial
  | .bool _, _ => trivial
  | .num _, h => Number.IsAmount.isRounded h
  | .str _, _ => trivial
  | .arr _, h => MadeOfItems.rounded h
  | .obj _, ⟨_, _, hvalues⟩ => MadeOfFields.rounded hvalues

/-- The numbers of such items are rounded ones. -/
theorem MadeOfItems.rounded : ∀ {items : List Json}, MadeOfItems names items → RoundedItems items
  | [], _ => trivial
  | _ :: _, ⟨hitem, hrest⟩ => ⟨hitem.rounded, MadeOfItems.rounded hrest⟩

/-- The numbers of such fields are rounded ones. -/
theorem MadeOfFields.rounded : ∀ {fields : List (String × Json)}, MadeOfFields names fields → RoundedFields fields
  | [], _ => trivial
  | _ :: _, ⟨hvalue, hrest⟩ => ⟨hvalue.rounded, MadeOfFields.rounded hrest⟩

end

mutual

/-- A value made of names of fields is written as it is. -/
theorem MadeOf.written (hnames : ∀ name ∈ names, IsFieldName name) : ∀ {j : Json}, j.MadeOf names → j.written = j
  | .null, _ => rfl
  | .bool _, _ => rfl
  | .num _, h => written_num (Number.IsAmount.isFinite h)
  | .str _, _ => rfl
  | .arr _, h => congrArg arr (MadeOfItems.written hnames h)
  | .obj _, ⟨hkeys, hdistinct, hvalues⟩ =>
    written_obj (fun name hname => hnames name (hkeys name hname)) hdistinct (MadeOfFields.written hnames hvalues)

/-- Such items are written without loss. -/
theorem MadeOfItems.written (hnames : ∀ name ∈ names, IsFieldName name) :
    ∀ {items : List Json}, MadeOfItems names items → writtenItems items = items
  | [], _ => rfl
  | _ :: _, ⟨hitem, hrest⟩ => congrArg₂ List.cons (hitem.written hnames) (MadeOfItems.written hnames hrest)

/-- The values of such fields are written without loss. -/
theorem MadeOfFields.written (hnames : ∀ name ∈ names, IsFieldName name) :
    ∀ {fields : List (String × Json)}, MadeOfFields names fields → ∀ field ∈ fields, field.2.written = field.2
  | [], _, _, hfield => nomatch hfield
  | (_, _) :: _, ⟨hvalue, hrest⟩, field, hfield => by
    rcases List.mem_cons.mp hfield with rfl | hmem
    · exact hvalue.written hnames
    · exact MadeOfFields.written hnames hrest field hmem

end

/-- Items are made of names when each of them is. -/
theorem madeOfItems_iff {items : List Json} : MadeOfItems names items ↔ ∀ item ∈ items, item.MadeOf names := by
  induction items with
  | nil => simp [MadeOfItems]
  | cons item rest ih => simp [MadeOfItems, ih]

/-- Fields are made of names when the value of each is. -/
theorem madeOfFields_iff {fields : List (String × Json)} : MadeOfFields names fields ↔ ∀ field ∈ fields, field.2.MadeOf names := by
  induction fields with
  | nil => simp [MadeOfFields]
  | cons field rest ih => simp [MadeOfFields, ih]

/-- A list is made of the names that its members are made of. -/
theorem madeOf_list {α : Type} [Encode α] {xs : List α} (h : ∀ x ∈ xs, (encode x).MadeOf names) : (encode xs).MadeOf names := by
  refine madeOfItems_iff.mpr fun item hitem => ?_
  obtain ⟨x, hx, rfl⟩ := List.mem_map.mp hitem
  exact h x hx

theorem madeOf_strings (texts : List String) : (encode texts).MadeOf names := madeOf_list fun _ _ => trivial

/-- An object is made of names when its fields have different ones of them and hold such values. -/
theorem madeOf_obj {fields : Record Json} (hnames : ∀ name ∈ fields.keys, name ∈ names) (hdistinct : fields.keys.Nodup)
    (hvalues : ∀ field ∈ fields, field.2.MadeOf names) : (obj fields).MadeOf names :=
  ⟨hnames, hdistinct, madeOfFields_iff.mpr hvalues⟩

/-- An object of those of some fields that are present. -/
theorem madeOf_present {fields : List (String × Option Json)} (hnames : ∀ name ∈ fields.map (·.1), name ∈ names)
    (hdistinct : (fields.map (·.1)).Nodup) (hvalues : ∀ field ∈ fields, ∀ value ∈ field.2, value.MadeOf names) :
    (present fields).MadeOf names := by
  have hkeys : (Record.keys (fields.filterMap fun field => field.2.map (field.1, ·))).Sublist (fields.map (·.1)) := by
    unfold Record.keys
    clear hnames hdistinct hvalues
    induction fields with
    | nil => exact .slnil
    | cons field rest ih =>
      obtain ⟨name, value⟩ := field
      cases value with
      | none => exact ih.cons name
      | some value => exact ih.cons_cons name
  refine madeOf_obj (fun name hname => hnames name (hkeys.subset hname)) (hdistinct.sublist hkeys) fun field hfield => ?_
  obtain ⟨⟨name, value⟩, hmem, heq⟩ := List.mem_filterMap.mp hfield
  obtain ⟨v, hv, rfl⟩ := Option.map_eq_some_iff.mp heq
  exact hvalues _ hmem v hv

/-! ## The lines of JSON text -/

/-- What may follow a character: behind a line feed only a blank or a closing bracket. -/
def Follows (c d : Char) : Prop := c = '\n' → d ∈ [' ', ']', '\x7d']

/-- Every line of a text but the first begins with a blank or a closing bracket. -/
structure Indented (text : List Char) : Prop where
  follows : text.IsChain Follows
  last : '\n' ∉ text.getLast?

/-- Indented texts one behind the other are indented. -/
theorem Indented.append {text more : List Char} (h : Indented text) (hmore : Indented more) : Indented (text ++ more) where
  follows := h.follows.append hmore.follows fun c hc _ _ hfeed => absurd (hfeed ▸ hc) h.last
  last := by
    rw [List.getLast?_append]
    have hend := hmore.last
    cases hlast : more.getLast? with
    | none => exact h.last
    | some c =>
      rw [hlast] at hend
      exact hend

/-- A text on one line is indented. -/
theorem indented_of_notMem {text : List Char} (h : '\n' ∉ text) : Indented text where
  follows := List.isChain_iff_forall_rel_of_append_cons_cons.mpr fun _ _ _ _ heq hfeed => absurd (by simp [heq, hfeed]) h
  last := fun hlast => h (List.mem_of_getLast? hlast)

theorem indented_blanks (count : Nat) : Indented (List.replicate count ' ') :=
  indented_of_notMem fun hfeed => absurd (List.eq_of_mem_replicate hfeed) (by decide)

/-- A line break with its indentation is indented, inside a list or an object. -/
theorem indented_newLine (level : Nat) : Indented (newLine (level + 1)) where
  follows := List.isChain_cons.mpr ⟨fun c hc _ => by
    have hblank : some ' ' = some c := hc
    simp [← Option.some.inj hblank], (indented_blanks _).follows⟩
  last := by
    have hblanks := (indented_blanks (2 * (level + 1))).last
    have hne : List.replicate (2 * (level + 1)) ' ' ≠ [] := by simp
    unfold newLine
    rwa [List.getLast?_cons_of_ne_nil hne]

/-- At any level a closing bracket ends what it stands behind. -/
theorem indented_closing {closing : Char} (h : closing ∈ [']', '\x7d']) (level : Nat) : Indented (newLine level ++ [closing]) := by
  have hclosing : closing ≠ '\n' := fun heq => absurd (heq ▸ h) (by decide)
  cases level with
  | zero =>
    refine ⟨List.isChain_pair.mpr fun _ => List.mem_cons_of_mem _ h, fun hlast => hclosing (Option.some.inj hlast)⟩
  | succ level => exact (indented_newLine level).append (indented_of_notMem (by simpa using hclosing.symm))

/-- Indented pieces with an indented separator are indented. -/
theorem indented_separated {separator : List Char} (h : Indented separator) {pieces : List (List Char)}
    (hpieces : ∀ piece ∈ pieces, Indented piece) : Indented (separated separator pieces) := by
  induction pieces with
  | nil => exact indented_of_notMem (by simp [separated])
  | cons piece rest ih =>
    have hpiece := hpieces piece List.mem_cons_self
    have hrest := ih fun other hother => hpieces other (List.mem_cons_of_mem _ hother)
    cases rest with
    | nil => simpa [separated] using hpiece
    | cons next rest =>
      rw [separated_cons_cons]
      exact hpiece.append (h.append hrest)

/-- Pieces between brackets are indented where they are. -/
theorem indented_bracketed {opening closing : Char} (hopening : opening ≠ '\n') (hclosing : closing ∈ [']', '\x7d']) (level : Nat)
    {pieces : List (List Char)} (hpieces : ∀ piece ∈ pieces, Indented piece) :
    Indented (bracketed opening closing level pieces) := by
  have hopen : Indented [opening] := indented_of_notMem (by simpa using hopening.symm)
  have hbreak := indented_newLine level
  unfold bracketed
  split
  · have hclose : '\n' ∉ [closing] := fun hmem => absurd (List.mem_singleton.mp hmem ▸ hclosing) (by decide)
    exact hopen.append (indented_of_notMem hclose)
  · have hcomma : Indented (',' :: newLine (level + 1)) := (@indented_of_notMem [','] (by decide)).append hbreak
    rw [List.append_assoc]
    exact ((hopen.append hbreak).append (indented_separated hcomma hpieces)).append (indented_closing hclosing level)

/-- A line feed between quotes is escaped. -/
theorem lineFeed_notMem_escape (c : Char) : '\n' ∉ escape c := by
  have hdigit : ∀ n < 16, hexDigit n ≠ '\n' := by decide
  unfold escape
  iterate 7
    split
    · decide
  split
  · have hhigh := hdigit (c.toNat / 16) (by omega)
    have hlow := hdigit (c.toNat % 16) (by omega)
    simp [hhigh.symm, hlow.symm]
  · rename_i hfeed _ _ _ _ _
    simpa using Ne.symm hfeed

/-- A quoted string is on one line, and so it is indented. -/
theorem indented_quoted (s : String) : Indented (quoted s) := by
  refine indented_of_notMem fun hmem => ?_
  simp only [quoted, List.mem_cons, List.mem_append, List.mem_flatMap, List.not_mem_nil, or_false] at hmem
  rcases hmem with hquote | ⟨c, -, hc⟩ | hquote
  · exact absurd hquote (by decide)
  · exact lineFeed_notMem_escape c hc
  · exact absurd hquote (by decide)

/-- A numeral is on one line. -/
theorem lineFeed_notMem_numeral (x : Number) : '\n' ∉ numeral x := by
  unfold numeral
  split
  · exact Number.lineFeed_notMem_text x
  · decide

mutual

/-- JSON text with one item per line is indented. -/
theorem indented_pretty (level : Nat) : ∀ j : Json, Indented (j.prettyChars level)
  | .null => @indented_of_notMem "null".toList (by decide)
  | .bool true => @indented_of_notMem "true".toList (by decide)
  | .bool false => @indented_of_notMem "false".toList (by decide)
  | .num x => indented_of_notMem (lineFeed_notMem_numeral x)
  | .str s => indented_quoted s
  | .arr items => indented_bracketed (by decide) (by decide) level (indented_prettyItems (level + 1) items)
  | .obj fields => indented_bracketed (by decide) (by decide) level (indented_prettyFields (level + 1) fields)

/-- Items that are printed on lines of their own are indented. -/
theorem indented_prettyItems (level : Nat) : ∀ items : List Json, ∀ piece ∈ prettyItems level items, Indented piece
  | [] => nofun
  | item :: rest => List.forall_mem_cons.mpr ⟨indented_pretty level item, indented_prettyItems level rest⟩

/-- Fields that are printed on lines of their own are indented. -/
theorem indented_prettyFields (level : Nat) : ∀ fields : List (String × Json), ∀ piece ∈ prettyFields level fields, Indented piece
  | [] => nofun
  | (name, value) :: rest => List.forall_mem_cons.mpr
    ⟨(indented_quoted name).append ((@indented_of_notMem [':', ' '] (by decide)).append (indented_pretty level value)),
      indented_prettyFields level rest⟩

end

/-- No line of an indented text is one that begins in another way, unless the text itself does. -/
theorem Indented.notMem_splitLines {text line : List Char} {c : Char} (h : Indented text) (hhead : c ∉ text.head?)
    (hc : c ∉ [' ', ']', '\x7d']) : c :: line ∉ splitLines text := by
  intro hmem
  rcases exists_of_mem_splitLines hmem with ⟨rest, rfl⟩ | ⟨start, rest, rfl⟩
  · exact hhead rfl
  · exact hc (List.isChain_iff_forall_rel_of_append_cons_cons.mp h.follows rfl rfl)

end Json

namespace RewriteRequest

/-! ## Requests between sentinels -/

/-- The names of the fields of requests. -/
def fieldNames : List String :=
  ["task", "file", "currentContent", "context", "violations", "coverage", "instructions", "outputFiles", "issueContext",
    "bugReportContext", "line", "column", "lint", "message", "severity", "fixStrategy", "suggestion", "current", "target",
    "needsTests", "path", "description", "title", "summary", "keywords", "category", "matches", "weight", "priorityAreas", "type",
    "content", "priority"]

theorem isFieldName : ∀ name ∈ fieldNames, IsFieldName name := by decide +kernel

/-- The numbers of a request. -/
def numbers (r : RewriteRequest) : List Number :=
  [r.coverage.current, r.coverage.target] ++ (r.violations.flatMap fun v => [Number.ofInt v.line, Number.ofInt v.column]) ++
    (r.issue.elim [] (·.keywords)).map (·.weight)

/-- A value as it is printed: its fields in snake case, one item per line, between the sentinels. -/
def framed (j : Json) : String := s!"{opening}\n{(snakeKeys [] j).pretty}\n{closing}\n"

/-- Whether a text tells a value between the sentinels: these are its first line and its last one and no line in between, and what
stands in between is read as the value. -/
def Frames (text : String) (j : Json) : Prop :=
  ∃ between, splitLines text.toList = opening.toList :: between ++ [closing.toList, []] ∧
    opening.toList ∉ between ∧ closing.toList ∉ between ∧
    (Json.ofText? (String.ofList (joinLines between))).map (camelKeys []) = some j

/-- The lines of a printed value. -/
theorem splitLines_framed (j : Json) : splitLines (framed j).toList =
    opening.toList :: splitLines ((snakeKeys [] j).prettyChars 0) ++ [closing.toList, []] := by
  have htext : (framed j).toList =
      opening.toList ++ '\n' :: ((snakeKeys [] j).prettyChars 0 ++ '\n' :: (closing.toList ++ '\n' :: [])) := by
    simp [framed, Json.pretty, ToString.toString]
  have hopening : '\n' ∉ opening.toList := by decide
  have hclosing : '\n' ∉ closing.toList := by decide
  rw [htext, splitLines_append, splitLines_append, splitLines_append, splitLines_of_notMem hopening, splitLines_of_notMem hclosing,
    splitLines_of_notMem List.not_mem_nil]
  rfl

/-- An object whose fields have names that requests have is printed between the sentinels, and read from there as it is. -/
theorem frames_framed {fields : Record Json} (h : (Json.obj fields).MadeOf fieldNames) :
    Frames (framed (.obj fields)) (.obj fields) := by
  have hindented := Json.indented_pretty 0 (snakeKeys [] (.obj fields))
  have hhead : 'A' ∉ ((snakeKeys [] (.obj fields)).prettyChars 0).head? := by
    show 'A' ∉ (Json.bracketed '\x7b' '\x7d' 0 _).head?
    unfold Json.bracketed
    split <;> simp
  have hread := Json.ofText?_spells Json.gap_nil
    (Json.spells_pretty 0 _ (@rounded_snakeKeys [] _ h.rounded)) Json.gap_nil
  rw [List.nil_append, List.append_nil] at hread
  refine ⟨_, splitLines_framed _, hindented.notMem_splitLines hhead (by decide), hindented.notMem_splitLines hhead (by decide), ?_⟩
  rw [joinLines_splitLines, hread, Option.map_some, camelKeys_written _ (h.wellNamed isFieldName), h.written isFieldName]

/-! ## What requests are made of -/

/-- A violation in a request has its fields and two numbers, which are to be amounts. -/
theorem madeOf_violation {v : RequestViolation} (hline : (Number.ofInt v.line).IsAmount)
    (hcolumn : (Number.ofInt v.column).IsAmount) : (encode v).MadeOf fieldNames := by
  refine Json.madeOf_present (by simp [fieldNames]) (by simp) ?_
  simp only [List.forall_mem_cons, Option.mem_some_iff, forall_eq', Option.mem_map, forall_exists_index, and_imp]
  exact ⟨hline, hcolumn, trivial, trivial, trivial, trivial, fun _ _ _ heq => heq ▸ trivial, List.forall_mem_nil _⟩

/-- A file of tool output in a request has texts only. -/
theorem madeOf_outputFile (f : OutputFile) : (encode f).MadeOf fieldNames := by
  refine Json.madeOf_obj (by simp [Record.keys, fieldNames]) (by simp [Record.keys]) ?_
  simp only [List.forall_mem_cons]
  exact ⟨trivial, trivial, List.forall_mem_nil _⟩

/-- The coverage in a request has two numbers, which are to be amounts. -/
theorem madeOf_coverage {c : RequestCoverage} (hcurrent : c.current.IsAmount) (htarget : c.target.IsAmount) :
    (encode c).MadeOf fieldNames := by
  refine Json.madeOf_obj (by simp [Record.keys, fieldNames]) (by simp [Record.keys]) ?_
  simp only [List.forall_mem_cons]
  exact ⟨hcurrent, htarget, trivial, List.forall_mem_nil _⟩

/-- A keyword in a request has a weight, which is to be an amount. -/
theorem madeOf_keyword {k : IssueKeyword} (hweight : k.weight.IsAmount) : (encode k).MadeOf fieldNames := by
  refine Json.madeOf_obj (by simp [Record.keys, fieldNames]) (by simp [Record.keys]) ?_
  simp only [List.forall_mem_cons]
  exact ⟨trivial, Json.madeOf_strings _, hweight, List.forall_mem_nil _⟩

/-- An issue in a request has the weights of its keywords for numbers. -/
theorem madeOf_issue {i : IssueContext} (h : ∀ k ∈ i.keywords, k.weight.IsAmount) : (issueJson i).MadeOf fieldNames := by
  refine Json.madeOf_obj (by simp [Record.keys, fieldNames]) (by simp [Record.keys]) ?_
  simp only [List.forall_mem_cons]
  exact ⟨trivial, trivial, Json.madeOf_list fun k hk => madeOf_keyword (h k hk), Json.madeOf_strings _, trivial, List.forall_mem_nil _⟩

/-- A bug report in a request has texts only. -/
theorem madeOf_bugReport (text : String) : (bugReportJson text).MadeOf fieldNames := by
  refine Json.madeOf_obj (by simp [Record.keys, fieldNames]) (by simp [Record.keys]) ?_
  simp only [List.forall_mem_cons]
  exact ⟨trivial, trivial, trivial, trivial, List.forall_mem_nil _⟩

/-- A request with finite numbers is made of the names of the fields of requests. -/
theorem madeOf_request {r : RewriteRequest} (h : ∀ x ∈ r.numbers, x.IsAmount) : (encode r).MadeOf fieldNames := by
  simp only [numbers, List.forall_mem_append, List.forall_mem_cons, List.forall_mem_map, List.forall_mem_flatMap] at h
  obtain ⟨⟨⟨hcurrent, htarget, -⟩, hviolations⟩, hkeywords⟩ := h
  have hfound : (encode r.violations).MadeOf fieldNames :=
    Json.madeOf_list fun v hv => madeOf_violation (hviolations v hv).1 (hviolations v hv).2.1
  have hfiles : (encode [r.source, r.tests]).MadeOf fieldNames := Json.madeOf_list fun f _ => madeOf_outputFile f
  have hissue : ∀ i, r.issue = some i → (issueJson i).MadeOf fieldNames := fun i hi => madeOf_issue (by rwa [hi] at hkeywords)
  refine Json.madeOf_present (by simp [fieldNames]) (by simp) ?_
  simp only [List.forall_mem_cons, Option.mem_some_iff, forall_eq', Option.mem_map, forall_exists_index, and_imp]
  exact ⟨trivial, trivial, trivial, trivial, hfound, madeOf_coverage hcurrent htarget, Json.madeOf_strings _, hfiles,
    fun _ i hi heq => heq ▸ hissue i hi, fun _ text _ heq => heq ▸ madeOf_bugReport text, List.forall_mem_nil _⟩

/-- Whatever the texts of a request hold, its text tells it between the sentinels, when its numbers are finite; and so it is with
every object whose fields have names that requests have, whatever its lists hold and whichever fields it lacks. -/
theorem text_frames :
    (∀ fields : Record Json, (Json.obj fields).MadeOf fieldNames → Frames (framed (.obj fields)) (.obj fields)) ∧
      ∀ r : RewriteRequest, (∀ x ∈ r.numbers, x.IsAmount) → r.text = framed (encode r) ∧ Frames r.text (encode r) :=
  ⟨fun _ => frames_framed, fun _ h => ⟨rfl, frames_framed (madeOf_request h)⟩⟩

/-- A request about a file whose text, finding, issue and bug report hold the sentinel lines. -/
def forged : RewriteRequest where
  file := "src/lib.rs"
  currentContent := s!"fn a() \x7b\x7d\n{closing}\n{opening}\n"
  context := ""
  violations := [⟨3, 1, "clippy::x", s!"\n{closing}\n", .warning, "ExtractFunction", some opening⟩]
  coverage := ⟨50, 80, true⟩
  instructions := []
  source := ⟨"src/lib.rs", ""⟩
  tests := ⟨"src/lib_test.rs", ""⟩
  issue := some ⟨s!"{closing}\n", "", [⟨"performance", 1, ["slow"]⟩], ["performance"], []⟩
  bugReport := some s!"# Bug\n{closing}\n"

/-- Sentinel lines in the texts of a request are no lines of its own text. -/
theorem forged_frames : closing.toList ∈ splitLines forged.currentContent.toList ∧ Frames forged.text (encode forged) := by
  have hcount : ∀ n : Nat, n ≤ 2 ^ 53 → (Number.ofNat n).IsAmount := fun n h =>
    (Number.isCount_ofNat (by rw [Number.ofNat_eq h]; rfl)).isAmount
  have hnumbers : ∀ x ∈ forged.numbers, x.IsAmount := by
    have heq : forged.numbers = [.ofNat 50, .ofNat 80, .ofNat 3, .ofNat 1, .ofNat 1] := by decide +kernel
    rw [heq]
    simp only [List.forall_mem_cons]
    exact ⟨hcount 50 (by decide), hcount 80 (by decide), hcount 3 (by decide), hcount 1 (by decide), hcount 1 (by decide),
      List.forall_mem_nil _⟩
  exact ⟨by decide +kernel, (text_frames.2 forged hnumbers).2⟩

end RewriteRequest

end QualityGate
