import QualityGate.Proofs.FieldNames

/-!
# Respelled and read back

Names in camel case have different spellings in snake case, each of which leads back to its name (`toCamel_toSnake`). The objects under
some fields have names that are data; which objects these are can be told from either spelling of the fields around them. So a value
whose other names are in camel case is respelled name by name, and reading it back gives the value (`camelKeys_snakeKeys`).
-/

namespace QualityGate

namespace KeyCase

/-! ## The spellings of a name -/

/-- What holds of the first characters up to the small letters holds of letters and digits. -/
theorem forall_alphanum {P : Char → Prop} (h : ∀ n < 123, P (Char.ofNat n)) {c : Char} (hc : c.isAlphanum) : P c := by
  have hlow : c.toNat < 123 := by
    unfold Char.isAlphanum Char.isAlpha Char.isUpper Char.isLower Char.isDigit at hc
    simp only [Bool.or_eq_true, Bool.and_eq_true, decide_eq_true_eq, UInt32.le_iff_toNat_le, ge_iff_le] at hc
    change ((65 ≤ c.toNat ∧ c.toNat ≤ 90) ∨ (97 ≤ c.toNat ∧ c.toNat ≤ 122)) ∨ (48 ≤ c.toNat ∧ c.toNat ≤ 57) at hc
    omega
  have hof := h c.toNat hlow
  rwa [Char.ofNat_toNat] at hof

theorem isAlphanum_eq (c : Char) : c.isAlphanum = (c.isUpper || c.isLower || c.isDigit) := rfl

/-- A capital is the capital of its small letter. -/
theorem toLower_of_isUpper {c : Char} (h : c.isUpper) : c.toLower.toUpper = c ∧ c.toLower.isLower := by
  have hc : c.isAlphanum := by simp [isAlphanum_eq, h]
  exact forall_alphanum (P := fun c => c.isUpper → c.toLower.toUpper = c ∧ c.toLower.isLower) (by decide) hc h

/-- A small letter is neither a capital nor a digit nor an underscore. -/
theorem of_isLower {c : Char} (h : c.isLower) : ¬ c.isUpper ∧ ¬ c.isDigit ∧ c ≠ '_' := by
  have hc : c.isAlphanum := by simp [isAlphanum_eq, h]
  exact forall_alphanum (P := fun c => c.isLower → ¬ c.isUpper ∧ ¬ c.isDigit ∧ c ≠ '_') (by decide) hc h

/-- A capital is spelled as a small letter behind an underscore. -/
theorem snakeChars_capital {c : Char} (h : c.isUpper) (rest : List Char) :
    snakeChars (c :: rest) = '_' :: c.toLower :: snakeChars rest := by
  simp [snakeChars, h]

theorem snakeChars_plain {c : Char} (h : ¬ c.isUpper) (rest : List Char) : snakeChars (c :: rest) = c :: snakeChars rest := by
  simp [snakeChars, h]

/-- An underscore is neither a letter nor a digit. -/
theorem ne_underscore_of_isAlphanum {c : Char} (h : c.isAlphanum) : c ≠ '_' := by
  rintro rfl
  cases h

/-- A character that is no underscore is read as it is. -/
theorem camelChars_plain {c : Char} (h : c ≠ '_') (rest : List Char) : camelChars (c :: rest) = c :: camelChars rest := by
  rw [camelChars]
  simp [h]

/-- Small letters and digits go on with a name in snake case. -/
theorem isSnakeTail_plain {c : Char} (h : c ≠ '_') (rest : List Char) :
    isSnakeTail (c :: rest) = ((c.isLower || c.isDigit) && isSnakeTail rest) := by
  rw [isSnakeTail]
  simp [h]

/-- Letters and digits that are no capitals are small letters and digits. -/
theorem isLower_or_isDigit {c : Char} (h : c.isAlphanum) (hsmall : ¬ c.isUpper) : (c.isLower || c.isDigit) = true := by
  simpa [isAlphanum_eq, hsmall] using h

/-- Letters and digits in snake case are groups joined by underscores, and are read back. -/
theorem snakeChars_spec {chars : List Char} (h : ∀ c ∈ chars, c.isAlphanum) :
    isSnakeTail (snakeChars chars) ∧ camelChars (snakeChars chars) = chars := by
  induction chars with
  | nil => exact ⟨rfl, rfl⟩
  | cons c rest ih =>
    obtain ⟨hc, hrest⟩ := List.forall_mem_cons.mp h
    obtain ⟨htail, hback⟩ := ih hrest
    by_cases hupper : c.isUpper
    · obtain ⟨hletter, hlower⟩ := toLower_of_isUpper hupper
      rw [snakeChars_capital hupper]
      constructor
      · rw [isSnakeTail, hlower, htail]
        rfl
      · rw [camelChars, hletter, hback]
    · have hne := ne_underscore_of_isAlphanum hc
      rw [snakeChars_plain hupper]
      constructor
      · rw [isSnakeTail_plain hne, isLower_or_isDigit hc hupper, htail]
        rfl
      · rw [camelChars_plain hne, hback]

section Names

variable {name : String}

/-- A name in camel case: a small letter, then letters and digits. -/
theorem exists_of_isCamel (h : isCamel name.toList) :
    ∃ c rest, name.toList = c :: rest ∧ c.isLower ∧ ∀ d ∈ rest, d.isAlphanum := by
  cases hname : name.toList with
  | nil =>
    rw [hname] at h
    cases h
  | cons c rest =>
    rw [hname, isCamel, Bool.and_eq_true, List.all_eq_true] at h
    exact ⟨c, rest, rfl, h⟩

/-- The snake case spelling of a name in camel case begins with the same small letter. -/
theorem toList_toSnake {c : Char} {rest : List Char} (h : isCamel name.toList) (hname : name.toList = c :: rest) (hc : c.isLower) :
    (toSnake name).toList = c :: snakeChars rest := by
  unfold toSnake
  rw [if_pos h, String.toList_ofList, hname, snakeChars_plain (of_isLower hc).1]

/-- Each name in camel case is read back from its snake case spelling. -/
theorem toCamel_toSnake (h : isCamel name.toList) : toCamel (toSnake name) = name := by
  obtain ⟨c, rest, hname, hc, hrest⟩ := exists_of_isCamel h
  obtain ⟨htail, hback⟩ := snakeChars_spec hrest
  have hne : c ≠ '_' := (of_isLower hc).2.2
  have hsnake : isSnake (c :: snakeChars rest) = true := by rw [isSnake, hc, htail]; rfl
  unfold toCamel
  rw [toList_toSnake h hname hc, if_pos hsnake, camelChars_plain hne, hback, ← hname, String.ofList_toList]

/-- A name that begins with a small letter is not the inherited one. -/
theorem ne_baseName_of_isLower {c : Char} {rest : List Char} (hname : name.toList = c :: rest) (hc : c.isLower) :
    name ≠ Inherited.baseName := by
  rintro rfl
  have hbase : Inherited.baseName.toList = '_' :: "_proto__".toList := by decide
  exact (of_isLower hc).2.2 (List.cons.inj (hname.symm.trans hbase)).1

/-- A name that begins with a small letter is no index. -/
theorem index?_eq_none_of_isLower {c : Char} {rest : List Char} (hname : name.toList = c :: rest) (hc : c.isLower) :
    Record.index? name = none := by
  unfold Record.index?
  simp [hname, (of_isLower hc).2.1]

/-- Names in camel case are names of fields. -/
theorem isFieldName_of_isCamel (h : isCamel name.toList) : IsFieldName name := by
  obtain ⟨c, rest, hname, hc, -⟩ := exists_of_isCamel h
  have hsnake := toList_toSnake h hname hc
  refine ⟨toCamel_toSnake h, ⟨?_, ?_⟩, index?_eq_none_of_isLower hname hc, index?_eq_none_of_isLower hsnake hc⟩
  · simpa [isDropped] using ne_baseName_of_isLower hname hc
  · simpa [isDropped] using ne_baseName_of_isLower hsnake hc

/-- A spelling that is the same in both cases is that of the name itself. -/
theorem toSnake_eq_self (h : isCamel name.toList) (hsnake : isCamel (toSnake name).toList) : toSnake name = name := by
  obtain ⟨c, rest, hname, hc, -⟩ := exists_of_isCamel h
  have hspelled := toList_toSnake h hname hc
  have hplain : ∀ d ∈ snakeChars rest, d.isAlphanum := by
    rw [hspelled, isCamel, Bool.and_eq_true, List.all_eq_true] at hsnake
    exact hsnake.2
  have hsame : snakeChars rest = rest := by
    clear hname hspelled
    induction rest with
    | nil => rfl
    | cons d rest ih =>
      by_cases hupper : d.isUpper
      · rw [snakeChars_capital hupper] at hplain
        cases hplain '_' List.mem_cons_self
      · rw [snakeChars_plain hupper] at hplain ⊢
        rw [ih fun e he => hplain e (List.mem_cons_of_mem d he)]
  rw [← String.toList_inj, hspelled, hsame, hname]

/-- Of a field in camel case both spellings tell whether it is one of some fields in camel case. -/
theorem contains_toSnake {preserve : List String} (hpreserve : ∀ name ∈ preserve, isCamel name.toList) (h : isCamel name.toList) :
    (preserve.contains name || preserve.contains (toSnake name)) = preserve.contains name := by
  by_cases hmem : toSnake name ∈ preserve
  · rw [toSnake_eq_self h (hpreserve _ hmem), Bool.or_self]
  · rw [List.contains_eq_mem (toSnake name), decide_eq_false hmem, Bool.or_false]

end Names

end KeyCase

/-! ## Values -/

namespace KeyCase

/-- The names of an object: listed in order, and in camel case or, where they are data, any but the one that cannot be set. -/
structure Named (data : Bool) (names : List String) : Prop where
  listed : Record.Listed names
  allowed : ∀ name ∈ names, if data then name ≠ Inherited.baseName else isCamel name.toList

instance (data : Bool) (names : List String) : Decidable (Named data names) :=
  decidable_of_iff (Record.Listed names ∧ ∀ name ∈ names, if data then name ≠ Inherited.baseName else isCamel name.toList)
    ⟨fun h => ⟨h.1, h.2⟩, fun h => ⟨h.listed, h.allowed⟩⟩

/-- How a name is spelled on the wire: in snake case, unless it is data. -/
def wireName (data : Bool) (name : String) : String := if data then name else toSnake name

end KeyCase

open KeyCase

namespace Json

mutual

/-- The names of all objects in a value are in camel case, but for those of the objects right under a field in `preserve`: these are data,
and none of them makes the names below it data. `data` tells whether the names of the value itself are. -/
def CamelNamed (preserve : List String) (data : Bool) : Json → Prop
  | arr items => CamelNamedItems preserve items
  | obj fields => Named data (Record.keys fields) ∧ CamelNamedFields preserve data fields
  | _ => True

def CamelNamedItems (preserve : List String) : List Json → Prop
  | [] => True
  | item :: rest => CamelNamed preserve false item ∧ CamelNamedItems preserve rest

def CamelNamedFields (preserve : List String) (data : Bool) : List (String × Json) → Prop
  | [] => True
  | (name, value) :: rest => CamelNamed preserve (!data && preserve.contains name) value ∧ CamelNamedFields preserve data rest

end

mutual

/-- A value and what it is on the wire: the same lists, and objects with the same fields in the same places, the names in the spelling of
the wire and no two of an object the same. -/
inductive OnWire (preserve : List String) : Bool → Json → Json → Prop
  | null (data : Bool) : OnWire preserve data .null .null
  | bool (data b : Bool) : OnWire preserve data (.bool b) (.bool b)
  | num (data : Bool) (x : Number) : OnWire preserve data (.num x) (.num x)
  | str (data : Bool) (s : String) : OnWire preserve data (.str s) (.str s)
  | arr (data : Bool) {items others : List Json} (hitems : ItemsOnWire preserve items others) :
      OnWire preserve data (.arr items) (.arr others)
  | obj {data : Bool} {fields others : List (String × Json)} (hdistinct : (Record.keys others).Nodup)
      (hfields : FieldsOnWire preserve data fields others) : OnWire preserve data (.obj fields) (.obj others)

inductive ItemsOnWire (preserve : List String) : List Json → List Json → Prop
  | nil : ItemsOnWire preserve [] []
  | cons {item other : Json} {rest others : List Json} (hitem : OnWire preserve false item other)
      (hrest : ItemsOnWire preserve rest others) : ItemsOnWire preserve (item :: rest) (other :: others)

inductive FieldsOnWire (preserve : List String) : Bool → List (String × Json) → List (String × Json) → Prop
  | nil (data : Bool) : FieldsOnWire preserve data [] []
  | cons {data : Bool} {name : String} {value other : Json} {rest others : List (String × Json)}
      (hvalue : OnWire preserve (!data && preserve.contains name) value other) (hrest : FieldsOnWire preserve data rest others) :
      FieldsOnWire preserve data ((name, value) :: rest) ((wireName data name, other) :: others)

end

end Json

namespace KeyCase

variable {preserve : List String} {data : Bool}

/-- On the wire the names of an object are distinct and in order. -/
theorem Named.listed_wire {names : List String} (h : Named data names) : Record.Listed (names.map (wireName data)) := by
  cases data with
  | true =>
    have hmap : names.map (wireName true) = names := List.map_id names
    rw [hmap]
    exact h.listed
  | false =>
    have hfield : ∀ name ∈ names, IsFieldName name := fun name hname => isFieldName_of_isCamel (h.allowed name hname)
    refine Record.listed_of_plain ?_ ?_
    · intro name hname
      obtain ⟨own, hown, rfl⟩ := List.mem_map.mp hname
      exact (hfield own hown).2.2.2
    · refine h.listed.distinct.map_on fun name hname other hother heq => ?_
      rw [← (hfield name hname).1, ← (hfield other hother).1]
      exact congrArg toCamel heq

/-- No name of an object is dropped in either spelling, and each is read back. -/
theorem Named.read_back {names : List String} (h : Named data names) {name : String} (hname : name ∈ names) :
    ¬ isDropped (wireName data name) ∧ ¬ isDropped name ∧ (if data then wireName data name else toCamel (wireName data name)) = name := by
  have hallowed := h.allowed name hname
  cases data with
  | true =>
    have hplain : ¬ isDropped name := by simpa [isDropped] using hallowed
    exact ⟨hplain, hplain, rfl⟩
  | false =>
    have hfield : IsFieldName name := isFieldName_of_isCamel hallowed
    exact ⟨hfield.2.1.2, hfield.2.1.1, hfield.1⟩

/-- Whether the names below a field are data shows in either of its spellings. -/
theorem Named.contains_wireName {names : List String} (h : Named data names) (hpreserve : ∀ name ∈ preserve, isCamel name.toList)
    {name : String} (hname : name ∈ names) :
    (!data && (preserve.contains name || preserve.contains (wireName data name))) = (!data && preserve.contains name) := by
  cases data with
  | true => rfl
  | false => exact contains_toSnake hpreserve (h.allowed name hname)

section Objects

variable {fields : List (String × Json)}

/-- Fields on the wire have the names of the wire. -/
theorem keys_onWire (change : String × Json → Json) :
    Record.keys (fields.map fun field => (wireName data field.1, change field)) = (Record.keys fields).map (wireName data) := by
  unfold Record.keys
  rw [List.map_map, List.map_map]
  rfl

/-- An object keeps its fields in their places when it is respelled. -/
theorem convert_toSnake_object (hpreserve : ∀ name ∈ preserve, isCamel name.toList) (h : Named data (Record.keys fields)) :
    convert toSnake preserve data (.obj fields) = .obj (fields.map fun field =>
      (wireName data field.1, convert toSnake preserve (!data && preserve.contains field.1) field.2)) := by
  have hfields : convertFields toSnake preserve data fields = fields.map fun field =>
      (wireName data field.1, convert toSnake preserve (!data && preserve.contains field.1) field.2) := by
    rw [convertFields_eq preserve fun name hname => (h.read_back hname).1]
    refine List.map_congr_left fun field hfield => ?_
    have hflag := h.contains_wireName hpreserve (List.mem_map_of_mem hfield)
    exact congrArg (fun keep => (wireName data field.1, convert toSnake preserve keep field.2)) hflag
  rw [convert, hfields, Record.ofPairs_of_listed]
  rw [keys_onWire fun field => convert toSnake preserve (!data && preserve.contains field.1) field.2]
  exact h.listed_wire

/-- A respelled object is read back when its values are. -/
theorem convert_toCamel_object (hpreserve : ∀ name ∈ preserve, isCamel name.toList) (h : Named data (Record.keys fields))
    (hvalues : ∀ field ∈ fields, convert toCamel preserve (!data && preserve.contains field.1)
      (convert toSnake preserve (!data && preserve.contains field.1) field.2) = field.2) :
    convert toCamel preserve data (convert toSnake preserve data (.obj fields)) = .obj fields := by
  rw [convert_toSnake_object hpreserve h, convert, convertFields_eq]
  · rw [List.map_map]
    have hback : ∀ field ∈ fields, ((fun other : String × Json =>
        let renamed := if data then other.1 else toCamel other.1
        (renamed, convert toCamel preserve (!data && (preserve.contains other.1 || preserve.contains renamed)) other.2)) ∘
        fun field => (wireName data field.1, convert toSnake preserve (!data && preserve.contains field.1) field.2)) field = field := by
      intro field hfield
      have hname : field.1 ∈ Record.keys fields := List.mem_map_of_mem hfield
      dsimp only [Function.comp]
      rw [(h.read_back hname).2.2, Bool.or_comm, h.contains_wireName hpreserve hname, hvalues field hfield]
    rw [List.map_congr_left hback, List.map_id', Record.ofPairs_of_listed h.listed]
  · intro name hname
    rw [keys_onWire fun field => convert toSnake preserve (!data && preserve.contains field.1) field.2] at hname
    obtain ⟨own, hown, rfl⟩ := List.mem_map.mp hname
    rw [(h.read_back hown).2.2]
    exact (h.read_back hown).2.1

end Objects

mutual

/-- A value with names in camel case is respelled name by name. -/
theorem onWire_convert (hpreserve : ∀ name ∈ preserve, isCamel name.toList) : ∀ (data : Bool) (j : Json),
    j.CamelNamed preserve data → j.OnWire preserve data (convert toSnake preserve data j)
  | data, .null, _ => .null data
  | data, .bool b, _ => .bool data b
  | data, .num x, _ => .num data x
  | data, .str s, _ => .str data s
  | data, .arr items, h => .arr data (itemsOnWire_convert hpreserve items h)
  | data, .obj fields, ⟨hnamed, hvalues⟩ => by
    have hfields := fieldsOnWire_convert hpreserve data fields hvalues
    rw [convert_toSnake_object hpreserve hnamed]
    refine .obj ?_ hfields
    rw [keys_onWire fun field => convert toSnake preserve (!data && preserve.contains field.1) field.2]
    exact hnamed.listed_wire.distinct

/-- Items are converted to what they are on the wire. -/
theorem itemsOnWire_convert (hpreserve : ∀ name ∈ preserve, isCamel name.toList) : ∀ items : List Json,
    Json.CamelNamedItems preserve items → Json.ItemsOnWire preserve items (convertItems toSnake preserve items)
  | [], _ => .nil
  | item :: rest, ⟨hitem, hrest⟩ => .cons (onWire_convert hpreserve false item hitem) (itemsOnWire_convert hpreserve rest hrest)

/-- Fields are converted to what they are on the wire. -/
theorem fieldsOnWire_convert (hpreserve : ∀ name ∈ preserve, isCamel name.toList) : ∀ (data : Bool) (fields : List (String × Json)),
    Json.CamelNamedFields preserve data fields → Json.FieldsOnWire preserve data fields (fields.map fun field =>
      (wireName data field.1, convert toSnake preserve (!data && preserve.contains field.1) field.2))
  | data, [], _ => .nil data
  | data, (_, value) :: rest, ⟨hvalue, hrest⟩ =>
    .cons (onWire_convert hpreserve _ value hvalue) (fieldsOnWire_convert hpreserve data rest hrest)

end

mutual

/-- A respelled value with names in camel case is read back. -/
theorem convert_convert (hpreserve : ∀ name ∈ preserve, isCamel name.toList) : ∀ (data : Bool) (j : Json),
    j.CamelNamed preserve data → convert toCamel preserve data (convert toSnake preserve data j) = j
  | _, .null, _ => rfl
  | _, .bool _, _ => rfl
  | _, .num _, _ => rfl
  | _, .str _, _ => rfl
  | _, .arr items, h => congrArg Json.arr (convertItems_convertItems hpreserve items h)
  | data, .obj fields, ⟨hnamed, hvalues⟩ =>
    convert_toCamel_object hpreserve hnamed (convert_values hpreserve data fields hvalues)

/-- Items that are converted and converted back are the same. -/
theorem convertItems_convertItems (hpreserve : ∀ name ∈ preserve, isCamel name.toList) : ∀ items : List Json,
    Json.CamelNamedItems preserve items → convertItems toCamel preserve (convertItems toSnake preserve items) = items
  | [], _ => rfl
  | item :: rest, ⟨hitem, hrest⟩ =>
    congrArg₂ List.cons (convert_convert hpreserve false item hitem) (convertItems_convertItems hpreserve rest hrest)

/-- The values of fields that are converted and converted back are the same. -/
theorem convert_values (hpreserve : ∀ name ∈ preserve, isCamel name.toList) : ∀ (data : Bool) (fields : List (String × Json)),
    Json.CamelNamedFields preserve data fields → ∀ field ∈ fields, convert toCamel preserve (!data && preserve.contains field.1)
      (convert toSnake preserve (!data && preserve.contains field.1) field.2) = field.2
  | _, [], _ => fun _ hfield => absurd hfield List.not_mem_nil
  | data, (_, value) :: rest, ⟨hvalue, hrest⟩ =>
    List.forall_mem_cons.mpr ⟨convert_convert hpreserve _ value hvalue, convert_values hpreserve data rest hrest⟩

end

/-- Writing in snake case and reading in camel case gives back each value whose names are in camel case, but for the objects under some
fields whose names are data. On the wire every name stands in its place, in the spelling of the wire, and no two of an object collide. -/
theorem camelKeys_snakeKeys {preserve : List String} (hpreserve : ∀ name ∈ preserve, isCamel name.toList) {value : Json}
    (h : value.CamelNamed preserve false) :
    value.OnWire preserve false (snakeKeys preserve value) ∧ camelKeys preserve (snakeKeys preserve value) = value := by
  constructor
  · exact onWire_convert hpreserve false value h
  · exact convert_convert hpreserve false value h

/-- A summary by file: an index and a path among the names that are data, and one that is also that of the field with the data. -/
def summary : Json :=
  .obj [("allViolations", .arr [.obj [("endLine", .null)], .null]),
    ("summaryByFile", .obj [("7", .null), ("src/main.rs", .obj [("sloc2B", .str "x")]), ("summaryByFile", .obj [("aBC", .bool true)])])]

/-- The summary is spelled on the wire and read back, with its data left alone. -/
theorem summary_read_back :
    (∀ name ∈ ["summaryByFile"], isCamel name.toList) ∧ summary.CamelNamed ["summaryByFile"] false ∧
      (snakeKeys ["summaryByFile"] summary == .obj [("all_violations", .arr [.obj [("end_line", .null)], .null]),
        ("summary_by_file",
          .obj [("7", .null), ("src/main.rs", .obj [("sloc2_b", .str "x")]), ("summaryByFile", .obj [("a_b_c", .bool true)])])]) ∧
      camelKeys ["summaryByFile"] (snakeKeys ["summaryByFile"] summary) = summary := by
  have hpreserve : ∀ name ∈ ["summaryByFile"], isCamel name.toList := by decide
  have hnamed : summary.CamelNamed ["summaryByFile"] false := by
    simp only [summary, Json.CamelNamed, Json.CamelNamedItems, Json.CamelNamedFields]
    decide +kernel
  exact ⟨hpreserve, hnamed, by decide +kernel, (camelKeys_snakeKeys hpreserve hnamed).2⟩

end KeyCase

end QualityGate
