import QualityGate.Json.KeyCase
import QualityGate.Proofs.JsonText
import QualityGate.Proofs.Records

/-!
# Field names in two spellings

A value whose fields have names of the program, each of which has a spelling in snake case that leads back to it, is the same after
it was written with the other spelling and read with its own.
-/

namespace QualityGate

namespace KeyCase

/-- A name of a field that is the same after it was spelled in snake case and read back; in neither spelling is it a list index. -/
def IsFieldName (name : String) : Prop :=
  toCamel (toSnake name) = name ∧ (¬ isDropped name ∧ ¬ isDropped (toSnake name)) ∧
    Record.index? name = none ∧ Record.index? (toSnake name) = none

instance (name : String) : Decidable (IsFieldName name) := by
  unfold IsFieldName
  infer_instance

end KeyCase

open KeyCase

namespace Json

mutual

/-- The fields of all objects in a value have different names of fields. -/
def WellNamed : Json → Prop
  | arr items => WellNamedItems items
  | obj fields => (∀ name ∈ Record.keys fields, IsFieldName name) ∧ (Record.keys fields).Nodup ∧ WellNamedFields fields
  | _ => True

def WellNamedItems : List Json → Prop
  | [] => True
  | item :: rest => WellNamed item ∧ WellNamedItems rest

def WellNamedFields : List (String × Json) → Prop
  | [] => True
  | (_, value) :: rest => WellNamed value ∧ WellNamedFields rest

end

/-- Fields are written one by one. -/
theorem writtenFields_eq_map (fields : List (String × Json)) :
    writtenFields fields = fields.map fun field => (field.1, field.2.written) := by
  induction fields with
  | nil => rfl
  | cons field rest ih => rw [writtenFields, ih]; rfl

end Json

namespace KeyCase

/-- The fields that none is dropped of stay in their places, each with its name and what is below it respelled. -/
theorem convertFields_eq {rename : String → String} (preserve : List String) {keep : Bool} {fields : List (String × Json)}
    (h : ∀ name ∈ Record.keys fields, ¬ isDropped (if keep then name else rename name)) :
    convertFields rename preserve keep fields = fields.map fun field =>
      let renamed := if keep then field.1 else rename field.1
      (renamed, convert rename preserve (!keep && (preserve.contains field.1 || preserve.contains renamed)) field.2) := by
  induction fields with
  | nil => rfl
  | cons field rest ih =>
    obtain ⟨name, value⟩ := field
    obtain ⟨hname, hrest⟩ := List.forall_mem_cons.mp h
    rw [convertFields, ih hrest]
    exact if_neg hname

/-- Fields are renamed one by one, if none of them is dropped. -/
theorem convertFields_eq_map {rename : String → String} {fields : List (String × Json)}
    (h : ∀ name ∈ Record.keys fields, ¬ isDropped (rename name)) : convertFields rename [] false fields =
      fields.map fun field => (rename field.1, convert rename [] false field.2) :=
  convertFields_eq [] h

/-- What fields hold is adopted one by one. -/
theorem adoptedFields_eq_map (rename : String → String) (fields : List (String × Json)) :
    adoptedFields rename fields = fields.map fun field => (field.1, adopted rename field.2) := by
  induction fields with
  | nil => rfl
  | cons field rest ih => rw [adoptedFields, ih]; rfl

/-- Without a field `__proto__` nothing is adopted. -/
theorem adopt_eq_self {rename : String → String} {fields : Record Json} (h : ∀ name ∈ Record.keys fields, ¬ isDropped name) :
    adopt rename fields = fields := by
  have hown : ∀ field ∈ fields, (!isDropped field.1) = true := fun field hfield => by
    simpa using h field.1 (List.mem_map_of_mem hfield)
  have hbase : fields.get? Inherited.baseName = none := by
    refine Record.get?_eq_none_iff.mpr fun hmem => h _ hmem ?_
    simp [isDropped]
  unfold adopt
  rw [hbase]
  exact List.filter_eq_self.mpr hown

/-- The names of renamed fields are the new names. -/
theorem keys_respell (rename : String → String) (change : Json → Json) (fields : Record Json) :
    Record.keys (fields.map fun field => (rename field.1, change field.2)) = (Record.keys fields).map rename := by
  unfold Record.keys
  rw [List.map_map, List.map_map]
  rfl

/-- Fields stay in place when their names are spelled in snake case. -/
theorem ofPairs_respell {fields : Record Json} (hnames : ∀ name ∈ Record.keys fields, IsFieldName name)
    (hdistinct : (Record.keys fields).Nodup) (change : Json → Json) :
    Record.ofPairs (fields.map fun field => (toSnake field.1, change field.2)) =
      fields.map fun field => (toSnake field.1, change field.2) := by
  have hkeys := keys_respell toSnake change fields
  refine Record.ofPairs_eq_self (fun pair hpair => ?_) ?_
  · have hmem : pair.1 ∈ (Record.keys fields).map toSnake := hkeys ▸ List.mem_map_of_mem hpair
    obtain ⟨name, hname, heq⟩ := List.mem_map.mp hmem
    rw [← heq]
    exact (hnames name hname).2.2.2
  · rw [hkeys]
    refine hdistinct.map_on fun name hname other hother heq => ?_
    rw [← (hnames name hname).1, ← (hnames other hother).1, heq]

/-- What is written of an object in snake case has its fields in their places. -/
theorem written_snakeKeys {fields : Record Json} (hnames : ∀ name ∈ Record.keys fields, IsFieldName name)
    (hdistinct : (Record.keys fields).Nodup) : (snakeKeys [] (.obj fields)).written =
      .obj (fields.map fun field => (toSnake field.1, (snakeKeys [] field.2).written)) := by
  have hsnake : snakeKeys [] (.obj fields) = .obj (fields.map fun field => (toSnake field.1, snakeKeys [] field.2)) := by
    have hconvert := @convertFields_eq_map toSnake fields fun name hname => (hnames name hname).2.1.2
    show Json.obj (Record.ofPairs (convertFields toSnake [] false fields)) = _
    rw [hconvert]
    exact congrArg Json.obj (ofPairs_respell hnames hdistinct _)
  rw [hsnake, Json.written, Json.writtenFields_eq_map, List.map_map]
  exact congrArg Json.obj (ofPairs_respell hnames hdistinct fun value => (snakeKeys [] value).written)

/-- No field in snake case is dropped, and none becomes one that is. -/
theorem not_isDropped_respell {fields : Record Json} (hnames : ∀ name ∈ Record.keys fields, IsFieldName name)
    (change : Json → Json) : ∀ name ∈ Record.keys (fields.map fun field => (toSnake field.1, change field.2)),
      ¬ isDropped name ∧ ¬ isDropped (toCamel name) := by
  intro name hname
  rw [keys_respell] at hname
  obtain ⟨own, hown, rfl⟩ := List.mem_map.mp hname
  rw [(hnames own hown).1]
  exact (hnames own hown).2.1.symm

/-- An object that is written in snake case and read in camel case has the fields that its values have become. -/
theorem camelKeys_object {fields : Record Json} (hnames : ∀ name ∈ Record.keys fields, IsFieldName name)
    (hdistinct : (Record.keys fields).Nodup)
    (hvalues : ∀ field ∈ fields, camelKeys [] (snakeKeys [] field.2).written = field.2.written) :
    camelKeys [] (snakeKeys [] (.obj fields)).written = (Json.obj fields).written := by
  have hplain := not_isDropped_respell hnames fun value => (snakeKeys [] value).written
  rw [written_snakeKeys hnames hdistinct]
  unfold camelKeys
  rw [convert, convertFields_eq_map fun name hname => (hplain name hname).2, List.map_map, Json.written, Json.writtenFields_eq_map]
  refine congrArg (Json.obj ∘ Record.ofPairs) (List.map_congr_left fun field hfield => ?_)
  exact Prod.ext (hnames field.1 (List.mem_map_of_mem hfield)).1 (hvalues field hfield)

mutual

/-- A value with names of fields is the same after it was written in snake case and its fields were spelled in camel case. -/
theorem camelKeys_written : ∀ j : Json, j.WellNamed → camelKeys [] (snakeKeys [] j).written = j.written
  | .null, _ => rfl
  | .bool _, _ => rfl
  | .num x, _ => by
    show camelKeys [] (Json.num x).written = (Json.num x).written
    rw [Json.written]
    split <;> rfl
  | .str _, _ => rfl
  | .arr items, h => congrArg Json.arr (camelItems_written items h)
  | .obj fields, ⟨hnames, hdistinct, hvalues⟩ => camelKeys_object hnames hdistinct (camelValues_written fields hvalues)

/-- Items that are spelled in snake case and read back are those that were written. -/
theorem camelItems_written : ∀ items : List Json, Json.WellNamedItems items →
    convertItems toCamel [] (Json.writtenItems (convertItems toSnake [] items)) = Json.writtenItems items
  | [], _ => rfl
  | item :: rest, ⟨hitem, hrest⟩ => congrArg₂ List.cons (camelKeys_written item hitem) (camelItems_written rest hrest)

/-- The values of fields that are spelled in snake case and read back are those that were written. -/
theorem camelValues_written : ∀ fields : List (String × Json), Json.WellNamedFields fields →
    ∀ field ∈ fields, camelKeys [] (snakeKeys [] field.2).written = field.2.written
  | [], _, _, hfield => nomatch hfield
  | (name, value) :: rest, ⟨hvalue, hrest⟩, field, hfield => by
    rcases List.mem_cons.mp hfield with rfl | hmem
    · exact camelKeys_written value hvalue
    · exact camelValues_written rest hrest field hmem

end

/-- In an object in snake case nothing can be looked up but its fields, when that is so in its values. -/
theorem adopted_object {fields : Record Json} (hnames : ∀ name ∈ Record.keys fields, IsFieldName name)
    (hdistinct : (Record.keys fields).Nodup)
    (hvalues : ∀ field ∈ fields, adopted toCamel (snakeKeys [] field.2).written = (snakeKeys [] field.2).written) :
    adopted toCamel (snakeKeys [] (.obj fields)).written = (snakeKeys [] (.obj fields)).written := by
  have hplain := not_isDropped_respell hnames fun value => (snakeKeys [] value).written
  have hsame : (fields.map fun field => (toSnake field.1, adopted toCamel (snakeKeys [] field.2).written)) =
      fields.map fun field => (toSnake field.1, (snakeKeys [] field.2).written) :=
    List.map_congr_left fun field hfield => Prod.ext rfl (hvalues field hfield)
  rw [written_snakeKeys hnames hdistinct, adopted, adoptedFields_eq_map, List.map_map]
  refine congrArg Json.obj ((congrArg (adopt toCamel) hsame).trans ?_)
  exact adopt_eq_self fun name hname => (hplain name hname).1

mutual

/-- In what is written of a value in snake case nothing can be looked up but its fields. -/
theorem adopted_written : ∀ j : Json, j.WellNamed → adopted toCamel (snakeKeys [] j).written = (snakeKeys [] j).written
  | .null, _ => rfl
  | .bool _, _ => rfl
  | .num x, _ => by
    show adopted toCamel (Json.num x).written = (Json.num x).written
    rw [Json.written]
    split <;> rfl
  | .str _, _ => rfl
  | .arr items, h => congrArg Json.arr (adoptedItems_written items h)
  | .obj fields, ⟨hnames, hdistinct, hvalues⟩ => adopted_object hnames hdistinct (adoptedValues_written fields hvalues)

/-- Well-named items have nothing to adopt. -/
theorem adoptedItems_written : ∀ items : List Json, Json.WellNamedItems items →
    adoptedItems toCamel (Json.writtenItems (convertItems toSnake [] items)) = Json.writtenItems (convertItems toSnake [] items)
  | [], _ => rfl
  | item :: rest, ⟨hitem, hrest⟩ => congrArg₂ List.cons (adopted_written item hitem) (adoptedItems_written rest hrest)

/-- The values of well-named fields have nothing to adopt. -/
theorem adoptedValues_written : ∀ fields : List (String × Json), Json.WellNamedFields fields →
    ∀ field ∈ fields, adopted toCamel (snakeKeys [] field.2).written = (snakeKeys [] field.2).written
  | [], _, _, hfield => nomatch hfield
  | (name, value) :: rest, ⟨hvalue, hrest⟩, field, hfield => by
    rcases List.mem_cons.mp hfield with rfl | hmem
    · exact adopted_written value hvalue
    · exact adoptedValues_written rest hrest field hmem

end

/-- A value with names of fields is the same after it was written in snake case and read in camel case. -/
theorem camelFields_written (j : Json) (h : j.WellNamed) : camelFields (snakeKeys [] j).written = j.written := by
  unfold camelFields
  rw [adopted_written j h, camelKeys_written j h]

end KeyCase

/-! ## Values with names of fields -/

namespace Json

/-- Fields hold well-named values when each of them does. -/
theorem wellNamedFields_iff {fields : List (String × Json)} : WellNamedFields fields ↔ ∀ field ∈ fields, field.2.WellNamed := by
  induction fields with
  | nil => simp [WellNamedFields]
  | cons field rest ih => simp [WellNamedFields, ih]

/-- An object of fields with some given names. -/
theorem wellNamed_obj {fields : Record Json} {names : List String} (hkeys : fields.keys = names)
    (hnames : ∀ name ∈ names, IsFieldName name) (hdistinct : names.Nodup) (hvalues : ∀ field ∈ fields, field.2.WellNamed) :
    (obj fields).WellNamed :=
  ⟨hkeys ▸ hnames, hkeys ▸ hdistinct, wellNamedFields_iff.mpr hvalues⟩

/-- A list of texts has no names in it. -/
theorem wellNamed_strings (texts : List String) : (strings texts).WellNamed := by
  show WellNamedItems (texts.map str)
  induction texts with
  | nil => trivial
  | cons text rest ih => exact ⟨trivial, ih⟩

/-- What is written of the values of an object stands under their names. -/
theorem get?_written {fields : Record Json} (hdistinct : fields.keys.Nodup) (name : String) :
    Record.get? (Record.ofPairs (writtenFields fields)) name = (fields.get? name).map written := by
  have hkeys : Record.keys (writtenFields fields) = fields.keys := by
    rw [writtenFields_eq_map]
    unfold Record.keys
    rw [List.map_map]
    rfl
  rw [Record.get?_ofPairs, Record.last?_eq_get? (hkeys ▸ hdistinct), writtenFields_eq_map]
  clear hdistinct hkeys
  induction fields with
  | nil => rfl
  | cons field rest ih =>
    rw [List.map_cons, Record.get?_cons, Record.get?_cons, ih]
    split <;> rfl

/-! ## Floating-point numbers -/

/-- An object made of pairs has rounded numbers when the pairs have them. -/
theorem roundedFields_ofPairs {pairs : List (String × Json)} (h : RoundedFields pairs) : RoundedFields (Record.ofPairs pairs) := by
  have hfold : ∀ r : Record Json, RoundedFields r → RoundedFields (pairs.foldl (fun r pair => Record.set r pair.1 pair.2) r) := by
    induction pairs with
    | nil => exact fun r hr => hr
    | cons pair rest ih => exact fun r hr => ih h.2 _ (roundedFields_set hr h.1 pair.1)
  exact hfold [] trivial

end Json

namespace KeyCase

mutual

/-- Spelling names in another way leaves the numbers as they are. -/
theorem rounded_convert (rename : String → String) (preserve : List String) :
    ∀ (keep : Bool) (j : Json), j.Rounded → (convert rename preserve keep j).Rounded
  | _, .null, _ => trivial
  | _, .bool _, _ => trivial
  | _, .num _, h => h
  | _, .str _, _ => trivial
  | _, .arr items, h => rounded_convertItems rename preserve items h
  | keep, .obj fields, h => Json.roundedFields_ofPairs (rounded_convertFields rename preserve keep fields h)

/-- Items that are renamed keep their numbers. -/
theorem rounded_convertItems (rename : String → String) (preserve : List String) :
    ∀ items : List Json, Json.RoundedItems items → Json.RoundedItems (convertItems rename preserve items)
  | [], _ => trivial
  | item :: rest, ⟨hitem, hrest⟩ => ⟨rounded_convert rename preserve false item hitem, rounded_convertItems rename preserve rest hrest⟩

/-- Fields that are renamed keep their numbers. -/
theorem rounded_convertFields (rename : String → String) (preserve : List String) (keep : Bool) :
    ∀ fields : List (String × Json), Json.RoundedFields fields → Json.RoundedFields (convertFields rename preserve keep fields)
  | [], _ => trivial
  | (name, value) :: rest, ⟨hvalue, hrest⟩ => by
    have hothers := rounded_convertFields rename preserve keep rest hrest
    rw [convertFields]
    generalize (if keep then name else rename name) = renamed
    by_cases hdropped : isDropped renamed
    · rw [if_pos hdropped]
      exact hothers
    · rw [if_neg hdropped]
      exact ⟨rounded_convert rename preserve _ value hvalue, hothers⟩

end

/-- Fields that are adopted come from within the object, with their numbers. -/
theorem roundedFields_adopt {fields : Record Json} (h : Json.RoundedFields fields) (rename : String → String) :
    Json.RoundedFields (adopt rename fields) := by
  rw [Json.roundedFields_iff] at h ⊢
  intro field hfield
  unfold adopt at hfield
  dsimp only at hfield
  split at hfield
  · rename_i base hbase
    rcases List.mem_append.mp hfield with hown | hadopted
    · exact h field (List.mem_filter.mp hown).1
    · have hmem : (Inherited.baseName, Json.obj base) ∈ fields := Record.mem_of_get? hbase
      exact Json.roundedFields_iff.mp (h _ hmem) field (List.mem_filter.mp hadopted).1
  · exact h field (List.mem_filter.mp hfield).1

mutual

/-- What can be looked up in a value is in it. -/
theorem rounded_adopted (rename : String → String) : ∀ j : Json, j.Rounded → (adopted rename j).Rounded
  | .null, _ => trivial
  | .bool _, _ => trivial
  | .num _, h => h
  | .str _, _ => trivial
  | .arr items, h => rounded_adoptedItems rename items h
  | .obj fields, h => roundedFields_adopt (rounded_adoptedFields rename fields h) rename

/-- Items that adopt fields have rounded numbers as before. -/
theorem rounded_adoptedItems (rename : String → String) :
    ∀ items : List Json, Json.RoundedItems items → Json.RoundedItems (adoptedItems rename items)
  | [], _ => trivial
  | item :: rest, ⟨hitem, hrest⟩ => ⟨rounded_adopted rename item hitem, rounded_adoptedItems rename rest hrest⟩

/-- Fields whose values adopt others have rounded numbers as before. -/
theorem rounded_adoptedFields (rename : String → String) :
    ∀ fields : List (String × Json), Json.RoundedFields fields → Json.RoundedFields (adoptedFields rename fields)
  | [], _ => trivial
  | (_, value) :: rest, ⟨hvalue, hrest⟩ => ⟨rounded_adopted rename value hvalue, rounded_adoptedFields rename rest hrest⟩

end

theorem rounded_snakeKeys {preserve : List String} {j : Json} (h : j.Rounded) : (snakeKeys preserve j).Rounded :=
  rounded_convert toSnake preserve false j h

theorem rounded_camelFields {j : Json} (h : j.Rounded) : (camelFields j).Rounded :=
  rounded_convert toCamel [] false _ (rounded_adopted toCamel j h)

end KeyCase

/-! ## What is written -/

namespace Json

theorem rounded_of_get? {fields : Record Json} (h : RoundedFields fields) (name : String) : ∀ v ∈ fields.get? name, v.Rounded :=
  fun _ hv => roundedFields_iff.mp h _ (Record.mem_of_get? hv)

/-- A value that may be missing is well-named when it is so where it is there. -/
theorem wellNamed_optional {α : Type} [Encode α] (h : ∀ a : α, (encode a).WellNamed) (o : Option α) : (encode o).WellNamed := by
  cases o with
  | none => trivial
  | some a => exact h a

theorem written_num {x : Number} (h : x.isFinite) : (num x).written = num x := if_pos h

/-- What is written as a number is a finite one. -/
theorem isFinite_of_written_num {x y : Number} (h : (num x).written = num y) : x.isFinite := by
  by_contra hx
  rw [written, if_neg hx] at h
  cases h

/-- A list of texts is written as it is. -/
theorem written_strings (texts : List String) : (strings texts).written = strings texts := by
  show arr (writtenItems (texts.map str)) = arr (texts.map str)
  refine congrArg arr ?_
  induction texts with
  | nil => rfl
  | cons text rest ih => exact congrArg (str text :: ·) ih

/-- A rounded number is written as one, or as `null`. -/
theorem rounded_written_num {x : Number} (h : x.IsRounded) : (num x).written.Rounded := by
  rw [written]
  split
  · exact h
  · trivial

mutual

/-- What is written of rounded numbers are rounded numbers. -/
theorem rounded_written : ∀ j : Json, j.Rounded → j.written.Rounded
  | .null, _ => trivial
  | .bool _, _ => trivial
  | .num _, h => rounded_written_num h
  | .str _, _ => trivial
  | .arr items, h => rounded_writtenItems items h
  | .obj fields, h => roundedFields_ofPairs (rounded_writtenFields fields h)

/-- What is written of items with rounded numbers are such items. -/
theorem rounded_writtenItems : ∀ items : List Json, RoundedItems items → RoundedItems (writtenItems items)
  | [], _ => trivial
  | item :: rest, ⟨hitem, hrest⟩ => ⟨rounded_written item hitem, rounded_writtenItems rest hrest⟩

/-- What is written of fields with rounded numbers are such fields. -/
theorem rounded_writtenFields : ∀ fields : List (String × Json), RoundedFields fields → RoundedFields (writtenFields fields)
  | [], _ => trivial
  | (_, value) :: rest, ⟨hvalue, hrest⟩ => ⟨rounded_written value hvalue, rounded_writtenFields rest hrest⟩

end

/-- An object is written as it is when its values are. -/
theorem written_obj {fields : Record Json} (hnames : ∀ name ∈ fields.keys, KeyCase.IsFieldName name) (hdistinct : fields.keys.Nodup)
    (h : ∀ field ∈ fields, field.2.written = field.2) : (obj fields).written = obj fields := by
  have hvalues : writtenFields fields = fields := by
    rw [writtenFields_eq_map]
    conv_rhs => rw [← List.map_id fields]
    exact List.map_congr_left fun field hfield => Prod.ext rfl (h field hfield)
  have hplain : ∀ field ∈ fields, Record.index? field.1 = none := fun field hfield =>
    (hnames field.1 (List.mem_map_of_mem hfield)).2.2.1
  rw [written, hvalues, Record.ofPairs_eq_self hplain hdistinct]

/-- A list of texts has no numbers in it. -/
theorem rounded_strings (texts : List String) : (strings texts).Rounded := by
  refine roundedItems_iff.mpr fun item hitem => ?_
  obtain ⟨text, -, rfl⟩ := List.mem_map.mp hitem
  trivial

/-- A value that may be missing has rounded numbers when it has them where it is there. -/
theorem rounded_optional {α : Type} [Encode α] {o : Option α} (h : ∀ a, o = some a → (encode a).Rounded) : (encode o).Rounded := by
  cases o with
  | none => trivial
  | some a => exact h a rfl

/-- A value that may be missing loses nothing in writing when it loses nothing where it is there. -/
theorem written_optional {α : Type} [Encode α] {o : Option α} (h : ∀ a, o = some a → (encode a).written = encode a) :
    (encode o).written = encode o := by
  cases o with
  | none => rfl
  | some a => exact h a rfl

end Json

end QualityGate
