import QualityGate.Proofs.Lines
import QualityGate.Text.Path

/-!
# The last segments of paths

What a path ends in behind its last slash is the name of a file (`EndsIn`). Working out the steps of a path leaves a name that is no
step where it is, so that two paths with different names lead to different places.
-/

namespace QualityGate

namespace Path

/-! ## Segments -/

/-- A character that is not found is not there. -/
theorem indexOf?_eq_none {c : Char} {text : List Char} (h : indexOf? [c] text = none) : c ∉ text := by
  induction text with
  | nil => exact List.not_mem_nil
  | cons d text ih =>
    rw [indexOf?] at h
    split at h
    · cases h
    · rename_i hne
      intro hmem
      rcases List.mem_cons.mp hmem with rfl | hmem
      · simp at hne
      · exact ih (Option.map_eq_none_iff.mp h) hmem

/-- A character is found at its first place. -/
theorem eq_take_append_of_indexOf? {c : Char} {text : List Char} {n : Nat} (h : indexOf? [c] text = some n) :
    text = text.take n ++ c :: text.drop (n + 1) ∧ c ∉ text.take n := by
  induction text generalizing n with
  | nil => cases h
  | cons d text ih =>
    rw [indexOf?] at h
    split at h
    · rename_i heq
      obtain rfl := Option.some.inj h
      simp at heq
      simp [heq]
    · rename_i hne
      obtain ⟨m, hm, rfl⟩ := Option.map_eq_some_iff.mp h
      obtain ⟨htext, hnot⟩ := ih hm
      refine ⟨?_, ?_⟩
      · rw [List.take_succ_cons, List.drop_succ_cons, List.cons_append, ← htext]
      · rw [List.take_succ_cons]
        intro hmem
        rcases List.mem_cons.mp hmem with rfl | hmem
        · simp at hne
        · exact hnot hmem

/-- Splitting at one character is the library's splitting. -/
theorem splitAtText_eq_splitOn (c : Char) {fuel : Nat} {text : List Char} (h : text.length < fuel) :
    splitAtText [c] fuel text = text.splitOn c := by
  induction fuel generalizing text with
  | zero => cases h
  | succ fuel ih =>
    rw [splitAtText]
    cases hindex : indexOf? [c] text with
    | none => exact (List.splitOn_eq_singleton (indexOf?_eq_none hindex)).symm
    | some n =>
      obtain ⟨htext, hnot⟩ := eq_take_append_of_indexOf? hindex
      have hrest : (text.drop (n + 1)).length < fuel := by
        have hlength := congrArg List.length htext
        rw [List.length_append, List.length_cons] at hlength
        omega
      conv => rhs; rw [htext]
      rw [List.splitOn_append_cons_self_of_not_mem hnot, ← ih hrest]
      rfl

/-- The segments of a path are what stands between its slashes. -/
theorem segments_eq (path : String) : segments path = (path.toList.splitOn '/').map String.ofList := by
  rw [segments, Text.split]
  exact congrArg _ (splitAtText_eq_splitOn '/' (Nat.lt_succ_self _))

/-- A name behind a slash is one more segment. -/
theorem segments_slash (lead : String) {name : String} (h : '/' ∉ name.toList) :
    segments (lead ++ "/" ++ name) = segments lead ++ [name] := by
  rw [segments_eq, segments_eq, String.toList_append, String.toList_append]
  show List.map _ (List.splitOn '/' (lead.toList ++ ['/'] ++ name.toList)) = _
  rw [List.append_assoc, List.singleton_append, List.splitOn_append_cons_self, List.splitOn_eq_singleton h, List.map_append]
  simp

/-! ## Names -/

/-- What a path ends in behind its last slash. -/
def EndsIn (path name : String) : Prop := '/' ∉ name.toList ∧ (path = name ∨ ∃ lead, path = lead ++ "/" ++ name)

/-- Whether a segment is a name, and no step. -/
def IsName (segment : String) : Prop := segment ≠ "" ∧ segment ≠ "." ∧ segment ≠ ".."

/-- What a path ends in is its last segment. -/
theorem EndsIn.segments_eq {path name : String} (h : EndsIn path name) : ∃ parts, segments path = parts ++ [name] := by
  obtain ⟨hslash, rfl | ⟨lead, rfl⟩⟩ := h
  · refine ⟨[], ?_⟩
    rw [Path.segments_eq, List.splitOn_eq_singleton hslash]
    simp
  · exact ⟨segments lead, segments_slash lead hslash⟩

/-- What a path ends in is an end of its characters. -/
theorem EndsIn.suffix {path name : String} (h : EndsIn path name) : name.toList <:+ path.toList := by
  obtain ⟨-, rfl | ⟨lead, rfl⟩⟩ := h
  · exact List.suffix_rfl
  · exact ⟨(lead ++ "/").toList, String.toList_append.symm⟩

/-- A path ends in one name. -/
theorem EndsIn.unique {path a b : String} (ha : EndsIn path a) (hb : EndsIn path b) : a = b := by
  obtain ⟨partsA, hA⟩ := ha.segments_eq
  obtain ⟨partsB, hB⟩ := hb.segments_eq
  rw [hA] at hB
  exact (List.append_inj' hB rfl).2 |> List.singleton_inj.mp

/-- A joined path ends in the last of its segments. -/
theorem endsIn_join (parts : List String) {name : String} (h : '/' ∉ name.toList) :
    EndsIn (Text.join "/" (parts ++ [name])) name := by
  refine ⟨h, ?_⟩
  unfold Text.join
  by_cases hparts : parts = []
  · subst hparts
    exact .inl String.intercalate_singleton
  · refine .inr ⟨String.intercalate "/" parts, ?_⟩
    rw [String.intercalate_append_of_ne_nil hparts (List.cons_ne_nil _ _), String.intercalate_singleton]

/-- Every path ends in a name, which may be empty. -/
theorem exists_endsIn (path : String) : ∃ name, EndsIn path name := by
  obtain ⟨parts, name, hparts⟩ : ∃ parts name, path.toList.splitOn '/' = parts ++ [name] :=
    ⟨_, _, (List.dropLast_append_getLast (List.splitOn_ne_nil '/' path.toList)).symm⟩
  have hslash : '/' ∉ name := notMem_of_mem_splitOn (by rw [hparts]; exact List.mem_append_right _ List.mem_cons_self)
  have hwhole : ['/'].intercalate (path.toList.splitOn '/') = path.toList := List.intercalate_splitOn '/'
  have hpath : path = Text.join "/" (parts.map String.ofList ++ [String.ofList name]) := by
    rw [← String.toList_inj, Text.join, String.toList_intercalate, List.map_append, List.map_map, List.map_singleton,
      String.toList_ofList, ← hwhole, hparts]
    simp [Function.comp_def]
  refine ⟨String.ofList name, ?_⟩
  rw [hpath]
  exact endsIn_join _ (by rwa [String.toList_ofList])

/-- Characters behind a path that are no slashes belong to its last name. -/
theorem EndsIn.append {path name more : String} (h : EndsIn path name) (hmore : '/' ∉ more.toList) :
    EndsIn (path ++ more) (name ++ more) := by
  obtain ⟨hslash, hpath⟩ := h
  refine ⟨?_, ?_⟩
  · rw [String.toList_append, List.mem_append]
    exact fun hmem => hmem.elim hslash hmore
  · rcases hpath with rfl | ⟨lead, rfl⟩
    · exact .inl rfl
    · exact .inr ⟨lead, String.append_assoc ..⟩

/-- What is added to a path is added to its last segment. -/
theorem EndsIn.segments_append {path name more : String} (h : EndsIn path name) (hmore : '/' ∉ more.toList) :
    ∃ parts, segments path = parts ++ [name] ∧ segments (path ++ more) = parts ++ [name ++ more] := by
  have hslash := (h.append hmore).1
  obtain ⟨hname, rfl | ⟨lead, rfl⟩⟩ := h
  · refine ⟨[], ?_, ?_⟩
    · rw [Path.segments_eq, List.splitOn_eq_singleton hname]
      simp
    · rw [Path.segments_eq, List.splitOn_eq_singleton hslash]
      simp
  · refine ⟨segments lead, segments_slash lead hname, ?_⟩
    rw [String.append_assoc]
    exact segments_slash lead hslash

/-! ## Working out the steps -/

/-- A name stays at the end when the steps before it are worked out. -/
theorem resolveSegments_append (keepAbove : Bool) (parts : List String) {name : String} (h : IsName name) :
    resolveSegments keepAbove (parts ++ [name]) = resolveSegments keepAbove parts ++ [name] := by
  obtain ⟨hne, hdot, hup⟩ := h
  have hpush : ∀ stack, pushSegment keepAbove stack name = name :: stack := by
    intro stack
    unfold pushSegment
    rw [if_neg (not_or.mpr ⟨hne, hdot⟩), if_neg hup]
  rw [resolveSegments, resolveSegments, List.foldl_append, List.foldl_cons, List.foldl_nil, hpush, List.reverse_cons]

/-- What is left of the steps of a path from the root are names of it. -/
theorem mem_stack {stack parts : List String} {part : String} (h : part ∈ parts.foldl (pushSegment false) stack) :
    part ∈ stack ∨ part ∈ parts ∧ IsName part := by
  induction parts generalizing stack with
  | nil => exact .inl h
  | cons segment parts ih =>
    rcases ih h with hstack | ⟨hmem, hname⟩
    · unfold pushSegment at hstack
      split at hstack
      · exact .inl hstack
      · rename_i hstep
        rw [not_or] at hstep
        split at hstack
        · cases stack with
          | nil => exact absurd hstack List.not_mem_nil
          | cons top rest =>
            refine .inl ?_
            dsimp only at hstack
            split at hstack
            · rename_i htop
              rcases List.mem_cons.mp hstack with rfl | hmem
              · rw [htop]
                exact List.mem_cons_self
              · exact hmem
            · exact List.mem_cons_of_mem _ hstack
        · rename_i hup
          rcases List.mem_cons.mp hstack with rfl | hmem
          · exact .inr ⟨List.mem_cons_self, hstep.1, hstep.2, hup⟩
          · exact .inl hmem
    · exact .inr ⟨List.mem_cons_of_mem _ hmem, hname⟩

/-- The segments of a resolved path are names among those that it was made of. -/
theorem mem_resolveSegments {parts : List String} {part : String} (h : part ∈ resolveSegments false parts) :
    part ∈ parts ∧ IsName part :=
  (mem_stack (List.mem_reverse.mp h)).resolve_left List.not_mem_nil

/-- Names are no steps, so there is nothing to work out. -/
theorem resolveSegments_of_isName (keepAbove : Bool) {parts : List String} (h : ∀ part ∈ parts, IsName part) :
    resolveSegments keepAbove parts = parts := by
  induction parts using List.reverseRecOn with
  | nil => rfl
  | append_singleton parts part ih =>
    rw [resolveSegments_append keepAbove parts (h part (by simp)), ih fun other hmem => h other (List.mem_append_left _ hmem)]

/-- No segment has a slash in it. -/
theorem slash_notMem_of_mem_segments {path part : String} (h : part ∈ segments path) : '/' ∉ part.toList := by
  rw [segments_eq, List.mem_map] at h
  obtain ⟨piece, hpiece, rfl⟩ := h
  rw [String.toList_ofList]
  exact notMem_of_mem_splitOn hpiece

/-- Segments that are joined are found again. -/
theorem segments_join {parts : List String} (hne : parts ≠ []) (h : ∀ part ∈ parts, '/' ∉ part.toList) :
    segments (Text.join "/" parts) = parts := by
  have hsplit : (['/'].intercalate (parts.map String.toList)).splitOn '/' = parts.map String.toList := by
    refine List.splitOn_intercalate '/' (fun piece hpiece => ?_) (by simpa using hne)
    obtain ⟨part, hpart, rfl⟩ := List.mem_map.mp hpiece
    exact h part hpart
  rw [segments_eq, Text.join, String.toList_intercalate]
  show ((['/'].intercalate (parts.map String.toList)).splitOn '/').map String.ofList = parts
  rw [hsplit, List.map_map]
  simp [Function.comp_def]

/-- Names that are joined behind a slash are found again, behind the root. -/
theorem segments_slash_join {names : List String} (hne : names ≠ []) (h : ∀ name ∈ names, '/' ∉ name.toList) :
    segments ("/" ++ Text.join "/" names) = "" :: names := by
  obtain ⟨name, rest, rfl⟩ := List.exists_cons_of_ne_nil hne
  have hwhole : "/" ++ Text.join "/" (name :: rest) = Text.join "/" ("" :: name :: rest) := by
    simp [Text.join, String.intercalate_cons_cons]
  rw [hwhole]
  refine segments_join (List.cons_ne_nil _ _) fun part hmem => ?_
  rcases List.mem_cons.mp hmem with rfl | hmem
  · exact List.not_mem_nil
  · exact h part hmem

/-- Names behind a slash are the steps of a path that are left when it is worked out. -/
theorem resolveSegments_segments_slash {names : List String} (h : ∀ name ∈ names, '/' ∉ name.toList ∧ IsName name) :
    resolveSegments false (segments ("/" ++ Text.join "/" names)) = names := by
  cases names with
  | nil => decide
  | cons name rest =>
    rw [segments_slash_join (List.cons_ne_nil _ _) fun part hmem => (h part hmem).1]
    exact resolveSegments_of_isName false fun part hmem => (h part hmem).2

/-- A slash before a path leaves it what it ends in. -/
theorem EndsIn.slash {path name : String} (h : EndsIn path name) : EndsIn ("/" ++ path) name := by
  obtain ⟨hslash, rfl | ⟨lead, rfl⟩⟩ := h
  · exact ⟨hslash, .inr ⟨"", by simp⟩⟩
  · exact ⟨hslash, .inr ⟨"/" ++ lead, by simp [String.append_assoc]⟩⟩

/-- A path ends in nothing when its last character is a slash. -/
theorem endsIn_iff_ends {path : String} (hne : path ≠ "") : EndsIn path "" ↔ Text.ends path "/" = true := by
  rw [Text.ends, List.isSuffixOf_iff_suffix]
  constructor
  · rintro ⟨-, rfl | ⟨lead, rfl⟩⟩
    · exact absurd rfl hne
    · exact ⟨lead.toList, by simp⟩
  · rintro ⟨lead, hlead⟩
    refine ⟨by simp, .inr ⟨String.ofList lead, ?_⟩⟩
    rw [← String.toList_inj, ← hlead]
    simp

/-- A path that ends in a name is not empty. -/
theorem EndsIn.ne_empty {path name : String} (h : EndsIn path name) (hname : name ≠ "") : path ≠ "" := by
  rintro rfl
  obtain ⟨-, rfl | ⟨lead, hlead⟩⟩ := h
  · exact hname rfl
  · have := congrArg String.toList hlead
    simp at this

theorem join_append_ne_empty (parts : List String) {name : String} (h : IsName name) (hslash : '/' ∉ name.toList) :
    Text.join "/" (parts ++ [name]) ≠ "" := (endsIn_join parts hslash).ne_empty h.1

/-- Cleaning leaves the name that a path ends in. -/
theorem EndsIn.clean {path name : String} (h : EndsIn path name) (hname : IsName name) : EndsIn (Path.clean path) name := by
  obtain ⟨parts, hparts⟩ := h.segments_eq
  have hends : Text.ends path "/" = false := by
    rw [← Bool.not_eq_true, ← endsIn_iff_ends (h.ne_empty hname.1)]
    exact fun hempty => hname.1 (h.unique hempty)
  have hbody := endsIn_join (resolveSegments (!isAbsolute path) parts) h.1
  unfold Path.clean
  rw [if_neg (h.ne_empty hname.1)]
  dsimp only
  rw [hparts, resolveSegments_append _ _ hname, if_neg (join_append_ne_empty _ hname h.1), hends]
  split
  · simpa using hbody.slash
  · simpa using hbody

/-- Cleaning leaves a trailing slash. -/
theorem EndsIn.clean_slash {path : String} (hne : path ≠ "") (h : EndsIn path "") : EndsIn (Path.clean path) "" := by
  have hends := (endsIn_iff_ends hne).mp h
  unfold Path.clean
  rw [if_neg hne, hends]
  dsimp only
  split
  · split
    · exact ⟨by simp, .inr ⟨"", rfl⟩⟩
    · exact ⟨by simp, .inr ⟨".", rfl⟩⟩
  · exact ⟨by simp, .inr ⟨_, (String.append_empty ..).symm⟩⟩

/-- The absolute path that a path stands for has the name of the path. -/
theorem EndsIn.resolve {path name : String} (h : EndsIn path name) (hname : IsName name) (habsolute : isAbsolute path = true) :
    EndsIn (Path.resolve "/" path) name := by
  obtain ⟨parts, hparts⟩ := h.segments_eq
  unfold Path.resolve
  rw [if_pos habsolute]
  dsimp only
  rw [hparts, resolveSegments_append _ _ hname]
  exact (endsIn_join _ h.1).slash

/-- A path below a root ends as it does by itself. -/
theorem EndsIn.join_pair {path name : String} (h : EndsIn path name) (root : String) : EndsIn (Text.join "/" [root, path]) name := by
  obtain ⟨hslash, rfl | ⟨lead, rfl⟩⟩ := h
  · exact endsIn_join [root] hslash
  · refine ⟨hslash, .inr ⟨root ++ "/" ++ lead, ?_⟩⟩
    simp [Text.join, String.intercalate_cons_cons, String.append_assoc]

/-- Joining cleans a path that ends in what the last joined one ends in. -/
theorem EndsIn.exists_clean {path name : String} (h : EndsIn path name) (hne : path ≠ "") (root : String) :
    ∃ whole, whole ≠ "" ∧ EndsIn whole name ∧ Path.join [root, path] = Path.clean whole := by
  by_cases hroot : root = ""
  · exact ⟨path, hne, h, by simp [Path.join, hroot, hne, Text.join]⟩
  · refine ⟨Text.join "/" [root, path], ?_, h.join_pair root, by simp [Path.join, hroot, hne]⟩
    intro hempty
    have := congrArg String.toList hempty
    simp [Text.join, hroot] at this

/-- Joining keeps the name of the last path that is joined. -/
theorem EndsIn.join {path name : String} (h : EndsIn path name) (hname : IsName name) (root : String) :
    EndsIn (Path.join [root, path]) name := by
  obtain ⟨whole, -, hwhole, hjoin⟩ := h.exists_clean (h.ne_empty hname.1) root
  rw [hjoin]
  exact hwhole.clean hname

/-- Joining keeps a trailing slash. -/
theorem EndsIn.join_slash {path : String} (h : EndsIn path "") (hne : path ≠ "") (root : String) :
    EndsIn (Path.join [root, path]) "" := by
  obtain ⟨whole, hwholeNe, hwhole, hjoin⟩ := h.exists_clean hne root
  rw [hjoin]
  exact hwhole.clean_slash hwholeNe

/-! ## Base names and extensions -/

/-- The last place of a character parts a text in two, with none of it behind. -/
theorem eq_append_of_lastIndexOf? {c : Char} {text : List Char} {n : Nat} (h : lastIndexOf? c text = some n) :
    ∃ lead rest, text = lead ++ c :: rest ∧ c ∉ rest ∧ lead.length = n := by
  obtain ⟨fromEnd, hfound, hn⟩ := Option.map_eq_some_iff.mp h
  obtain ⟨hlt, hat, hbefore⟩ := List.findIdx?_eq_some_iff_getElem.mp hfound
  refine ⟨(text.reverse.drop (fromEnd + 1)).reverse, (text.reverse.take fromEnd).reverse, ?_, ?_, ?_⟩
  · rw [← List.reverse_inj, List.reverse_append, List.reverse_cons, List.reverse_reverse, List.reverse_reverse,
      ← of_decide_eq_true hat, List.append_assoc, List.singleton_append, ← List.drop_eq_getElem_cons hlt, List.take_append_drop]
  · rw [List.mem_reverse]
    intro hmem
    obtain ⟨i, hi, heq⟩ := List.mem_take_iff_getElem.mp hmem
    exact hbefore i (Nat.lt_of_lt_of_le hi (Nat.min_le_left ..)) (decide_eq_true heq)
  · rw [List.length_reverse, List.length_drop, List.length_reverse]
    rw [List.length_reverse] at hlt
    omega

/-- A character that is not found from the end is not there. -/
theorem lastIndexOf?_eq_none {c : Char} {text : List Char} (h : lastIndexOf? c text = none) : c ∉ text := by
  intro hmem
  have hfound := List.findIdx?_eq_none_iff.mp (Option.map_eq_none_iff.mp h) c (List.mem_reverse.mpr hmem)
  simp at hfound

/-- A base name stands at the end, behind a slash or alone. -/
theorem basename_spec (path : String) : '/' ∉ (basename path).toList ∧
    ∃ lead, (dropTrailingSlashes path).toList = lead ++ (basename path).toList := by
  unfold basename
  dsimp only
  split
  · rename_i hnone
    rw [String.toList_ofList]
    exact ⟨lastIndexOf?_eq_none hnone, [], rfl⟩
  · rename_i i hsome
    obtain ⟨lead, rest, hbody, hrest, rfl⟩ := eq_append_of_lastIndexOf? hsome
    have hdrop : (dropTrailingSlashes path).toList.drop (lead.length + 1) = rest := by
      rw [hbody, List.drop_length_add_append]
      rfl
    rw [String.toList_ofList, hdrop]
    exact ⟨hrest, lead ++ ['/'], by rw [hbody, List.append_assoc]; rfl⟩

/-- What a text ends in stands behind each mark that is not in it. -/
theorem suffix_of_suffix_append_cons {c : Char} {n a b : List Char} (h : n <:+ a ++ c :: b) (hc : c ∉ n) : n <:+ b := by
  rcases List.suffix_or_suffix_of_suffix h (List.suffix_append a (c :: b)) with hshort | hlong
  · rcases List.suffix_cons_iff.mp hshort with rfl | hsuffix
    · exact absurd List.mem_cons_self hc
    · exact hsuffix
  · exact absurd (hlong.subset List.mem_cons_self) hc

/-- A path that ends in something else has no trailing slashes. -/
theorem dropTrailingSlashes_of_suffix {path : String} {n : List Char} (h : n <:+ path.toList) (hne : n ≠ []) (hn : '/' ∉ n) :
    dropTrailingSlashes path = path := by
  have hkept : (path.toList.reverse.dropWhile (· = '/')).reverse = path.toList := by
    refine List.rdropWhile_eq_self_iff.mpr fun hpath hlast => hn ?_
    rw [← of_decide_eq_true hlast, ← h.getLast hne]
    exact List.getLast_mem hne
  have hpath : path.toList ≠ [] := fun hnil => hne (List.suffix_nil.mp (hnil ▸ h))
  unfold dropTrailingSlashes
  rw [hkept, if_neg fun hempty => hpath (List.isEmpty_iff.mp hempty.1), String.ofList_toList]

/-- A base name is all that a path ends in without a slash. -/
theorem suffix_basename {path : String} {n : List Char} (h : n <:+ path.toList) (hne : n ≠ []) (hn : '/' ∉ n) :
    n <:+ (basename path).toList := by
  unfold basename
  rw [dropTrailingSlashes_of_suffix h hne hn]
  dsimp only
  split
  · rwa [String.toList_ofList]
  · rename_i i hsome
    obtain ⟨lead, rest, hbody, -, rfl⟩ := eq_append_of_lastIndexOf? hsome
    rw [hbody] at h
    rw [hbody, List.drop_length_add_append, String.toList_ofList]
    exact suffix_of_suffix_append_cons h hn

/-- A base name has its characters from the path. -/
theorem mem_of_mem_basename {path : String} {c : Char} (h : c ∈ (basename path).toList) : c ∈ path.toList := by
  obtain ⟨hslash, lead, hlead⟩ := basename_spec path
  have hmem : c ∈ (dropTrailingSlashes path).toList := hlead ▸ List.mem_append_right lead h
  unfold dropTrailingSlashes at hmem
  dsimp only at hmem
  split at hmem
  · obtain rfl : c = '/' := by simpa using hmem
    exact absurd h hslash
  · rw [String.toList_ofList, List.mem_reverse] at hmem
    exact List.mem_reverse.mp ((List.dropWhile_suffix _).subset hmem)

/-- A normalized path has no backslash. -/
theorem backslash_notMem_normalizePath (path : String) : '\\' ∉ (normalizePath path).toList := by
  have hmapped : '\\' ∉ path.toList.map fun c => if c = '\\' then '/' else c := by
    intro hmem
    obtain ⟨c, -, hc⟩ := List.mem_map.mp hmem
    split at hc
    · cases hc
    · rename_i hback
      exact hback hc
  unfold normalizePath normalChars
  rw [String.toList_ofList]
  split
  · rename_i rest hrest
    rw [hrest] at hmapped
    exact fun hmem => hmapped (List.mem_cons_of_mem _ (List.mem_cons_of_mem _ hmem))
  · exact hmapped

/-- A path without backslashes has none to turn. -/
theorem map_slashes_eq_self {path : List Char} (h : '\\' ∉ path) : (path.map fun c => if c = '\\' then '/' else c) = path :=
  (List.map_congr_left fun c hc => if_neg fun heq : c = '\\' => h (heq ▸ hc)).trans (List.map_id' path)

/-- A path that has no backslashes and does not start with `./` is in its normal form. -/
theorem normalChars_eq_self {path : List Char} (hback : '\\' ∉ path) (hdot : ¬ ['.', '/'] <+: path) : normalChars path = path := by
  unfold normalChars
  rw [map_slashes_eq_self hback]
  split
  · rename_i rest
    exact absurd ⟨rest, rfl⟩ hdot
  · rfl

/-- The end of a path that no separator is in stays where it is normalized. -/
theorem suffix_normalizePath {path : String} {n : List Char} (h : n <:+ path.toList) (hslash : '/' ∉ n) (hback : '\\' ∉ n) :
    n <:+ (normalizePath path).toList := by
  have hmapped : n <:+ path.toList.map fun c => if c = '\\' then '/' else c := map_slashes_eq_self hback ▸ h.map _
  unfold normalizePath normalChars
  rw [String.toList_ofList]
  split
  · rename_i rest hrest
    rw [hrest] at hmapped
    exact @suffix_of_suffix_append_cons '/' n ['.'] rest hmapped hslash
  · exact hmapped

/-- An extension is the last point of a base name and what follows it, with something before. -/
theorem extname_spec (path : String) : extname path = "" ∨
    ∃ stem rest, stem ≠ [] ∧ '.' ∉ rest ∧ (basename path).toList = stem ++ '.' :: rest ∧ extname path = String.ofList ('.' :: rest) := by
  unfold extname
  dsimp only
  split
  · exact .inl rfl
  · rename_i i hsome
    split
    · exact .inl rfl
    · rename_i hstem
      obtain ⟨stem, rest, hbase, hrest, rfl⟩ := eq_append_of_lastIndexOf? hsome
      refine .inr ⟨stem, rest, ?_, hrest, hbase, ?_⟩
      · rintro rfl
        exact hstem (.inl rfl)
      · rw [hbase, List.drop_left]

end Path

end QualityGate
