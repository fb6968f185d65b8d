import Mathlib.Data.List.Basic
import Mathlib.Data.List.Flatten
import Mathlib.Data.List.NodupEquivFin
import QualityGate.Proofs.Orders
import QualityGate.Source.DeadCode

/-!
# Dead code in a growing project

Whether a definition is dead depends on the other files of a project only by how often its name stands in them. More files can only
mention it more often, so with them fewer definitions of a file are dead, and its unreachable statements are the same
(`larger_reports_less`).
-/

namespace QualityGate

/-- Fewer counts add up to no more. -/
theorem total_le_of_sublist {counts more : List Nat} (h : counts.Sublist more) : total counts ≤ total more := by
  induction h with
  | slnil => exact Nat.le_refl _
  | cons n _ ih => exact Nat.le_trans ih (Nat.le_add_left _ n)
  | cons_cons n _ ih => exact Nat.add_le_add_left ih n

namespace DeadCode

variable {t : Toolchain} {project larger : List (List Line)} {lines : List Line}

/-- A larger project mentions a name at least as often. -/
theorem references_mono (h : project.Sublist larger) (name : List Char) : references name project ≤ references name larger :=
  total_le_of_sublist (h.map _)

/-- What a larger project reports of a definition, which is nothing when its name is used, a smaller one reports too. -/
theorem sublist_unlessUsed (h : project.Sublist larger) (name : List Char) (live : Prop) [Decidable live] (found : Finding) :
    (if live ∨ 1 < references name larger then none else some found).toList.Sublist
      (if live ∨ 1 < references name project then none else some found).toList := by
  have hle := references_mono h name
  by_cases hlarger : live ∨ 1 < references name larger
  · rw [if_pos hlarger]
    exact List.nil_sublist _
  · rw [if_neg hlarger, if_neg fun hused => hlarger (hused.imp id (Nat.lt_of_lt_of_le · hle))]

/-- In a larger project a file has no other dead functions. -/
theorem sublist_deadFunctions (h : project.Sublist larger) :
    (deadFunctions t larger lines).Sublist (deadFunctions t project lines) := by
  unfold deadFunctions
  rw [List.filterMap_eq_flatMap_toList, List.filterMap_eq_flatMap_toList]
  refine List.Sublist.flatMap_right _ fun f _ => ?_
  dsimp only
  cases lines[f.line - 1]? with
  | none => exact List.Sublist.refl _
  | some line => exact sublist_unlessUsed h _ _ _

/-- In a larger project a class is not dead unless it was. -/
theorem sublist_deadClass? (h : project.Sublist larger) (index : Nat) (line : Line) :
    (deadClass? t larger lines index line).toList.Sublist (deadClass? t project lines index line).toList := by
  unfold deadClass?
  cases definedName? (classPattern t) line.code with
  | none => exact List.Sublist.refl _
  | some name => exact sublist_unlessUsed h _ _ _

/-- In a larger project a module is not dead unless it was. -/
theorem sublist_deadModule? (h : project.Sublist larger) (index : Nat) (line : Line) :
    (deadModule? t larger lines index line).toList.Sublist (deadModule? t project lines index line).toList := by
  unfold deadModule?
  split
  · exact List.Sublist.refl _
  · cases definedName? inlineModule line.code with
    | none => exact List.Sublist.refl _
    | some name =>
      dsimp only [Option.bind_eq_bind, Option.bind_some]
      simp only [← or_assoc]
      exact sublist_unlessUsed h _ _ _

theorem sublist_deadTypes (h : project.Sublist larger) : (deadTypes t larger lines).Sublist (deadTypes t project lines) :=
  List.Sublist.flatMap_right _ fun (line, index) _ => (sublist_deadClass? h index line).append (sublist_deadModule? h index line)

/-- In a larger project a file has fewer dead items, and those in the order that they have in the smaller one. -/
theorem sublist_items (h : project.Sublist larger) (path : String) :
    (ofFile t larger path lines).items.Sublist (ofFile t project path lines).items := by
  have hfunctions : (deadFunctions t larger lines).Sublist (deadFunctions t project lines) := sublist_deadFunctions h
  have htypes : (deadTypes t larger lines).Sublist (deadTypes t project lines) := sublist_deadTypes h
  exact sublist_sortBy (((hfunctions.append htypes).append (List.Sublist.refl (deadRuns t lines))).map _)

/-- A definition is no statement. -/
theorem itemType_ne_unreachable {found : Finding} (h : found ∈ deadFunctions t project lines ++ deadTypes t project lines) :
    found.item.itemType ≠ .unreachable := by
  rcases List.mem_append.mp h with hfunction | htype
  · obtain ⟨f, -, hf⟩ := List.mem_filterMap.mp hfunction
    dsimp only at hf
    split at hf
    · cases hf
    · split at hf
      · cases hf
      · cases hf
        nofun
  · obtain ⟨⟨line, index⟩, -, hdead⟩ := List.mem_flatMap.mp htype
    rcases List.mem_append.mp hdead with hclass | hmodule
    · obtain ⟨name, -, hname⟩ := Option.bind_eq_some_iff.mp (Option.mem_toList.mp hclass)
      split at hname
      · cases hname
      · cases hname
        nofun
    · have hsome := Option.mem_toList.mp hmodule
      unfold deadModule? at hsome
      split at hsome
      · cases hsome
      · obtain ⟨name, -, hname⟩ := Option.bind_eq_some_iff.mp hsome
        split at hname
        · cases hname
        · cases hname
          nofun

/-- The unreachable statements of a file are told whatever the project. -/
theorem filter_unreachable_items (path : String) :
    (ofFile t project path lines).items.filter (fun item => item.itemType = .unreachable) =
      sortBy (fun a b => compare a.line b.line) ((deadRuns t lines).map (·.item)) := by
  have hdefinitions : ((deadFunctions t project lines ++ deadTypes t project lines).map (·.item)).filter
      (fun item => item.itemType = .unreachable) = [] := by
    rw [List.filter_eq_nil_iff]
    intro item hitem
    obtain ⟨found, hfound, rfl⟩ := List.mem_map.mp hitem
    simpa using itemType_ne_unreachable hfound
  have hruns : ((deadRuns t lines).map (·.item)).filter (fun item => item.itemType = .unreachable) =
      (deadRuns t lines).map (·.item) := by
    rw [List.filter_eq_self]
    intro item hitem
    obtain ⟨_, hfound, rfl⟩ := List.mem_map.mp hitem
    obtain ⟨run, -, rfl⟩ := List.mem_map.mp hfound
    rfl
  unfold ofFile
  dsimp only
  rw [filter_sortBy, List.map_append, List.filter_append, hdefinitions, hruns, List.nil_append]

end DeadCode

open DeadCode

/-- The report on a file is at its place, and is made with all files in view. -/
theorem getElem?_analyzeDeadCode (t : Toolchain) (documents : List Document) (i : Nat) :
    (analyzeDeadCode t documents)[i]? =
      documents[i]?.map fun d => ofFile t (documents.map fun d => scan t d.content) d.path (scan t d.content) := by
  unfold analyzeDeadCode
  simp only [List.getElem?_map, List.map_map]
  rfl

/-- Dead code shrinks as a project grows. With further documents at any places between those of a project, the dead items of each
file of it are among those that it has in the project, and its unreachable statements are the same. -/
theorem larger_reports_less (t : Toolchain) {documents larger : List Document} (place : Fin documents.length ↪o Fin larger.length)
    (hplace : ∀ i, larger[place i] = documents[i]) (i : Fin documents.length) :
    ∃ file file', (analyzeDeadCode t documents)[(i : Nat)]? = some file ∧ (analyzeDeadCode t larger)[(place i : Nat)]? = some file' ∧
      file.path = documents[i].path ∧ file'.path = documents[i].path ∧ file'.items.Sublist file.items ∧
      file'.items.filter (fun item => item.itemType = .unreachable) =
        file.items.filter (fun item => item.itemType = .unreachable) := by
  have hsublist : documents.Sublist larger :=
    List.sublist_iff_exists_fin_orderEmbedding_get_eq.mpr ⟨place, fun j => (hplace j).symm⟩
  have hscanned : (documents.map fun d => scan t d.content).Sublist (larger.map fun d => scan t d.content) := hsublist.map _
  have hfile := getElem?_analyzeDeadCode t documents i
  have hfile' := getElem?_analyzeDeadCode t larger (place i)
  rw [List.getElem?_eq_getElem i.isLt] at hfile
  rw [List.getElem?_eq_getElem (place i).isLt, show larger[(place i : Nat)] = documents[i] from hplace i] at hfile'
  refine ⟨_, _, hfile, hfile', rfl, rfl, sublist_items hscanned _, ?_⟩
  exact (filter_unreachable_items _).trans (filter_unreachable_items _).symm

/-- With its caller in front of it a file has one dead function less; the statement behind the exit is dead as before. -/
theorem calledHelper_reportsLess :
    let lib : Document := ⟨"src/lib.rs", "fn helper() \x7b\x7d\nfn idle() \x7b\n    return;\n    0\n\x7d".toList⟩
    let main : Document := ⟨"src/main.rs", "fn main() \x7b helper(); \x7d".toList⟩
    (∀ i : Fin 1, [main, lib][Fin.succOrderEmb 1 i] = [lib][i]) ∧
      ∃ file file', (analyzeDeadCode .rust [lib])[0]? = some file ∧ (analyzeDeadCode .rust [main, lib])[1]? = some file' ∧
        file.path = "src/lib.rs" ∧ file'.path = "src/lib.rs" ∧ file'.items.Sublist file.items ∧
        file'.items.filter (fun item => item.itemType = .unreachable) =
          file.items.filter (fun item => item.itemType = .unreachable) ∧
        file.deadFunctions = 2 ∧ file'.deadFunctions = 1 ∧ file.unreachableBlocks = 1 ∧ file'.unreachableBlocks = 1 := by
  intro lib main
  have hplace : ∀ i : Fin 1, [main, lib][Fin.succOrderEmb 1 i] = [lib][i] := fun i => by
    rw [Subsingleton.elim i 0]
    rfl
  obtain ⟨file, file', hfile, hfile', hpath, hpath', hsublist, hsame⟩ :=
    @larger_reports_less .rust [lib] [main, lib] (Fin.succOrderEmb 1) hplace 0
  change (analyzeDeadCode .rust [lib])[0]? = some file at hfile
  change (analyzeDeadCode .rust [main, lib])[1]? = some file' at hfile'
  have hcounts : (analyzeDeadCode .rust [lib])[0]?.map (fun f => (f.deadFunctions, f.unreachableBlocks)) = some (2, 1) := by
    decide +kernel
  have hcounts' : (analyzeDeadCode .rust [main, lib])[1]?.map (fun f => (f.deadFunctions, f.unreachableBlocks)) = some (1, 1) := by
    decide +kernel
  rw [hfile] at hcounts
  rw [hfile'] at hcounts'
  obtain ⟨hfunctions, hblocks⟩ := Prod.mk.inj (Option.some.inj hcounts)
  obtain ⟨hfunctions', hblocks'⟩ := Prod.mk.inj (Option.some.inj hcounts')
  exact ⟨hplace, file, file', hfile, hfile', hpath, hpath', hsublist, hsame, hfunctions, hfunctions', hblocks, hblocks'⟩

end QualityGate
