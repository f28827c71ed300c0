import LootSpawn.Proofs.FileTree.Paths
import LootSpawn.Proofs.Text.ByteOrder
import LootSpawn.Proofs.Text.Runs
import Mathlib.Data.List.Sort

/-!
# Listing a directory

The extension of a name is what follows its last dot, if something stands before that dot. A listing
of a directory names its regular files with a given extension, each once and in the order of the
bytes of their names, and the listed paths lead to these files.
-/

namespace LootSpawn.FileTree

open Text

/-- The name has the extension, in any ASCII case, behind its last dot and something before it. -/
def EndsIn (name extension : String) : Prop :=
  ∃ stem found, name.toList = stem ++ '.' :: found ∧ stem ≠ [] ∧ '.' ∉ found ∧
    sameAsciiCase found extension.toList

theorem ne_dot_iff {cs : List Char} : (∀ c ∈ cs, (c != '.') = true) ↔ '.' ∉ cs := by
  simp only [bne_iff_ne]
  exact ⟨fun h hmem => h _ hmem rfl, fun h c hc heq => h (heq ▸ hc)⟩

theorem extension?_eq_some_iff (name found : String) :
    extension? name = some found ↔
      ∃ stem, name.toList = stem ++ '.' :: found.toList ∧ stem ≠ [] ∧ '.' ∉ found.toList := by
  rw [extension?]
  constructor
  · intro h
    have hsplit := eq_run_append (· != '.') name.toList.reverse
    have hstops := stops_dropWhile (· != '.') name.toList.reverse
    have hrun : '.' ∉ name.toList.reverse.takeWhile (· != '.') :=
      ne_dot_iff.mp fun _ => mem_takeWhile
    generalize name.toList.reverse.takeWhile (· != '.') = run at h hsplit hrun
    generalize name.toList.reverse.dropWhile (· != '.') = rest at h hsplit hstops
    rcases rest with _ | ⟨dot, _ | ⟨c, stem⟩⟩
    · cases h
    · cases h
    · obtain rfl := Option.some.inj h
      obtain rfl : dot = '.' := by simpa using stops_cons.mp hstops
      have hname : name.toList = (c :: stem).reverse ++ '.' :: run.reverse := by
        rw [← List.reverse_reverse name.toList, hsplit, List.reverse_append, List.reverse_cons,
          List.append_assoc]
        rfl
      rw [String.toList_ofList, List.mem_reverse]
      exact ⟨_, hname, mt List.reverse_eq_nil_iff.mp (List.cons_ne_nil c stem), hrun⟩
  · rintro ⟨stem, hname, hstem, hfound⟩
    have hreversed : name.toList.reverse = found.toList.reverse ++ '.' :: stem.reverse := by
      rw [hname, List.reverse_append, List.reverse_cons, List.append_assoc]
      rfl
    have hrun : ∀ c ∈ found.toList.reverse, (c != '.') = true :=
      ne_dot_iff.mpr (mt List.mem_reverse.mp hfound)
    have hstops : Stops (· != '.') ('.' :: stem.reverse) := stops_cons.mpr (by decide)
    rw [hreversed, takeWhile_run hrun hstops, dropWhile_run hrun hstops, List.reverse_reverse,
      String.ofList_toList]
    cases hreverse : stem.reverse with
    | nil => exact absurd (List.reverse_eq_nil_iff.mp hreverse) hstem
    | cons c rest => rfl

theorem endsIn_iff (name extension : String) :
    (extension? name).any (fun found => sameAsciiCase found.toList extension.toList) = true ↔
      EndsIn name extension := by
  rw [Option.any_eq_true]
  constructor
  · rintro ⟨found, hfound, hsame⟩
    obtain ⟨stem, hname, hstem, hdot⟩ := (extension?_eq_some_iff name found).mp hfound
    exact ⟨stem, found.toList, hname, hstem, hdot, hsame⟩
  · rintro ⟨stem, found, hname, hstem, hdot, hsame⟩
    refine ⟨String.ofList found, ?_, ?_⟩
    · rw [extension?_eq_some_iff, String.toList_ofList]
      exact ⟨stem, hname, hstem, hdot⟩
    · rw [String.toList_ofList]
      exact hsame

/-- The names of the regular files that have the extension, in order. -/
def filesIn (entries : List (String × FileNode)) (extension : String) : List String :=
  ((entries.filter (hasExtension extension)).map (·.1)).mergeSort (· ≤ ·)

theorem mem_filesIn {entries : List (String × FileNode)} {extension name : String} :
    name ∈ filesIn entries extension ↔
      (∃ content, (name, .file content) ∈ entries) ∧ EndsIn name extension := by
  rw [filesIn, List.mem_mergeSort, List.mem_map]
  constructor
  · rintro ⟨⟨name, node⟩, hmem, rfl⟩
    obtain ⟨hmem, hextension⟩ := List.mem_filter.mp hmem
    obtain ⟨hfile, hextension⟩ := Bool.and_eq_true_iff.mp hextension
    cases node with
    | directory => cases hfile
    | special => cases hfile
    | file content => exact ⟨⟨content, hmem⟩, (endsIn_iff name extension).mp hextension⟩
  · rintro ⟨⟨content, hmem⟩, hends⟩
    have hextension := (endsIn_iff name extension).mpr hends
    exact ⟨_, List.mem_filter.mpr ⟨hmem, Bool.and_eq_true_iff.mpr ⟨rfl, hextension⟩⟩, rfl⟩

/-- The names are in the order of their bytes, and none is there twice. -/
theorem pairwise_filesIn {entries : List (String × FileNode)}
    (hnodup : (entries.map Prod.fst).Nodup) (extension : String) :
    (filesIn entries extension).Pairwise fun first second => bytes first < bytes second := by
  have hdistinct : (filesIn entries extension).Nodup :=
    (List.mergeSort_perm _ _).nodup_iff.mpr (hnodup.sublist (List.filter_sublist.map _))
  have hsorted : (filesIn entries extension).Pairwise (· ≤ ·) := List.pairwise_mergeSort' _ _
  refine (hsorted.and hdistinct).imp ?_
  rintro first second ⟨hle, hne⟩
  exact bytes_lt_bytes (Std.lt_of_le_of_ne hle hne)

theorem list_of_directory {tree : FileTree} {directory : String}
    {entries : List (String × FileNode)}
    (hdirectory : tree.find directory = .ok (.directory entries)) (extension : String) :
    tree.list directory extension =
      .ok ((filesIn entries extension).map (joinPath directory)) := by
  rw [list, hdirectory]
  rfl

theorem readText_of_find {tree : FileTree} {path : String} {node : FileNode}
    (h : tree.find path = .ok node) : tree.readText path = node.readText := by
  rw [readText, h]
  rfl

end LootSpawn.FileTree
