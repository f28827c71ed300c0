import LootSpawn.FileTree
import Mathlib.Data.List.Nodup

/-!
# Paths into a file tree

In a proper tree every directory has its entries under different names, and each name can stand in
a path. A path that leads to a directory is followed by the name of an entry to the entry, however
the directory was written: from the root or from the working directory, with empty components, with
dots, or with a slash at the end.
-/

namespace LootSpawn

namespace FileNode

/-- The name can be a component of a path that stands for an entry. -/
structure IsName (name : String) : Prop where
  notEmpty : name ≠ ""
  notSelf : name ≠ "."
  notParent : name ≠ ".."
  noSlash : '/' ∉ name.toList

instance (name : String) : Decidable (IsName name) :=
  decidable_of_iff (name ≠ "" ∧ name ≠ "." ∧ name ≠ ".." ∧ '/' ∉ name.toList)
    ⟨fun ⟨notEmpty, notSelf, notParent, noSlash⟩ => ⟨notEmpty, notSelf, notParent, noSlash⟩,
      fun ⟨notEmpty, notSelf, notParent, noSlash⟩ => ⟨notEmpty, notSelf, notParent, noSlash⟩⟩

/-- Every directory has its entries under different names. -/
inductive Proper : FileNode → Prop where
  | file (content : FileContent) : Proper (.file content)
  | special (content : FileContent) : Proper (.special content)
  | directory {entries : List (String × FileNode)} (names : ∀ entry ∈ entries, IsName entry.1)
      (nodup : (entries.map Prod.fst).Nodup) (below : ∀ entry ∈ entries, Proper entry.2) :
      Proper (.directory entries)

/-! ## Entries -/

theorem mem_children_of_child? {node next : FileNode} {name : String}
    (h : node.child? name = some next) : (name, next) ∈ node.children := by
  obtain ⟨⟨found, below⟩, hfound, rfl⟩ := Option.map_eq_some_iff.mp h
  have hname := List.find?_some hfound
  obtain rfl : found = name := beq_iff_eq.mp hname
  exact List.mem_of_find?_eq_some hfound

/-- Of entries under different names each one is found. -/
theorem child?_of_mem {entries : List (String × FileNode)} (hnodup : (entries.map Prod.fst).Nodup)
    {name : String} {node : FileNode} (hmem : (name, node) ∈ entries) :
    (directory entries).child? name = some node := by
  cases hchild : (directory entries).child? name with
  | none =>
      rw [child?, Option.map_eq_none_iff, List.find?_eq_none] at hchild
      exact absurd (beq_self_eq_true name) (hchild _ hmem)
  | some found =>
      have hentry := List.inj_on_of_nodup_map hnodup (mem_children_of_child? hchild) hmem rfl
      exact congrArg some (Prod.ext_iff.mp hentry).2

namespace Proper

theorem children {node : FileNode} (h : node.Proper) :
    (∀ entry ∈ node.children, IsName entry.1) ∧ (node.children.map Prod.fst).Nodup ∧
      ∀ entry ∈ node.children, entry.2.Proper := by
  cases h with
  | file => exact ⟨nofun, List.nodup_nil, nofun⟩
  | special => exact ⟨nofun, List.nodup_nil, nofun⟩
  | directory names nodup below => exact ⟨names, nodup, below⟩

theorem child? {node next : FileNode} {name : String} (h : node.Proper)
    (hchild : node.child? name = some next) : next.Proper :=
  h.children.2.2 _ (mem_children_of_child? hchild)

theorem empty : (FileNode.directory []).Proper := directory nofun List.nodup_nil nofun

theorem singleton {name : String} {node : FileNode} (hname : IsName name) (h : node.Proper) :
    (FileNode.directory [(name, node)]).Proper :=
  directory (List.forall_mem_singleton.mpr hname) (List.nodup_singleton name)
    (List.forall_mem_singleton.mpr h)

theorem filter {node : FileNode} (h : node.Proper) (keep : String × FileNode → Bool) :
    (FileNode.directory (node.children.filter keep)).Proper := by
  obtain ⟨hnames, hnodup, hbelow⟩ := h.children
  exact directory (fun entry hentry => hnames entry (List.mem_of_mem_filter hentry))
    (hnodup.sublist (List.filter_sublist.map _))
    (fun entry hentry => hbelow entry (List.mem_of_mem_filter hentry))

/-- Entries can be put together if no name is in both parts. -/
theorem append {first second : List (String × FileNode)}
    (hfirst : (FileNode.directory first).Proper) (hsecond : (FileNode.directory second).Proper)
    (hdisjoint : ∀ entry ∈ first, ∀ other ∈ second, entry.1 ≠ other.1) :
    (FileNode.directory (first ++ second)).Proper := by
  obtain ⟨hnames, hnodup, hbelow⟩ := hfirst.children
  obtain ⟨hnames', hnodup', hbelow'⟩ := hsecond.children
  refine directory (List.forall_mem_append.mpr ⟨hnames, hnames'⟩) ?_
    (List.forall_mem_append.mpr ⟨hbelow, hbelow'⟩)
  rw [List.map_append]
  refine hnodup.append hnodup' ?_
  intro name hname hname'
  obtain ⟨entry, hentry, rfl⟩ := List.mem_map.mp hname
  obtain ⟨other, hother, hsame⟩ := List.mem_map.mp hname'
  exact hdisjoint entry hentry other hother hsame.symm

theorem replaceBy {node content : FileNode} (hnode : node.Proper) (hcontent : content.Proper) :
    (node.replaceBy content).Proper := by
  cases node with
  | file => exact hcontent
  | special => exact hcontent
  | directory old =>
      cases content with
      | file => exact hcontent
      | special => exact hcontent
      | directory new =>
          refine hnode.append (hcontent.filter _) ?_
          -- Only those new entries are taken whose names the old ones leave free.
          intro entry hentry other hother
          exact bne_iff_ne.mp (List.all_eq_true.mp (List.mem_filter.mp hother).2 entry hentry)

/-- What is put at a path leaves the tree proper. -/
theorem insert {content : FileNode} (hcontent : content.Proper) {names : List String}
    (hnames : ∀ name ∈ names, IsName name) {node : FileNode} (hnode : node.Proper) :
    (FileNode.insert content names node).Proper := by
  induction names generalizing node with
  | nil => exact hnode.replaceBy hcontent
  | cons name rest ih =>
      obtain ⟨hname, hrest⟩ := List.forall_mem_cons.mp hnames
      have hnext : ((node.child? name).getD (.directory [])).Proper := by
        cases hchild : node.child? name with
        | none => exact empty
        | some next => exact hnode.child? hchild
      refine (hnode.filter _).append (singleton hname (ih hrest hnext)) ?_
      intro entry hentry other hother
      rw [List.mem_singleton.mp hother]
      exact bne_iff_ne.mp (List.mem_filter.mp hentry).2

end Proper

/-! ## Components -/

/-- Follows one component; yields where it leads and the directories around that. -/
def enter (above : List FileNode) (node : FileNode) (name : String) :
    Except FileError (List FileNode × FileNode) :=
  if !node.isDirectory then .error .notDirectory
  else if name == "" || name == "." then .ok (above, node)
  else if name == ".." then
    match above with
    | [] => .ok ([], node)
    | parent :: above => .ok (above, parent)
  else match node.child? name with
    | some next => .ok (node :: above, next)
    | none => .error .notFound

theorem follow_cons (above : List FileNode) (node : FileNode) (name : String)
    (rest : List String) :
    follow above node (name :: rest) =
      (enter above node name).bind fun reached => follow reached.1 reached.2 rest := by
  rw [follow.eq_def]
  unfold enter
  dsimp only
  split
  · rfl
  split
  · rfl
  split
  · cases above with
    | nil => rfl
    | cons parent above => rfl
  · cases node.child? name with
    | none => rfl
    | some next => rfl

theorem enter_name {name : String} (hname : IsName name) (above : List FileNode)
    {entries : List (String × FileNode)} {next : FileNode}
    (hchild : (directory entries).child? name = some next) :
    enter above (directory entries) name = .ok (directory entries :: above, next) := by
  simp [enter, isDirectory, hname.notEmpty, hname.notSelf, hname.notParent, hchild]

/-- The last component is followed from where the others lead, unless it goes back up. -/
theorem follow_concat {name : String} (hname : name ≠ "..") (above : List FileNode)
    (node : FileNode) (components : List String) :
    follow above node (components ++ [name]) =
      (follow above node components).bind fun last => follow [] last [name] := by
  induction components generalizing above node with
  | nil =>
      have hlast : follow above node [name] = follow [] node [name] := by
        rw [follow_cons, follow_cons]
        unfold enter
        simp only [beq_iff_eq, hname]
        split
        · rfl
        split
        · rfl
        · cases node.child? name with
          | none => rfl
          | some next => rfl
      exact hlast
  | cons component rest ih =>
      rw [List.cons_append, follow_cons, follow_cons]
      cases enter above node component with
      | error error => rfl
      | ok reached => exact ih reached.1 reached.2

/-- An empty component at the end, as a slash leaves it, stays in the directory before it. -/
theorem follow_of_concat_empty {above : List FileNode} {node : FileNode}
    {components : List String} {entries : List (String × FileNode)}
    (h : follow above node (components ++ [""]) = .ok (directory entries)) :
    follow above node components = .ok (directory entries) := by
  rw [follow_concat (by decide)] at h
  cases hbefore : follow above node components with
  | error error =>
      rw [hbefore] at h
      cases h
  | ok last =>
      rw [hbefore] at h
      cases last with
      | file => cases h
      | special => cases h
      | directory others => exact h

namespace Proper

theorem enter {above : List FileNode} {node : FileNode} {name : String}
    {reached : List FileNode × FileNode} (habove : ∀ parent ∈ above, parent.Proper)
    (hnode : node.Proper) (h : FileNode.enter above node name = .ok reached) :
    (∀ parent ∈ reached.1, parent.Proper) ∧ reached.2.Proper := by
  unfold FileNode.enter at h
  split at h
  · cases h
  split at h
  · cases h
    exact ⟨habove, hnode⟩
  split at h
  · cases above with
    | nil =>
        cases h
        exact ⟨habove, hnode⟩
    | cons parent above =>
        cases h
        exact (List.forall_mem_cons.mp habove).symm
  · cases hchild : node.child? name with
    | none =>
        rw [hchild] at h
        cases h
    | some next =>
        rw [hchild] at h
        cases h
        exact ⟨List.forall_mem_cons.mpr ⟨hnode, habove⟩, hnode.child? hchild⟩

theorem follow {above : List FileNode} {node found : FileNode} {components : List String}
    (habove : ∀ parent ∈ above, parent.Proper) (hnode : node.Proper)
    (h : FileNode.follow above node components = .ok found) : found.Proper := by
  induction components generalizing above node with
  | nil =>
      obtain rfl := Except.ok.inj h
      exact hnode
  | cons component rest ih =>
      rw [follow_cons] at h
      cases hreached : FileNode.enter above node component with
      | error error =>
          rw [hreached] at h
          cases h
      | ok reached =>
          rw [hreached] at h
          obtain ⟨habove, hnode⟩ := enter habove hnode hreached
          exact ih habove hnode h

end Proper

end FileNode

theorem splitPath_ne_nil (cs : List Char) : splitPath cs ≠ [] := by
  cases cs with
  | nil => exact List.cons_ne_nil _ _
  | cons c cs =>
      rw [splitPath]
      split
      · exact List.cons_ne_nil _ _
      · split
        · exact List.cons_ne_nil _ _
        · exact List.cons_ne_nil _ _

theorem splitPath_append (xs ys : List Char) :
    splitPath (xs ++ '/' :: ys) = splitPath xs ++ splitPath ys := by
  induction xs with
  | nil => rfl
  | cons c xs ih =>
      rw [List.cons_append, splitPath, splitPath, ih]
      split
      · rfl
      · cases hsplit : splitPath xs with
        | nil => exact absurd hsplit (splitPath_ne_nil xs)
        | cons first rest => rfl

theorem splitPath_of_notMem {cs : List Char} (h : '/' ∉ cs) : splitPath cs = [cs] := by
  induction cs with
  | nil => rfl
  | cons c cs ih =>
      rw [List.mem_cons, not_or] at h
      rw [splitPath, ih h.2, if_neg (by simpa using Ne.symm h.1)]

namespace FileTree

/-- A path that leads somewhere is not empty. -/
theorem find_eq_ok {tree : FileTree} {path : String} {node : FileNode}
    (h : tree.find path = .ok node) :
    path ≠ "" ∧
      FileNode.follow [] tree.root (tree.origin path ++ pathComponents path) = .ok node := by
  rw [find] at h
  split at h
  next => cases h
  next hempty => exact ⟨fun hpath => hempty (String.isEmpty_iff.mpr hpath), h⟩

theorem find_of_ne_empty {tree : FileTree} {path : String} (h : path ≠ "") :
    tree.find path =
      FileNode.follow [] tree.root (tree.origin path ++ pathComponents path) := by
  rw [find, if_neg (mt String.isEmpty_iff.mp h)]

theorem proper_of_find {tree : FileTree} (htree : tree.root.Proper) {path : String}
    {node : FileNode} (h : tree.find path = .ok node) : node.Proper :=
  FileNode.Proper.follow (List.forall_mem_nil _) htree (find_eq_ok h).2

/-- The path of an entry is the directory and the name, with one slash between. -/
theorem toList_joinPath (directory name : String) :
    ∃ front, (joinPath directory name).toList = front ++ '/' :: name.toList ∧
      (directory.toList = front ∨ directory.toList = front ++ ['/']) := by
  rw [joinPath]
  split
  next hslash =>
    obtain ⟨front, hfront⟩ := List.getLast?_eq_some_iff.mp hslash
    refine ⟨front, ?_, Or.inr hfront⟩
    rw [String.toList_append, hfront, List.append_assoc]
    rfl
  next =>
    refine ⟨directory.toList, ?_, Or.inl rfl⟩
    rw [String.toList_append, String.toList_append, List.append_assoc]
    rfl

/-- An entry is looked for from where its directory is looked for. -/
theorem joinPath_from (tree : FileTree) {directory : String} (h : directory ≠ "") (name : String) :
    joinPath directory name ≠ "" ∧
      tree.origin (joinPath directory name) = tree.origin directory := by
  obtain ⟨c, cs, hdirectory⟩ : ∃ c cs, directory.toList = c :: cs := by
    cases hchars : directory.toList with
    | nil => exact absurd (String.toList_eq_nil_iff.mp hchars) h
    | cons c cs => exact ⟨c, cs, rfl⟩
  have hjoined : ∃ ds, (joinPath directory name).toList = c :: ds := by
    rw [joinPath]
    split
    · rw [String.toList_append, hdirectory]
      exact ⟨_, rfl⟩
    · rw [String.toList_append, String.toList_append, hdirectory]
      exact ⟨_, rfl⟩
  obtain ⟨ds, hjoined⟩ := hjoined
  refine ⟨fun hempty => ?_, ?_⟩
  · rw [hempty] at hjoined
    cases hjoined
  · rw [origin, origin, hjoined, hdirectory, List.head?_cons, List.head?_cons]

/-- The path of an entry leads to the entry. -/
theorem find_joinPath {tree : FileTree} (htree : tree.root.Proper) {directory name : String}
    {entries : List (String × FileNode)} {node : FileNode}
    (hdirectory : tree.find directory = .ok (.directory entries)) (hmem : (name, node) ∈ entries) :
    tree.find (joinPath directory name) = .ok node := by
  obtain ⟨hnames, hnodup, -⟩ := (proper_of_find htree hdirectory).children
  have hname : FileNode.IsName name := hnames _ hmem
  have hchild : (FileNode.directory entries).child? name = some node :=
    FileNode.child?_of_mem hnodup hmem
  obtain ⟨hnonempty, hfollow⟩ := find_eq_ok hdirectory
  obtain ⟨hjoined, horigin⟩ := tree.joinPath_from hnonempty name
  obtain ⟨front, hpath, hfront⟩ := toList_joinPath directory name
  have hparent : FileNode.follow [] tree.root
      (tree.origin directory ++ (splitPath front).map String.ofList) =
        .ok (.directory entries) := by
    rcases hfront with hfront | hfront
    · rw [pathComponents, hfront] at hfollow
      exact hfollow
    · rw [pathComponents, hfront, splitPath_append, List.map_append, ← List.append_assoc] at hfollow
      exact FileNode.follow_of_concat_empty hfollow
  rw [find_of_ne_empty hjoined, horigin, pathComponents, hpath, splitPath_append,
    splitPath_of_notMem hname.noSlash, List.map_append, List.map_singleton, String.ofList_toList,
    ← List.append_assoc, FileNode.follow_concat hname.notParent, hparent]
  refine (FileNode.follow_cons _ _ _ _).trans ?_
  rw [FileNode.enter_name hname [] hchild]
  rfl

end FileTree

end LootSpawn
