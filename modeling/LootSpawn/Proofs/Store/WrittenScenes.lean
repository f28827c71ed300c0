import LootSpawn.Proofs.Store.SpawnContents
import LootSpawn.Store.Document

/-!
# Scenes of a document

Directives are recorded and looked up under the key of their scene, so a list can be reached only
under a key in normal form. Recording makes no other keys. A document keeps its keys as they are
written, though: a list under another key is listed and counted, but under no name is it found or
extended.
-/

namespace LootSpawn

/-- What a map has under a key is the last value that was listed for it. -/
theorem getElem?_ofList_eq_getLast? {α : Type} (entries : List (String × α)) (key : String) :
    (Std.ExtTreeMap.ofList entries : Std.ExtTreeMap String α)[key]? =
      (valuesUnder key entries).getLast? := by
  induction entries using List.reverseRecOn with
  | nil => rfl
  | append_singleton entries entry ih =>
      rw [Std.ExtTreeMap.ofList_eq_insertMany_empty] at ih ⊢
      have hvalues : valuesUnder key (entries ++ [entry]) =
          valuesUnder key entries ++ valuesUnder key [entry] := by
        simp only [valuesUnder, List.filter_append, List.map_append]
      rw [Std.ExtTreeMap.insertMany_append, Std.ExtTreeMap.insertMany_list_singleton,
        Std.ExtTreeMap.getElem?_insert, ih, hvalues, valuesUnder_cons]
      simp only [Std.LawfulEqCmp.compare_eq_iff_eq]
      by_cases hkey : entry.1 = key
      · rw [if_pos hkey, if_pos hkey]
        exact List.getLast?_concat.symm
      · rw [if_neg hkey, if_neg hkey]
        exact congrArg List.getLast? (List.append_nil _).symm

/-- A field of which something is made is read first. -/
theorem Literal.field?_map {α β : Type} (fields : List (String × Literal)) (name : String)
    (read? : Literal → Option α) (f : α → β) :
    field? fields name (fun literal => (read? literal).map f) =
      (field? fields name read?).map f := by
  rw [field?, field?, optionalField?, optionalField?]
  split
  next => rfl
  next value _ => cases read? value <;> rfl
  next => rfl

namespace SpawnStore

variable {store : SpawnStore} {key : String} {stored : List Directive}

/-- The name of a key is that of the list under it: looking up the name finds the list, and whatever
is recorded under any spelling of the name comes after it. -/
structure Reaches (store : SpawnStore) (key : String) (stored : List Directive) : Prop where
  contains : store.contains key = true
  directives : store.directives key = stored
  extended : ∀ log, (store.recordAll log).scenes[key]? = some (stored ++ directivesFor key log)

/-- Every list of the store is reached by the name of its key, so that the directives of all names
that are listed make up the store. -/
structure IsReachable (store : SpawnStore) : Prop where
  reaches : ∀ key stored, store.scenes[key]? = some stored → store.Reaches key stored
  size : store.size = (store.keys.map fun key => (store.directives key).length).sum

theorem mem_keys_iff : key ∈ store.keys ↔ ∃ stored, store.scenes[key]? = some stored := by
  rw [keys, Std.ExtTreeMap.mem_keys, Std.ExtTreeMap.mem_iff_isSome_getElem?,
    Option.isSome_iff_exists]

theorem size_eq_sum (store : SpawnStore) :
    store.size = (store.keys.map fun key => (store.scenes[key]?.getD []).length).sum :=
  length_flatten_values store.scenes

/-! ## Keys in normal form -/

theorem getElem?_recordAll (store : SpawnStore) (log : List (String × Directive))
    (hkey : sceneKey key = key) :
    (store.recordAll log).scenes[key]? =
      if directivesFor key log = [] then store.scenes[key]?
      else some (store.directives key ++ directivesFor key log) := by
  have hvalues := valuesUnder_keyedSpawns key log
  rw [hkey] at hvalues
  rw [scenes_recordAll, getElem?_grouped, hvalues, directives, find?, hkey]

/-- A key that is not in normal form is the key of no name, so nothing is recorded under it. -/
theorem getElem?_recordAll_of_ne (store : SpawnStore) (log : List (String × Directive))
    (hkey : sceneKey key ≠ key) : (store.recordAll log).scenes[key]? = store.scenes[key]? := by
  rw [scenes_recordAll, getElem?_grouped, if_pos]
  by_contra hvalues
  rw [← ne_eq, valuesUnder_ne_nil_iff, keyedSpawns, List.map_map] at hvalues
  obtain ⟨spawn, -, rfl⟩ := List.mem_map.mp hvalues
  exact hkey (sceneKey_sceneKey spawn.1)

theorem reaches_of_sceneKey (hstored : store.scenes[key]? = some stored)
    (hkey : sceneKey key = key) : store.Reaches key stored := by
  have hfind : store.find? key = some stored := by
    rw [find?, hkey, hstored]
  have hdirectives : store.directives key = stored := by
    rw [directives, hfind, Option.getD_some]
  refine ⟨?_, hdirectives, fun log => ?_⟩
  · rw [contains, hfind]
    rfl
  · rw [getElem?_recordAll store log hkey, hdirectives, hstored]
    split
    next hnil => rw [hnil, List.append_nil]
    next => rfl

/-- A list is reached exactly if its key is in normal form: under any other key it stays as it is
when a directive is recorded under the name of the key. -/
theorem reaches_iff (hstored : store.scenes[key]? = some stored) :
    store.Reaches key stored ↔ sceneKey key = key := by
  refine ⟨fun hreaches => ?_, reaches_of_sceneKey hstored⟩
  by_contra hkey
  have hextended := hreaches.extended [(key, { prefab := "" })]
  have hrecorded : directivesFor key [(key, { prefab := "" })] = [{ prefab := "" }] := by
    simp [directivesFor]
  rw [getElem?_recordAll_of_ne store _ hkey, hstored, hrecorded, Option.some_inj,
    List.self_eq_append_right] at hextended
  cases hextended

theorem isReachable_iff : store.IsReachable ↔ ∀ key ∈ store.keys, sceneKey key = key := by
  constructor
  · intro hreachable key hkey
    obtain ⟨stored, hstored⟩ := mem_keys_iff.mp hkey
    exact (reaches_iff hstored).mp (hreachable.reaches key stored hstored)
  · intro hnormal
    refine ⟨fun key stored hstored => ?_, ?_⟩
    · exact reaches_of_sceneKey hstored (hnormal key (mem_keys_iff.mpr ⟨stored, hstored⟩))
    · rw [size_eq_sum]
      congr 1
      apply List.map_congr_left
      intro key hkey
      rw [directives, find?, hnormal key hkey]

/-- Recording makes no lists that are not reached. -/
theorem IsReachable.recordAll (h : store.IsReachable) (log : List (String × Directive)) :
    (store.recordAll log).IsReachable := by
  rw [isReachable_iff] at h ⊢
  intro key hkey
  by_contra hne
  obtain ⟨stored, hstored⟩ := mem_keys_iff.mp hkey
  rw [getElem?_recordAll_of_ne store log hne] at hstored
  exact hne (h key (mem_keys_iff.mpr ⟨stored, hstored⟩))

/-- A store that a log was recorded in has no lists that are not reached. -/
theorem isReachable_recordAll (log : List (String × Directive)) :
    (({} : SpawnStore).recordAll log).IsReachable :=
  (isReachable_iff.mpr (List.forall_mem_nil _)).recordAll log

/-! ## Keys as they are written -/

/-- The keys and lists in the text of a document, in the order in which they are written there. -/
def writtenScenes? (text : String) : Option (List (String × List Directive)) := do
  let literal ← Literal.ofText? text
  let fields ← literal.fields? "SpawnRegistry"
  Literal.field? fields "scenes" (Literal.asMap? (Literal.asList? Literal.asDirective?))

theorem ofText?_eq (text : String) :
    ofText? text = (writtenScenes? text).map fun written => ⟨Std.ExtTreeMap.ofList written⟩ := by
  have hscenes : ∀ fields, Literal.field? fields "scenes"
        (Literal.asStore? Literal.asDirective?) =
      (Literal.field? fields "scenes" (Literal.asMap? (Literal.asList? Literal.asDirective?))).map
        fun written => Std.ExtTreeMap.ofList written :=
    fun fields => Literal.field?_map fields "scenes" _ _
  rw [ofText?, writtenScenes?]
  cases Literal.ofText? text with
  | none => rfl
  | some literal =>
      simp only [Option.bind_some, Option.bind_eq_bind, ofLiteral?]
      cases literal.fields? "SpawnRegistry" with
      | none => rfl
      | some fields =>
          simp only [Option.bind_some, hscenes]
          cases Literal.field? fields "scenes" _ <;> rfl

/-- A store that was read from a document has the last list that is written for each key, and its
size is that of all lists it has. A list is reached exactly if its key is written in normal form;
one under another key stays as it is, whatever is recorded, and is the list of no name. So all lists
are reached exactly if all keys are written in normal form, and then recording keeps it that way. -/
theorem isReachable_iff_written {text : String} {store : SpawnStore}
    (h : ofText? text = some store) :
    ∃ written, writtenScenes? text = some written ∧
      (∀ key, store.scenes[key]? = (valuesUnder key written).getLast?) ∧
      store.size = (store.keys.map fun key => (store.scenes[key]?.getD []).length).sum ∧
      (∀ key stored, store.scenes[key]? = some stored →
        (store.Reaches key stored ↔ sceneKey key = key) ∧
        (sceneKey key ≠ key → (∀ scene, sceneKey scene ≠ key) ∧
          ∀ log, (store.recordAll log).scenes[key]? = some stored)) ∧
      (store.IsReachable ↔ ∀ key ∈ written.map Prod.fst, sceneKey key = key) ∧
      (store.IsReachable → ∀ log, (store.recordAll log).IsReachable) := by
  rw [ofText?_eq, Option.map_eq_some_iff] at h
  obtain ⟨written, hwritten, rfl⟩ := h
  refine ⟨written, hwritten, getElem?_ofList_eq_getLast? written, size_eq_sum _, ?_, ?_,
    IsReachable.recordAll⟩
  · intro key stored hstored
    refine ⟨reaches_iff hstored, fun hkey => ⟨?_, fun log => ?_⟩⟩
    · rintro scene rfl
      exact hkey (sceneKey_sceneKey scene)
    · rw [getElem?_recordAll_of_ne _ log hkey, hstored]
  · have hkeys : ∀ key,
        key ∈ keys ⟨Std.ExtTreeMap.ofList written⟩ ↔ key ∈ written.map Prod.fst := by
      intro key
      rw [keys, Std.ExtTreeMap.mem_keys, Std.ExtTreeMap.mem_ofList, List.contains_iff_mem]
    simp only [isReachable_iff, hkeys]

end SpawnStore

/-- A document with a rope under a key. -/
def ropeDocument (key : String) : String :=
  "(scenes:\x7b\"" ++ key ++ "\":[(prefab_name:\"rope\",position:(x:0,y:0,z:0)," ++
    "rotation_euler:(x:0,y:0,z:0),spawn_chance:100,tag:\"none\")]\x7d)"

theorem SpawnStore.isReachable_iff_written_camp :
    let store := (ofText? (ropeDocument "camp")).getD {}
    let later := store.recordAll [("CAMP", { prefab := "lamp" })]
    later.IsReachable ∧ (later.directives "Camp").map Directive.prefab = ["rope", "lamp"] := by
  have hread : (ofText? (ropeDocument "camp")).isSome = true := by decide +kernel
  have hkeys : (writtenScenes? (ropeDocument "camp")).map (fun written => written.map Prod.fst) =
      some ["camp"] := by
    decide +kernel
  have hnormal : sceneKey "camp" = "camp" := by decide +kernel
  obtain ⟨store, hstore⟩ := Option.isSome_iff_exists.mp hread
  obtain ⟨written, hwritten, -, -, -, hreachable, hlater⟩ := isReachable_iff_written hstore
  rw [hwritten, Option.map_some, Option.some_inj] at hkeys
  rw [hkeys, List.forall_mem_singleton] at hreachable
  refine ⟨?_, by decide +kernel⟩
  rw [hstore]
  exact hlater (hreachable.mpr hnormal) _

/-- A list under a key with a capital is listed and counted, and not found under it. -/
theorem SpawnStore.written_capital_not_reached :
    let store := (ofText? (ropeDocument "Camp")).getD {}
    store.keys = ["Camp"] ∧ store.size = 1 ∧ store.contains "Camp" = false ∧
      store.directives "Camp" = [] ∧
      ((store.record "Camp" { prefab := "lamp" }).scenes["Camp"]?.getD []).map Directive.prefab =
        ["rope"] ∧
      (store.record "Camp" { prefab := "lamp" }).keys = ["Camp", "camp"] := by
  decide +kernel

end LootSpawn
