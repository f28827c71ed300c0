import LootSpawn.Proofs.Store.LootContents
import LootSpawn.Proofs.Store.NewEntries
import LootSpawn.Proofs.Text.AsciiSpelling
import LootSpawn.Session.Basic
import Mathlib.Data.Bool.AllAny
import Mathlib.Tactic.TFAE

/-!
# The host's names of loot tables

Authors leave out the beginning of a table's name, which the host writes in front. The key of the
author's name is put in lower case without that beginning and the key of the host's name with it.
The two meet unless the author's name starts with a capital sigma that no cased letter follows: it
is written as inside a word when it stands alone and as at the end of one when letters precede it.
-/

namespace LootSpawn

open Text

namespace Text

/-- But for characters that case rules look through, the text starts with a capital sigma that no
cased letter follows. -/
def StartsWithLoneSigma (text : List Char) : Prop :=
  ∃ rest, text.dropWhile isCaseIgnorable = 'Σ' :: rest ∧ startsCased rest = false

theorem not_isCaseIgnorable_sigma : ¬ isCaseIgnorable 'Σ' = true := by
  decide +kernel

theorem formAt_of_ne_sigma {c : Char} (h : c ≠ 'Σ') (before after : List Char) :
    formAt before c after = lowerChar c := if_neg (by simpa using h)

/-- A cased letter before a text changes its lower case only if the text starts with a sigma that
has no cased letter on its other side. -/
theorem lowerAfter_eq_iff {cased caseless : List Char} (hcased : startsCased cased = true)
    (hcaseless : startsCased caseless = false) (text : List Char) :
    lowerAfter cased text = lowerAfter caseless text ↔ ¬ StartsWithLoneSigma text := by
  induction text generalizing cased caseless with
  | nil => simp [lowerAfter, StartsWithLoneSigma]
  | cons c text ih =>
      rw [lowerAfter_cons, lowerAfter_cons, StartsWithLoneSigma]
      by_cases hignorable : isCaseIgnorable c = true
      · have hsigma : c ≠ 'Σ' := by
          rintro rfl
          exact not_isCaseIgnorable_sigma hignorable
        rw [List.dropWhile_cons_of_pos hignorable, formAt_of_ne_sigma hsigma,
          formAt_of_ne_sigma hsigma, List.append_cancel_left_eq]
        apply ih
        · rwa [startsCased_cons, if_pos hignorable]
        · rwa [startsCased_cons, if_pos hignorable]
      · -- The rest of the text sees this character and nothing before it.
        have hrest : lowerAfter (c :: cased) text = lowerAfter (c :: caseless) text := by
          apply lowerAfter_congr
          rw [startsCased_cons, startsCased_cons, if_neg hignorable, if_neg hignorable]
        rw [List.dropWhile_cons_of_neg hignorable, hrest, List.append_cancel_right_eq]
        by_cases hsigma : c = 'Σ'
        · subst hsigma
          cases hafter : startsCased text with
          | _ => simp [formAt, lowerSigma, hcased, hcaseless, hafter]
        · simp [formAt_of_ne_sigma hsigma, hsigma]

/-- A text whose lower case starts with a letter of its own starts with no sigma. -/
theorem not_startsWithLoneSigma {text rest : List Char} {d : Char} (h : lower text = d :: rest)
    (hplain : IsPlain d) (hdotted : d ≠ 'i') (hignorable : isCaseIgnorable d = false) :
    ¬ StartsWithLoneSigma text := by
  obtain ⟨c, more, rfl, rfl⟩ := exists_of_lower_eq_cons h hplain hdotted
  rw [(caseless_toLower c).2] at hignorable
  rintro ⟨after, hsigma, -⟩
  rw [List.dropWhile_cons_of_neg (by simp [hignorable])] at hsigma
  obtain rfl : c = 'Σ' := (List.cons_eq_cons.mp hsigma).1
  exact absurd hplain (by decide)

end Text

/-- What the host calls the table that authors mean by a name. A name that starts with `loot` is
complete, one that starts with `cargo` lacks `Loot`, and any other lacks `LootTable`. -/
def hostTableName (name : String) : String :=
  let key := lower name.toList
  if "loot".toList.isPrefixOf key then name
  else if "cargo".toList.isPrefixOf key then "Loot" ++ name
  else "LootTable" ++ name

theorem hostTableName_cases (name : String) :
    ("loot".toList <+: lower name.toList ∧ hostTableName name = name) ∨
      (hostTableName name = "Loot" ++ name ∧
        lootTableKey name = String.ofList ("loot".toList ++ lower name.toList)) ∨
      (hostTableName name = "LootTable" ++ name ∧
        lootTableKey name = String.ofList ("loottable".toList ++ lower name.toList)) := by
  unfold hostTableName lootTableKey
  dsimp only
  split
  next hloot => exact Or.inl ⟨List.isPrefixOf_iff_prefix.mp hloot, rfl⟩
  next =>
    split
    · exact Or.inr (Or.inl ⟨rfl, rfl⟩)
    · exact Or.inr (Or.inr ⟨rfl, rfl⟩)

theorem isCased_starts : startsCased "Loot".toList.reverse = true ∧
    startsCased "LootTable".toList.reverse = true := by
  decide +kernel

theorem lower_starts (name : String) :
    lower ("Loot" ++ name).toList =
        "loot".toList ++ lowerAfter "Loot".toList.reverse name.toList ∧
      lower ("LootTable" ++ name).toList =
        "loottable".toList ++ lowerAfter "LootTable".toList.reverse name.toList := by
  have hloot : ∀ c ∈ "Loot".toList, c.toNat < 0x80 := List.all_iff_forall_prop.mp (by decide)
  have htable : ∀ c ∈ "LootTable".toList, c.toNat < 0x80 :=
    List.all_iff_forall_prop.mp (by decide)
  rw [String.toList_append, String.toList_append]
  exact ⟨lowerAfter_ascii_append [] hloot _, lowerAfter_ascii_append [] htable _⟩

/-- A name that starts with `loot` is complete. -/
theorem lootTableKey_of_isPrefix {name : String} (h : "loot".toList <+: lower name.toList) :
    lootTableKey name = hostTableKey name := by
  rw [lootTableKey, if_pos (List.isPrefixOf_iff_prefix.mpr h)]
  rfl

/-- So is the host's name of any table. -/
theorem lootTableKey_hostTableName (name : String) :
    lootTableKey (hostTableName name) = hostTableKey (hostTableName name) := by
  apply lootTableKey_of_isPrefix
  obtain ⟨hlower, hlowerTable⟩ := lower_starts name
  rcases hostTableName_cases name with ⟨hloot, hname⟩ | ⟨hname, -⟩ | ⟨hname, -⟩
  · rwa [hname]
  · rw [hname, hlower]
    exact List.prefix_append _ _
  · rw [hname, hlowerTable]
    exact List.prefix_append "loot".toList ("table".toList ++ _)

/-- The key of an author's name is that of the host's name, unless a sigma makes the difference. -/
theorem lootTableKey_eq_iff (name : String) :
    lootTableKey name = hostTableKey (hostTableName name) ↔
      ¬ StartsWithLoneSigma name.toList := by
  obtain ⟨hlower, hlowerTable⟩ := lower_starts name
  rcases hostTableName_cases name with ⟨⟨rest, hloot⟩, hname⟩ | ⟨hname, hkey⟩ | ⟨hname, hkey⟩
  · refine iff_of_true ?_ ?_
    · rw [hname]
      exact lootTableKey_of_isPrefix ⟨rest, hloot⟩
    · exact not_startsWithLoneSigma hloot.symm (by decide) (by decide) (by decide)
  · rw [hname, hkey, hostTableKey, lowerString, hlower, String.ofList_inj,
      List.append_cancel_left_eq, eq_comm]
    exact lowerAfter_eq_iff isCased_starts.1 rfl _
  · rw [hname, hkey, hostTableKey, lowerString, hlowerTable, String.ofList_inj,
      List.append_cancel_left_eq, eq_comm]
    exact lowerAfter_eq_iff isCased_starts.2 rfl _

namespace LootStore

/-- What is recorded under a name reaches the tables of the host that have the name's key, and no
other ones. -/
theorem merge_record_iff (name host : String) :
    (∀ (store : LootStore) (entry : LootEntry) (table : HostTable), table.name = host →
        store.isProcessed table.id = false →
        ((store.record name entry).merge table).1.isMerged = true ∧
          ((store.record name entry).merge table).2.2 = table.enriched
            (store.entries (hostTableKey host) ++ [entry.prefixed store.itemPrefix])) ↔
      lootTableKey name = hostTableKey host := by
  constructor
  · intro hreaches
    by_contra hkey
    have hnone : (({} : LootStore).record name ⟨"", 0⟩).tables[hostTableKey host]? = none := by
      simp [record, Std.ExtTreeMap.getElem?_alter, hkey]
    have hmerged := (hreaches {} ⟨"", 0⟩ ⟨0, host, []⟩ rfl rfl).1
    rcases (({} : LootStore).record name ⟨"", 0⟩).merge_cases ⟨0, host, []⟩ with
      ⟨-, hmerge⟩ | ⟨-, -, hmerge⟩ | ⟨stored, -, hstored, -⟩
    · rw [hmerge] at hmerged
      cases hmerged
    · rw [hmerge] at hmerged
      cases hmerged
    · cases hnone.symm.trans hstored
  · rintro hkey store entry table rfl hmark
    have hentries := store.entries_record name (hostTableKey table.name) entry
    rw [if_pos hkey] at hentries
    rcases (store.record name entry).merge_cases table with
      ⟨hprocessed, -⟩ | ⟨-, hnone, -⟩ | ⟨stored, -, hstored, hmerge⟩
    · cases hmark.symm.trans hprocessed
    · rw [entries, hnone] at hentries
      exact absurd hentries.symm (List.append_ne_nil_of_right_ne_nil _ (List.cons_ne_nil _ _))
    · rw [entries_of_tables hstored] at hentries
      rw [hmerge, hentries]
      exact ⟨rfl, rfl⟩

/-- Names with one key are one name to the store. -/
theorem record_eq_iff (first second : String) :
    (∀ (store : LootStore) (entry : LootEntry),
        store.record first entry = store.record second entry) ↔
      lootTableKey first = lootTableKey second := by
  constructor
  · intro hrecord
    have hentries := congrArg (fun store => store.entries (lootTableKey second))
      (hrecord {} ⟨"", 0⟩)
    by_contra hkey
    simp only [entries_record, if_neg hkey, if_pos trivial] at hentries
    exact absurd hentries.symm (List.append_ne_nil_of_right_ne_nil _ (List.cons_ne_nil _ _))
  · intro hkey store entry
    rw [record, record, hkey]

end LootStore

/-- Whether authors can name a table of the host without the beginning of its name: the keys are
the same, recording under either name is the same, and what is recorded under the author's name
reaches every unmarked table that has the host's name. All of this holds together, for any name
that does not start with a sigma on its own, and for no other name. -/
theorem author_names_reach_host (name : String) : List.TFAE [
    ¬ StartsWithLoneSigma name.toList,
    lootTableKey name = hostTableKey (hostTableName name),
    lootTableKey (hostTableName name) = lootTableKey name,
    ∀ (store : LootStore) (entry : LootEntry),
      store.record (hostTableName name) entry = store.record name entry,
    ∀ (store : LootStore) (entry : LootEntry) (table : HostTable),
      table.name = hostTableName name → store.isProcessed table.id = false →
        ((store.record name entry).merge table).1.isMerged = true ∧
          ((store.record name entry).merge table).2.2 =
            table.enriched (store.entries (hostTableKey (hostTableName name)) ++
              [entry.prefixed store.itemPrefix])] := by
  tfae_have 1 ↔ 2 := (lootTableKey_eq_iff name).symm
  tfae_have 2 ↔ 3 := by rw [lootTableKey_hostTableName, eq_comm]
  tfae_have 3 ↔ 4 := (LootStore.record_eq_iff _ _).symm
  tfae_have 2 ↔ 5 := (LootStore.merge_record_iff _ _).symm
  tfae_finish

/-- An author's table of one sigma and a digit. Its key has the sigma that stands inside a word, and
the key of the host's table the one that ends it, so the loot never arrives. -/
theorem sector_sigma_not_reached :
    let source : NamedText := ⟨"a.txt", "loottable = Σ7\nitem = rope w = 1"⟩
    let session := ((Session.start {}).loadText source).1
    hostTableName "Σ7" = "LootTableΣ7" ∧
      lootTableKey "Σ7" = "loottableσ7" ∧
      hostTableKey "LootTableΣ7" = "loottableς7" ∧
      session.loot.keys = ["loottableσ7"] ∧
      (session.populate ⟨1, "LootTableΣ7", []⟩).1 = .noEntries := by
  decide +kernel

end LootSpawn
