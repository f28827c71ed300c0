import LootSpawn.Proofs.Line.Declaration
import LootSpawn.Proofs.Line.SpawnForm
import LootSpawn.Proofs.Scene.Calls
import LootSpawn.Proofs.Source.Governing
import LootSpawn.Session.Basic

/-!
# The multiplier of a tag

A tag may be put in lower case up to four times: when a configuration is read, when its scaler is
made, with the line that sets it, and when its multiplier is looked up. Once is as good as often, so
configured tags and tag lines meet whatever letters either is written in, as long as no two
configured tags differ in their letter case only.
-/

namespace LootSpawn

open Text Number

/-! ## Tags in lower case -/

/-- No two tags have the same lower case. -/
def TagsApart (tags : Std.ExtTreeMap String Single) : Prop :=
  ∀ tag ∈ tags, ∀ other ∈ tags, lowerString tag = lowerString other → tag = other

instance (tags : Std.ExtTreeMap String Single) : Decidable (TagsApart tags) :=
  decidable_of_iff (∀ tag ∈ tags.keys, ∀ other ∈ tags.keys,
    lowerString tag = lowerString other → tag = other) (by simp [TagsApart])

theorem getElem?_ofList_eq_some_iff {β : Type} {entries : List (String × β)}
    (h : entries.Pairwise fun a b => ¬ compare a.1 b.1 = .eq) (key : String) (value : β) :
    (Std.ExtTreeMap.ofList entries : Std.ExtTreeMap String β)[key]? = some value ↔
      (key, value) ∈ entries := by
  constructor
  · intro hvalue
    have hkey : key ∈ (Std.ExtTreeMap.ofList entries : Std.ExtTreeMap String β) := by
      rw [Std.ExtTreeMap.mem_iff_isSome_getElem?, hvalue]
      rfl
    obtain ⟨other, hother⟩ : ∃ other, (key, other) ∈ entries := by simpa using hkey
    have hfound := Std.ExtTreeMap.getElem?_ofList_of_mem Std.ReflCmp.compare_self h hother
    cases hvalue.symm.trans hfound
    exact hother
  · exact Std.ExtTreeMap.getElem?_ofList_of_mem Std.ReflCmp.compare_self h

namespace Config

variable {tags : Std.ExtTreeMap String Single}

/-- Tags in lower case have the multipliers that they have as written. -/
theorem getElem?_lowerTags (h : TagsApart tags) (key : String) (multiplier : Single) :
    (lowerTags tags.toList)[key]? = some multiplier ↔
      ∃ tag, tags[tag]? = some multiplier ∧ lowerString tag = key := by
  have hmem : ∀ {entry}, entry ∈ tags.toList → entry.1 ∈ tags := by
    rintro ⟨tag, value⟩ hentry
    rw [Std.ExtTreeMap.mem_iff_isSome_getElem?,
      Std.ExtTreeMap.mem_toList_iff_getElem?_eq_some.mp hentry]
    rfl
  rw [lowerTags, getElem?_ofList_eq_some_iff]
  · simp [and_comm]
  · rw [List.pairwise_map]
    apply Std.ExtTreeMap.distinct_keys_toList.imp_of_mem
    intro a b ha hb hdistinct hlower
    rw [Std.LawfulEqCmp.compare_eq_iff_eq] at hlower hdistinct
    exact hdistinct (h _ (hmem ha) _ (hmem hb) hlower)

theorem lowerString_of_mem_lowerTags {entries : List (String × Single)} {tag : String}
    (h : tag ∈ lowerTags entries) : lowerString tag = tag := by
  obtain ⟨written, -, -, rfl⟩ : ∃ written multiplier, (written, multiplier) ∈ entries ∧
      lowerString written = tag := by
    simpa [lowerTags] using h
  exact lowerString_lowerString written

theorem tagsApart_lowerTags (entries : List (String × Single)) :
    TagsApart (lowerTags entries) := by
  intro tag htag other hother hlower
  rwa [lowerString_of_mem_lowerTags htag, lowerString_of_mem_lowerTags hother] at hlower

/-- Tags that are in lower case stay as they are. -/
theorem lowerTags_lowerTags (h : TagsApart tags) :
    lowerTags (lowerTags tags.toList).toList = lowerTags tags.toList := by
  apply Std.ExtTreeMap.ext_getElem?
  intro key
  apply Option.ext
  intro multiplier
  rw [getElem?_lowerTags (tagsApart_lowerTags _)]
  simp only [getElem?_lowerTags h]
  constructor
  · rintro ⟨-, ⟨tag, htag, rfl⟩, rfl⟩
    exact ⟨tag, htag, (lowerString_lowerString tag).symm⟩
  · rintro ⟨tag, htag, rfl⟩
    exact ⟨lowerString tag, ⟨tag, htag, rfl⟩, lowerString_lowerString tag⟩

/-- The tags in the text of a configuration, as they are written there. -/
def writtenTags? (text : String) : Option (Std.ExtTreeMap String Single) := do
  let literal ← Literal.ofText? text
  let fields ← literal.fields? "SpawnerConfig"
  let tags ← Literal.optionalField? fields "tag_multipliers" (Literal.asMap? Literal.asSingle?)
  return Std.ExtTreeMap.ofList (tags.getD [])

/-- The tags with which a configuration was made: those that it was built with, or those of the text
that it was read from. -/
inductive HasTags (config : Config) (tags : Std.ExtTreeMap String Single) : Prop where
  | built (htags : config.tagMultipliers = tags)
  | read {text : String} (hconfig : ofText? text = some config)
      (htags : writtenTags? text = some tags)

/-- Reading a configuration keeps its tags in lower case. -/
theorem exists_writtenTags? {text : String} {config : Config} (h : ofText? text = some config) :
    ∃ tags, writtenTags? text = some tags ∧ config.tagMultipliers = lowerTags tags.toList := by
  simp only [ofText?, ofLiteral?, bind, Option.bind_eq_some_iff, pure, Option.some_inj] at h
  obtain ⟨literal, hliteral, fields, hfields, -, -, -, -, -, -, -, -, written, hwritten, rfl⟩ := h
  refine ⟨.ofList (written.getD []), ?_, rfl⟩
  simp [writtenTags?, hliteral, hfields, hwritten]

theorem hasTags_getD {text : String} (h : (ofText? text).isSome = true) :
    ((ofText? text).getD {}).HasTags ((writtenTags? text).getD ∅) := by
  obtain ⟨config, hconfig⟩ := Option.isSome_iff_exists.mp h
  obtain ⟨tags, htags, -⟩ := exists_writtenTags? hconfig
  rw [hconfig, htags]
  exact .read hconfig htags

theorem lowerTags_tagMultipliers {config : Config} (h : config.HasTags tags)
    (hapart : TagsApart tags) :
    lowerTags config.tagMultipliers.toList = lowerTags tags.toList := by
  cases h with
  | built htags => rw [htags]
  | read hconfig htags =>
      obtain ⟨written, hwritten, hlower⟩ := exists_writtenTags? hconfig
      cases htags.symm.trans hwritten
      rw [hlower, lowerTags_lowerTags hapart]

end Config

/-! ## Multipliers -/

/-- The multiplier of a tag in any case: that of the configured tag with the same lower case, or one
if there is none. -/
inductive IsMultiplier (tags : Std.ExtTreeMap String Single) (tag : String) : Single → Prop where
  | configured {name : String} {multiplier : Single} (hname : tags[name]? = some multiplier)
      (hlower : lowerString name = lowerString tag) : IsMultiplier tags tag multiplier
  | absent (habsent : ∀ name ∈ tags, lowerString name ≠ lowerString tag) :
      IsMultiplier tags tag .one

/-- The scaler of a configuration has the multiplier of each tag. -/
theorem ChanceScaler.isMultiplier_iff {config : Config} {tags : Std.ExtTreeMap String Single}
    (h : config.HasTags tags) (hapart : TagsApart tags) (tag : String) (multiplier : Single) :
    IsMultiplier tags tag multiplier ↔ (ofConfig config).tagMultiplier tag = multiplier := by
  have hlookup : ∀ value, (ofConfig config).tagMultipliers[lowerString tag]? = some value ↔
      ∃ name, tags[name]? = some value ∧ lowerString name = lowerString tag := by
    intro value
    rw [ofConfig, Config.lowerTags_tagMultipliers h hapart, Config.getElem?_lowerTags hapart]
  rw [tagMultiplier]
  cases hvalue : (ofConfig config).tagMultipliers[lowerString tag]? with
  | some value =>
      obtain ⟨name, hname, hlower⟩ := (hlookup value).mp hvalue
      constructor
      · rintro (⟨hother, hsame⟩ | habsent)
        · exact Option.some_inj.mp (hvalue.symm.trans ((hlookup _).mpr ⟨_, hother, hsame⟩))
        · exact absurd hlower (habsent name (Std.ExtTreeMap.mem_iff_isSome_getElem?.mpr
            (by rw [hname]; rfl)))
      · rintro rfl
        exact .configured hname hlower
  | none =>
      have habsent : ∀ name ∈ tags, lowerString name ≠ lowerString tag := by
        intro name hname hlower
        obtain ⟨value, hfound⟩ :=
          Option.isSome_iff_exists.mp (Std.ExtTreeMap.mem_iff_isSome_getElem?.mp hname)
        cases hvalue.symm.trans ((hlookup value).mpr ⟨name, hfound, hlower⟩)
      constructor
      · rintro (⟨hother, hsame⟩ | -)
        · cases hvalue.symm.trans ((hlookup _).mpr ⟨_, hother, hsame⟩)
        · rfl
      · rintro rfl
        exact .absent habsent

/-! ## Tag lines -/

/-- A line sets a tag. -/
def Line.SetsTag (raw : String) : Prop := ((said? raw).bind tag?).isSome

/-- The tag for a line after these ones, as it is written in the nearest line that sets one. -/
inductive TagInForce (earlier : List String) : String → Prop where
  | written {before between : List String} (form : DeclarationForm)
      (hearlier : earlier = before ++ String.ofList (form.text "tag".toList) :: between)
      (hbetween : ∀ raw ∈ between, ¬ Line.SetsTag raw) : TagInForce earlier form.spelling
  | default (hearlier : ∀ raw ∈ earlier, ¬ Line.SetsTag raw) : TagInForce earlier defaultTag

theorem lastSaid?_of_forall_not_SetsTag {lines : List String}
    (h : ∀ raw ∈ lines, ¬ Line.SetsTag raw) : lastSaid? Line.tag? lines = none := by
  rw [lastSaid?, List.findSome?_eq_none_iff]
  intro raw hraw
  simpa [Line.SetsTag] using h raw (List.mem_reverse.mp hraw)

/-- The tag in force is the one under which a line is read, up to letter case. -/
theorem TagInForce.lowerString_governing {earlier : List String} {tag : String}
    (h : TagInForce earlier tag) :
    lowerString (Context.governing earlier).tag = lowerString tag := by
  cases h with
  | @written before between form hearlier hbetween =>
      have hsaid : (Line.said? (String.ofList (form.text "tag".toList))).bind Line.tag? =
          some (lowerString form.spelling) := by
        rw [Line.said?, form.read_tag]
        rfl
      have hlast : lastSaid? Line.tag? earlier = some (lowerString form.spelling) := by
        have hnone := lastSaid?_of_forall_not_SetsTag hbetween
        rw [lastSaid?] at hnone
        rw [hearlier, lastSaid?, List.reverse_append, List.reverse_cons, List.append_assoc,
          List.findSome?_append, hnone, List.singleton_append, List.findSome?_cons, hsaid]
        rfl
      rw [Context.governing, hlast]
      exact lowerString_lowerString form.spelling
  | default hearlier =>
      rw [Context.governing, lastSaid?_of_forall_not_SetsTag hearlier]
      rfl

/-! ## Rolls -/

/-- Under a scaler that follows a rule, the rolls for a directive are against the chance that the
rule gives. -/
theorem Attempt.Follows.fst_of_mem_rolls {Asset Handle : Type} {scale : Scaling}
    {directive : Directive} {attempt : Attempt Asset Handle}
    (h : Follows scale (directive, attempt)) {roll : Single × Bool}
    (hroll : roll ∈ rolls (directive, attempt)) :
    roll.1 = scale directive.chance directive := by
  cases attempt with
  | missing => cases hroll
  | hopeless => cases hroll
  | lost =>
      rw [List.mem_singleton.mp hroll]
      exact h _ rfl
  | placed =>
      rw [List.mem_singleton.mp hroll]
      exact h _ rfl

/-- Under a configuration whose tags differ in more than letter case, each roll for a spawn of a
source is against the declared chance, times the multiplier for all chances, times the multiplier of
the tag in force: the one that is configured for that tag in any letter case, or one. -/
theorem rolls_follow_tags {session : Session} {tags : Std.ExtTreeMap String Single}
    (htags : session.config.HasTags tags) (hapart : TagsApart tags) {lines : List String}
    {source : Source} (hsource : Source.ofLines lines = .ok source) {σ ρ Asset Handle : Type}
    (host : SceneHost σ Asset Handle) (random : RandomSource ρ) :
    let resolver := session.defaultResolver host random
    (∀ (scene : String) (stage : Stage σ Unit ρ),
      ∃ (attempts : List (Directive × Attempt Asset Handle)) (report : Report Handle)
        (after : Stage σ Unit ρ),
        attempts.map Prod.fst = session.spawns.directives scene ++
          directivesFor scene (source.spawns.map Numbered.value) ∧
        resolver.resolve (session.commit source).spawns scene stage = (report, after) ∧
        resolver.noting.resolve (session.commit source).spawns scene (stage.withNotes {}) =
          (report, after.withNotes (resolver.notesOf attempts)) ∧
        List.Forall₂ (fun record numbered => Places lines record numbered ∧
            ∀ scene directive, record.value = .spawn scene directive →
              ∀ tag, TagInForce (lines.take numbered.2) tag →
                ∀ multiplier, IsMultiplier tags tag multiplier →
                  ∀ attempt, (directive, attempt) ∈ attempts →
                    ∀ roll ∈ Attempt.rolls (directive, attempt),
                      roll.1 = directive.chance * session.config.chanceMultiplier * multiplier)
          source.records
          (lines.zipIdx.filter fun numbered => (Line.said? numbered.1).isSome)) ∧
      ∀ tag, ∃! multiplier, IsMultiplier tags tag multiplier := by
  intro resolver
  refine ⟨fun scene stage => ?_, fun tag => ?_⟩
  · obtain ⟨attempts, after, hfst, hall⟩ := resolver.exists_faresAll stage
      ((session.commit source).spawns.directives (sceneKey scene))
    refine ⟨attempts, resolver.reportOf (sceneKey scene) attempts, after, ?_, hall.resolve_eq hfst,
      ?_, ?_⟩
    · rw [hfst, SpawnStore.directives_sceneKey, Session.commit, SpawnStore.load_eq_recordAll,
        SpawnStore.directives_recordAll]
    · rw [hall.resolve_noting hfst, Notes.nil_append]
    · have hfollows := hall.follows (Scaler.steady_ofScaling _)
      refine (Source.forall₂_places hsource).imp fun record numbered hplaces => ⟨hplaces, ?_⟩
      intro scene directive hspawn tag htag multiplier hmultiplier attempt hattempt roll hroll
      have hgoverned := hplaces.governed
      rw [hspawn] at hgoverned
      obtain ⟨-, hdirective⟩ := Context.place_of_record_spawn hgoverned
      have hlower : lowerString directive.tag = lowerString tag := by
        rw [hdirective, htag.lowerString_governing]
      have hscaled : (ChanceScaler.ofConfig session.config).tagMultiplier directive.tag =
          multiplier := by
        rw [ChanceScaler.tagMultiplier, hlower]
        exact (ChanceScaler.isMultiplier_iff htags hapart tag multiplier).mp hmultiplier
      rw [(hfollows _ hattempt).fst_of_mem_rolls hroll, ← hscaled]
      rfl
  · refine ⟨_, (ChanceScaler.isMultiplier_iff htags hapart tag _).mpr rfl, ?_⟩
    intro multiplier hmultiplier
    exact ((ChanceScaler.isMultiplier_iff htags hapart tag multiplier).mp hmultiplier).symm

/-- A configuration with its tags in mixed case. -/
def bayText : String :=
  "(chance_multiplier: 0.5, tag_multipliers: \x7b\"Rare\": 0.25, \"NONE\": 2.0\x7d)"

def bayConfig : Config := (Config.ofText? bayText).getD {}

def bayTags : Std.ExtTreeMap String Single := (Config.writtenTags? bayText).getD ∅

/-- Spawns before and after a tag in capitals. -/
def bayLines : List String :=
  ["scene = Bay", "item = lamp c = 10", " tag = RARE ", "item = rope c = 40"]

def bayLamp : Directive := { prefab := "lamp", chance := .ofNat 10 }

def bayRope : Directive := { prefab := "rope", chance := .ofNat 40, tag := "rare" }

def bayRecords : List (Numbered Record) :=
  [⟨1, .scene "bay"⟩, ⟨2, .spawn "bay" bayLamp⟩, ⟨3, .tag "rare"⟩, ⟨4, .spawn "bay" bayRope⟩]

def bayTag : DeclarationForm where
  before := oneBlank
  equals := ⟨oneBlank, oneBlank⟩
  name := ⟨"RARE".toList, by decide, by rw [← List.all_eq_true]; decide⟩
  after := oneBlank

theorem rolls_follow_tags_bay :
    let session := Session.start bayConfig
    let resolver := session.defaultResolver RehearsalHost.collaborator
      RehearsalRandom.collaborator
    (∃! multiplier, IsMultiplier bayTags "RARE" multiplier) ∧
      ∃ (attempts : List (Directive × Attempt String Placement)) (report : Report Placement)
        (after : Stage RehearsalHost Unit RehearsalRandom),
        resolver.resolve (session.commit ⟨bayRecords⟩).spawns "BAY" ⟨{}, (), {}⟩ =
          (report, after) ∧
        attempts.map Prod.fst = [bayLamp, bayRope] ∧
        (∀ multiplier, bayTags["Rare"]? = some multiplier →
          ∀ attempt, (bayRope, attempt) ∈ attempts →
            ∀ roll ∈ Attempt.rolls (bayRope, attempt),
              roll.1 = .ofNat 40 * bayConfig.chanceMultiplier * multiplier) ∧
        after.random.chances = [.ofNat 10, .ofNat 5] := by
  intro session resolver
  have hconfig : session.config = bayConfig := by dsimp only [session, Session.start]
  have htags : session.config.HasTags bayTags := by
    rw [hconfig]
    exact Config.hasTags_getD (by decide +kernel)
  have hsource : Source.ofLines bayLines = .ok ⟨bayRecords⟩ := by decide +kernel
  have hsaid : (bayLines.zipIdx.filter fun numbered => (Line.said? numbered.1).isSome) =
      [("scene = Bay", 0), ("item = lamp c = 10", 1), (" tag = RARE ", 2),
        ("item = rope c = 40", 3)] := by
    decide +kernel
  obtain ⟨hresolve, hunique⟩ := rolls_follow_tags htags (by decide +kernel)
    hsource RehearsalHost.collaborator RehearsalRandom.collaborator
  obtain ⟨attempts, report, after, hfst, hreport, -, hlines⟩ := hresolve "BAY" ⟨{}, (), {}⟩
  refine ⟨hunique "RARE", attempts, report, after, hreport, hfst.trans (by decide +kernel), ?_,
    ?_⟩
  · intro multiplier hrare attempt hattempt roll hroll
    rw [hsaid] at hlines
    have hrope := (hlines.get (show 3 < bayRecords.length by decide) (by decide)).2
    have htag : TagInForce (bayLines.take 3) "RARE" := by
      have hspelling : bayTag.spelling = "RARE" := String.ofList_toList
      rw [← hspelling]
      exact @TagInForce.written _ ["scene = Bay", "item = lamp c = 10"] [] bayTag
        (by decide +kernel) (List.forall_mem_nil _)
    rw [← hconfig]
    exact hrope "bay" _ rfl "RARE" htag multiplier (.configured hrare (by decide +kernel)) attempt
      hattempt roll hroll
  · have hafter := congrArg (·.2.random.chances) hreport
    exact hafter.symm.trans (by decide +kernel)

end LootSpawn
