import TaggedLibrary.Program
import TaggedLibrary.Proofs.Changes
import TaggedLibrary.Proofs.HomeSteps
import TaggedLibrary.Proofs.LoadedSettings
/-!
A settings file that is there. What its name ends in decides how it is read: one that ends in
`.toml` is never taken for no file at all, and one whose extension says nothing always is.
-/

namespace TaggedLibrary

namespace Path

/-- The last step behind a `~` stays the last once the home directory is put in. -/
theorem getLast?_components_expandHome {p : Path} {rest : List Component} {c : Component}
    (hp : p.components = .name [tilde] :: rest) (hlast : rest.getLast? = some c)
    (home : Option Bytes) : (p.expandHome home).components.getLast? = some c := by
  cases home with
  | none => rw [expandHome_none, hp, List.getLast?_cons, hlast, Option.getD_some]
  | some h => rw [components_expandHome h hp, List.getLast?_append, hlast, Option.some_or]

end Path

namespace Settings

open TaggedLibrary.Path in
/-- The settings that stand where nothing is set can be worked with, wherever home is. -/
theorem invalid?_default (home : Option Bytes) : (default.expandHome home).invalid? = none := by
  have hsource : default.paths.source.components = .name [tilde] ::
      ["Temp", "file_example_MP3_1MG.mp3"].map (.name <| Utf8.encode ·) := by decide
  have hdestination : default.paths.destination.components = .name [tilde] ::
      ["Source", "rockbox", "build-sim", "simdisk", "Music"].map (.name <| Utf8.encode ·) := by
    decide
  have hs := getLast?_components_expandHome hsource rfl home
  have hd := getLast?_components_expandHome hdestination rfl home
  have hempty : (default.paths.destination.expandHome home).bytes ≠ [] := by
    intro h
    rw [components_eq, h] at hd
    cases hd
  have hdiffer : ¬(default.paths.source.expandHome home).Same
      (default.paths.destination.expandHome home) := by
    intro h
    rw [Path.Same] at h
    rw [h, hd] at hs
    exact absurd hs (by decide)
  rw [invalid?]
  exact (if_neg hempty).trans (if_neg hdiffer)

variable {env : Environment} {t : FileTree} {p : Path} {b : Bytes} {es : Entries} {o : Origin}

/-- What is loaded when no variable sets anything. -/
theorem load_of_file (henv : env.settings = .ok [])
    (hfile : fileEntries env t = .ok (Setting.setEntriesAt o es)) :
    load env t = (ofEntries (Setting.ofFile o es).asTable.2).map (expandHome env.home?) :=
  load_eq hfile henv

/-- Where neither group is set there are the defaults. -/
theorem ofEntries_of_apart (hdistinct : (Setting.table none es).Distinct)
    (hpaths : Setting.Apart "paths" es) (hverify : Setting.Apart "verify" es)
    (hnone : es.lookup "paths" = none ∧ es.lookup "verify" = none) :
    ofEntries (Setting.ofFile o es).asTable.2 = .ok default := by
  rw [ofEntries_eq, ← Setting.child?, ← Setting.child?,
    Setting.child?_ofFile SettingVariable.isPlain_paths hdistinct hpaths,
    Setting.child?_ofFile SettingVariable.isPlain_verify hdistinct hverify, hnone.1, hnone.2]
  rfl

/-- A text that the file sets as the destination is the destination. -/
theorem destination_of_ofEntries {s : Settings} {x y : Setting} {d : String}
    (hdistinct : (Setting.table none es).Distinct) (hpaths : Setting.Apart "paths" es)
    (hgroup : es.lookup "paths" = some x) (hx : x.isTable)
    (hmember : x.child? "destination" = some y) (hy : y.scalar? = some (.text d))
    (hs : ofEntries (Setting.ofFile o es).asTable.2 = .ok s) :
    s.paths.destination = Path.ofString d := by
  have hgrouped : (Setting.ofFile o es).Grouped "paths" :=
    Setting.Grouped.ofFile SettingVariable.isPlain_paths hdistinct hpaths fun z hz => by
      rw [Setting.child?_table, hgroup] at hz
      cases hz
      exact hx
  have hset : (Setting.ofFile o es).member? "paths" "destination" =
      some ((y.setAt o).merge .missing) := by
    rw [Setting.member?_ofFile SettingVariable.isPlain_paths hdistinct hpaths, Setting.member?,
      Setting.child?_table, hgroup, Option.bind_some, hmember]
    rfl
  have hscalar : ((y.setAt o).merge .missing).scalar? = some (.text d) := by
    rw [Setting.scalar?_merge_missing, Setting.scalar?_setAt, hy]
  have hread : orDefault pathOf default.paths.destination
      ((some ((y.setAt o).merge .missing)).map (SettingVariable.destination.key, ·)) = _ :=
    orDefault_pathOf fun z hz => ⟨d, Option.some.inj hz ▸ hscalar⟩
  rw [ofEntries_eq, ← Setting.child?, groupOr_pathsOf hgrouped, hset, hread, Option.bind_some,
    Setting.text?, hscalar] at hs
  cases hsource : orDefault pathOf default.paths.source
    (((Setting.ofFile o es).member? "paths" "source").map (SettingVariable.source.key, ·)) with
  | error e =>
    rw [hsource] at hs
    cases hs
  | ok source =>
    rw [hsource] at hs
    cases hverify : groupOr verifyOf default.verify
        ((Setting.ofFile o es).asTable.2.lookup "verify") with
    | error e =>
      rw [hverify] at hs
      cases hs
    | ok verify =>
      rw [hverify] at hs
      cases hs
      rfl

end Settings

namespace Program

variable {env : Environment} {t : FileTree} {p : Path} {b : Bytes}

theorem loadSettings_ok {s : Settings} (h : loadSettings env t = .ok s) :
    Settings.load env t = .ok s := by
  rw [loadSettings] at h
  cases hload : Settings.load env t with
  | error e =>
    rw [hload] at h
    cases h
  | ok s' =>
    simp only [hload] at h
    cases hinvalid : s'.invalid? with
    | some why =>
      rw [hinvalid] at h
      cases h
    | none =>
      rw [hinvalid] at h
      cases h
      rfl

/-- The bytes of a settings file are not passed over: what is no document is an error, and a text
that a document gives as the destination is the destination of all settings that come of it. A
name in quotes that leads into the group from outside is left out, as it may set it too. -/
structure Honoured (env : Environment) (t : FileTree) (b : Bytes) : Prop where
  refused : Toml.parse? (ConfigFile.textOf b) = none → ∃ e, loadSettings env t = .error e
  destination : ∀ es o group y d s, Toml.parse? (ConfigFile.textOf b) = some es →
    Setting.Apart "paths" es → es.lookup "paths" = some (.table o group) →
    group.lookup "destination" = some y → y.scalar? = some (.text d) →
    loadSettings env t = .ok s →
    s.paths.destination = (Path.ofString d).expandHome env.home?

section File

variable (henv : ∀ e ∈ env, Environment.settingName? e.1 = none) (hp : env.configPath? = some p)
  (hfile : t.isFile p) (hread : t.read p = .ok b)
include henv hp hfile hread

theorem honoured_of_toml (hformat : ConfigFormat.ofPath? p = some .toml) : Honoured env t b := by
  have hentries : Settings.fileEntries env t = (Toml.parse? (ConfigFile.textOf b)).elim
      (.error (.unreadable (ConfigFile.name p)))
      fun es => .ok (Setting.setEntriesAt (.file (ConfigFile.name p)) es) := by
    have hparse : ConfigFormat.toml.parse? (ConfigFile.textOf b) =
      Toml.parse? (ConfigFile.textOf b) := rfl
    rw [Settings.fileEntries, hp]
    simp only [Settings.settings_of_isFile hfile hread, hformat, hparse]
    cases Toml.parse? (ConfigFile.textOf b) <;> rfl
  refine ⟨fun hnone => ?_, fun es o group y d s hsome hapart hgroup hmember hy hload => ?_⟩
  · rw [hnone, Option.elim_none] at hentries
    refine ⟨.settings (.unreadable (ConfigFile.name p)), ?_⟩
    rw [loadSettings, Settings.load, hentries]
    rfl
  · rw [hsome, Option.elim_some] at hentries
    have hload := loadSettings_ok hload
    rw [Settings.load_of_file (Environment.settings_eq_nil henv) hentries] at hload
    cases hs : Settings.ofEntries (Setting.ofFile (.file (ConfigFile.name p)) es).asTable.2 with
    | error e =>
      rw [hs] at hload
      cases hload
    | ok s' =>
      rw [hs] at hload
      cases hload
      rw [Settings.expandHome, Settings.destination_of_ofEntries (Toml.distinct_of_parse hsome)
        hapart hgroup rfl hmember hy hs]

end File

section Default

variable (henv : ∀ e ∈ env, Environment.settingName? e.1 = none)
include henv

/-- What sets neither group leaves the defaults. -/
theorem loadSettings_eq_default {es : Entries} {o : Origin}
    (hentries : Settings.fileEntries env t = .ok (Setting.setEntriesAt o es))
    (hdistinct : (Setting.table none es).Distinct) (hplain : ∀ e ∈ es, KeyPath.IsPlain e.1)
    (hnone : es.lookup "paths" = none ∧ es.lookup "verify" = none) :
    loadSettings env t = .ok (Settings.default.expandHome env.home?) := by
  have hload : Settings.load env t = .ok (Settings.default.expandHome env.home?) := by
    rw [Settings.load_of_file (Environment.settings_eq_nil henv) hentries,
      Settings.ofEntries_of_apart hdistinct (Setting.apart_of_isPlain hplain)
        (Setting.apart_of_isPlain hplain) hnone]
    rfl
  simp only [loadSettings, hload, Settings.invalid?_default]

/-- A file whose extension says nothing is passed over. -/
theorem loadSettings_of_ofPath?_eq_none (hp : env.configPath? = some p) (hfile : t.isFile p)
    (hformat : ConfigFormat.ofPath? p = none) :
    loadSettings env t = .ok (Settings.default.expandHome env.home?) := by
  have hfind : ConfigFile.find? t p = none := by
    rw [ConfigFile.find?, if_pos hfile, hformat]
    rfl
  have hentries : Settings.fileEntries env t = .ok (Setting.setEntriesAt .environment []) := by
    rw [Settings.fileEntries, hp]
    simp only [ConfigFile.settings, hfind]
    rfl
  exact loadSettings_eq_default henv hentries (.table List.nodup_nil fun e he => by cases he)
    (fun e he => by cases he) ⟨rfl, rfl⟩

/-- In another format some bytes that are no document are taken without a word. -/
theorem not_honoured_of_parse? {format : ConfigFormat} {s : String} {es : Entries}
    (hp : env.configPath? = some p) (hfile : t.isFile p) (hread : t.read p = .ok (Utf8.encode s))
    (hformat : ConfigFormat.ofPath? p = some format)
    (htext : ConfigFile.textOf (Utf8.encode s) = s) (hparse : format.parse? s = some es)
    (hdistinct : (Setting.table none es).Distinct) (hplain : ∀ e ∈ es, KeyPath.IsPlain e.1)
    (hnone : es.lookup "paths" = none ∧ es.lookup "verify" = none)
    (htoml : Toml.parse? s = none) : ¬Honoured env t (Utf8.encode s) := by
  intro h
  have hentries : Settings.fileEntries env t =
      .ok (Setting.setEntriesAt (.file (ConfigFile.name p)) es) := by
    rw [Settings.fileEntries, hp]
    simp only [Settings.settings_of_isFile hfile hread, hformat, htext, hparse]
  obtain ⟨e, he⟩ := h.refused (by rw [htext, htoml])
  rw [loadSettings_eq_default henv hentries hdistinct hplain hnone] at he
  cases he

omit henv in
theorem exists_read {t₀ : FileTree} (h : t₀.isFile p) (b : Bytes) :
    ∃ t : FileTree, t.isFile p ∧ t.read p = .ok b := by
  obtain ⟨t, hgrown, _, hread⟩ := (FileTree.isFile_eq_true h).exists_read b
  exact ⟨t, FileTree.isFile_of_fileAt ((FileTree.isFile_eq_true h).extends hgrown), hread⟩

end Default

def confEnvironment : Environment :=
  [("HOME", Utf8.encode "/home/u"), ("SAMPLE_MUSIC_CONFIG_PATH", Utf8.encode "music.conf")]

theorem settingName?_confEnvironment :
    ∀ e ∈ confEnvironment, Environment.settingName? e.1 = none := by
  intro e he
  simp only [confEnvironment, List.mem_cons, List.not_mem_nil, or_false] at he
  rcases he with rfl | rfl <;> decide

end Program

end TaggedLibrary
