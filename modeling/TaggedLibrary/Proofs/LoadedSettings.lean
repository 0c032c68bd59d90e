import Mathlib
import TaggedLibrary.Proofs.Layers
import TaggedLibrary.Proofs.TextBytes
/-!
Where each setting comes from: the environment, or else the file, or else the default. The
variables are laid over the file one after another, and none of them touches what another sets, so
that a table in the file keeps the entries that have no variable.
-/

namespace TaggedLibrary

/-- The settings, each of which has a variable. -/
inductive SettingVariable where
  | source
  | destination
  | enabled
deriving DecidableEq

namespace SettingVariable

def name : SettingVariable → String
  | source => "SAMPLE_MUSIC__PATHS__SOURCE"
  | destination => "SAMPLE_MUSIC__PATHS__DESTINATION"
  | enabled => "SAMPLE_MUSIC__VERIFY__ENABLED"

def group : SettingVariable → String
  | source | destination => "paths"
  | enabled => "verify"

def member : SettingVariable → String
  | source => "source"
  | destination => "destination"
  | enabled => "enabled"

/-- The name that leads to the setting. -/
def key (v : SettingVariable) : String := v.group ++ "." ++ v.member

/-- A text that stands for itself where a path is set, and one that stands for a truth value where
the check is. -/
def Fits : SettingVariable → String → Prop
  | source, s | destination, s =>
    LowerCase.lower s ≠ "true" ∧ LowerCase.lower s ≠ "false" ∧ Numeral.int64? s = none ∧
      Numeral.binary64? s = none
  | enabled, s => LowerCase.lower s = "true" ∨ LowerCase.lower s = "false"

/-- A value of the kind that the setting has. -/
def Takes : SettingVariable → Setting → Prop
  | source, x | destination, x => ∃ s, x.scalar? = some (.text s)
  | enabled, x => ∃ b, x.scalar? = some (.bool b)

variable {v w : SettingVariable} {s : String}

theorem settingName?_name : ∃ n, Environment.settingName? v.name = some n ∧
    String.ofList (Environment.dotted n) = v.key := by
  cases v with
  | source => exact ⟨"paths__source".toList, by decide, by decide⟩
  | destination => exact ⟨"paths__destination".toList, by decide, by decide⟩
  | enabled => exact ⟨"verify__enabled".toList, by decide, by decide⟩

theorem isPlain_paths : KeyPath.IsPlain "paths" := by decide

theorem isPlain_verify : KeyPath.IsPlain "verify" := by decide

theorem isPlain_group (v : SettingVariable) : KeyPath.IsPlain v.group := by
  cases v with
  | source | destination => exact isPlain_paths
  | enabled => exact isPlain_verify

theorem ofString_key :
    KeyPath.ofString v.key = { root := v.group, steps := [.entry v.member] } := by
  cases v <;> decide

theorem name_injective (h : v.name = w.name) : v = w := by
  cases v <;> cases w <;> first | rfl | exact absurd h (by decide)

theorem eq_of_place (h : v.group = w.group ∧ v.member = w.member) : v = w := by
  cases v <;> cases w <;> first | rfl | exact absurd h (by decide)

theorem scalarOf_of_fits (hv : v ≠ enabled) (h : v.Fits s) :
    Environment.scalarOf s = .text s := by
  have hword : source.Fits s := by
    cases v with
    | source | destination => exact h
    | enabled => exact absurd rfl hv
  obtain ⟨htrue, hfalse, hint, hfloat⟩ := hword
  simp only [Environment.scalarOf, if_neg htrue, if_neg hfalse, hint, hfloat]

theorem scalarOf_of_fits_enabled (h : enabled.Fits s) :
    Environment.scalarOf s = .bool (LowerCase.lower s == "true") := by
  simp only [Environment.scalarOf]
  rcases h with h | h
  · rw [if_pos h, h]
    rfl
  · rw [h]
    rfl

theorem takes_scalarOf {o : Option Origin} (h : v.Fits s) :
    v.Takes (.scalar o (Environment.scalarOf s)) := by
  by_cases hv : v = enabled
  · subst hv
    rw [scalarOf_of_fits_enabled h]
    exact ⟨_, rfl⟩
  · rw [scalarOf_of_fits hv h]
    cases v with
    | source | destination => exact ⟨s, rfl⟩
    | enabled => exact absurd rfl hv

theorem Takes.of_scalar? {x y : Setting} (h : v.Takes x) (hxy : y.scalar? = x.scalar?) :
    v.Takes y := by
  cases v with
  | source | destination | enabled => exact h.imp fun _ => hxy.trans

theorem setting?_name : Environment.setting? v.name (Utf8.encode s) =
    .ok (some (v.key, .scalar (some .environment) (Environment.scalarOf s))) := by
  obtain ⟨n, hn, hkey⟩ := settingName?_name (v := v)
  simp only [Environment.setting?, hn, Utf8.decode?_encode, hkey]

end SettingVariable

namespace Environment

variable {env : Environment}

/-- The text of a variable. -/
def text? (env : Environment) (name : String) : Option String :=
  (env.value? name).bind Utf8.decode?

/-- No variable is given twice, those that set something are the ones of the settings, and each
holds a text that fits. -/
structure Fitting (env : Environment) : Prop where
  names : (env.map Prod.fst).Nodup
  known : ∀ e ∈ env, settingName? e.1 ≠ none → ∃ v : SettingVariable, e.1 = v.name
  texts : ∀ (v : SettingVariable) b, env.value? v.name = some b →
    ∃ s, b = Utf8.encode s ∧ v.Fits s

theorem value?_cons (name other : String) (b : Bytes) :
    value? ((name, b) :: env) other = if other = name then some b else env.value? other := by
  rw [value?, List.lookup_cons]
  by_cases h : other = name
  · rw [if_pos h, beq_iff_eq.mpr h]
  · rw [if_neg h, beq_eq_false_iff_ne.mpr h]
    rfl

theorem setting?_eq_none {name : String} {b : Bytes} (h : settingName? name = none) :
    setting? name b = .ok none := by
  simp only [setting?, h]

theorem settings_cons {name : String} {b : Bytes} {first : Option (String × Setting)}
    {es : Entries} (hfirst : setting? name b = .ok first) (hrest : settings env = .ok es) :
    settings ((name, b) :: env) = .ok (first.toList ++ es) := by
  rw [settings, hfirst, hrest]
  rfl

theorem settings_eq_nil (h : ∀ e ∈ env, settingName? e.1 = none) : env.settings = .ok [] := by
  induction env with
  | nil => rfl
  | cons e env ih =>
    obtain ⟨name, b⟩ := e
    have hfirst := setting?_eq_none (b := b) (h _ List.mem_cons_self)
    exact settings_cons hfirst (ih fun e he => h e (List.mem_cons_of_mem _ he))

section Fitting

variable {name : String} {b : Bytes}

theorem Fitting.value?_eq_none (h : Fitting ((name, b) :: env)) : env.value? name = none := by
  obtain ⟨hnew, _⟩ := List.nodup_cons.mp h.names
  exact Setting.lookup_eq_none_of_notMem hnew

theorem Fitting.rest (h : Fitting ((name, b) :: env)) : env.Fitting where
  names := (List.nodup_cons.mp h.names).2
  known e he := h.known e (List.mem_cons_of_mem _ he)
  texts v b' hb' := by
    apply h.texts v b'
    rw [value?_cons]
    by_cases hv : v.name = name
    · rw [hv, h.value?_eq_none] at hb'
      cases hb'
    · rwa [if_neg hv]

theorem Fitting.text?_eq_some (h : env.Fitting) {v : SettingVariable} {s : String}
    (hs : env.text? v.name = some s) : v.Fits s := by
  obtain ⟨b, hb, hdecode⟩ := Option.bind_eq_some_iff.mp hs
  obtain ⟨s', rfl, hfits⟩ := h.texts v b hb
  rw [Utf8.decode?_encode] at hdecode
  cases hdecode
  exact hfits

theorem Fitting.text?_eq_none (h : env.Fitting) {v : SettingVariable}
    (hs : env.text? v.name = none) : env.value? v.name = none := by
  cases hb : env.value? v.name with
  | none => rfl
  | some b =>
    obtain ⟨s, rfl, _⟩ := h.texts v b hb
    rw [text?, hb, Option.bind_some, Utf8.decode?_encode] at hs
    cases hs

end Fitting

/-- What a fitting environment lays over a tree: each variable its own setting, and nothing
else. -/
theorem Fitting.settings_layer (h : env.Fitting) : ∃ es, env.settings = .ok es ∧ ∀ base : Setting,
    (∀ v : SettingVariable, (base.layer es).member? v.group v.member =
      ((env.text? v.name).map fun s => .scalar (some .environment) (scalarOf s)).or
        (base.member? v.group v.member)) ∧
    ∀ group, base.Grouped group → (base.layer es).Grouped group := by
  induction env with
  | nil => exact ⟨[], rfl, fun base => ⟨fun v => rfl, fun group hg => hg⟩⟩
  | cons e rest ih =>
    obtain ⟨name, b⟩ := e
    obtain ⟨es, hes, hlaid⟩ := ih h.rest
    by_cases hsets : settingName? name = none
    · -- a variable that sets nothing is none of the three
      refine ⟨es, settings_cons (setting?_eq_none hsets) hes, fun base => ⟨fun v => ?_,
        (hlaid base).2⟩⟩
      have hv : v.name ≠ name := by
        rintro rfl
        obtain ⟨n, hn, _⟩ := SettingVariable.settingName?_name (v := v)
        rw [hn] at hsets
        cases hsets
      rw [(hlaid base).1 v, text?, text?, value?_cons, if_neg hv]
    · obtain ⟨w, rfl⟩ := h.known (name, b) List.mem_cons_self hsets
      obtain ⟨s, rfl, _⟩ := h.texts w b (by rw [value?_cons, if_pos rfl])
      refine ⟨_, settings_cons SettingVariable.setting?_name hes, fun base => ?_⟩
      have hstep : base.layer
          ((some (w.key, Setting.scalar (some .environment) (scalarOf s))).toList ++ es) =
          (({ root := w.group, steps := [.entry w.member] } : KeyPath).put
            (.scalar (some .environment) (scalarOf s)) base).layer es := by
        rw [← SettingVariable.ofString_key]
        rfl
      rw [hstep]
      refine ⟨fun v => ?_, fun group hg => (hlaid _).2 group (KeyPath.grouped_put_entry hg)⟩
      rw [(hlaid _).1 v, KeyPath.member?_put_entry, text?, text?, value?_cons]
      by_cases hv : v = w
      · subst hv
        rw [h.value?_eq_none, if_pos ⟨rfl, rfl⟩, if_pos rfl, Setting.merge]
        · simp [Utf8.decode?_encode]
        · rintro _ _ ⟨⟩
      · have hplace : ¬(v.group = w.group ∧ v.member = w.member) :=
          fun hp => hv (SettingVariable.eq_of_place hp)
        have hname : v.name ≠ w.name := fun hn => hv (SettingVariable.name_injective hn)
        rw [if_neg hplace, if_neg hname]

end Environment

namespace Setting

/-- The text that a setting is, if it is one. -/
def text? (x : Setting) : Option String :=
  match x.scalar? with
  | some (.text s) => some s
  | _ => none

/-- The truth value that a setting is, if it is one. -/
def truth? (x : Setting) : Option Bool :=
  match x.scalar? with
  | some (.bool b) => some b
  | _ => none

end Setting

namespace Settings

variable {es : Entries} {m : Option Setting} {key : String}

/-- The meaning of a group, or the default if it is not there. -/
def groupOr {α : Type} (read : Setting → Except SettingsError α) (d : α) :
    Option Setting → Except SettingsError α
  | none => .ok d
  | some x => read x

theorem ofEntries_eq : ofEntries es = do
    let paths ← groupOr pathsOf default.paths (es.lookup "paths")
    let verify ← groupOr verifyOf default.verify (es.lookup "verify")
    return { paths, verify } := by
  rw [ofEntries]
  cases es.lookup "paths" <;> cases es.lookup "verify" <;> rfl

theorem groupOr_pathsOf {s : Setting} (h : s.Grouped "paths") :
    groupOr pathsOf default.paths (s.child? "paths") = do
      let source ← orDefault pathOf default.paths.source
        ((s.member? "paths" "source").map (SettingVariable.source.key, ·))
      let destination ← orDefault pathOf default.paths.destination
        ((s.member? "paths" "destination").map (SettingVariable.destination.key, ·))
      return { source, destination } := by
  rw [Setting.member?, Setting.member?]
  cases hentry : s.child? "paths" with
  | none => rfl
  | some x =>
    have hx := h x hentry
    cases x with
    | scalar | array => cases hx
    | table o es => rfl

theorem groupOr_verifyOf {s : Setting} (h : s.Grouped "verify") :
    groupOr verifyOf default.verify (s.child? "verify") = orDefault boolOf default.verify
      ((s.member? "verify" "enabled").map (SettingVariable.enabled.key, ·)) := by
  rw [Setting.member?]
  cases hentry : s.child? "verify" with
  | none => rfl
  | some x =>
    have hx := h x hentry
    cases x with
    | scalar | array => cases hx
    | table o es => rfl

theorem orDefault_pathOf {d : Path} (h : ∀ x, m = some x → ∃ s, x.scalar? = some (.text s)) :
    orDefault pathOf d (m.map (key, ·)) = .ok ((m.bind Setting.text?).elim d Path.ofString) := by
  cases m with
  | none => rfl
  | some x =>
    obtain ⟨s, hs⟩ := h x rfl
    cases x with
    | scalar o v => cases hs; rfl
    | array | table => cases hs

theorem orDefault_boolOf {d : Bool} (h : ∀ x, m = some x → ∃ b, x.scalar? = some (.bool b)) :
    orDefault boolOf d (m.map (key, ·)) = .ok ((m.bind Setting.truth?).getD d) := by
  cases m with
  | none => rfl
  | some x =>
    obtain ⟨b, hb⟩ := h x rfl
    cases x with
    | scalar o v => cases hb; rfl
    | array | table => cases hb

/-- A text of ASCII is read from a file as it was written. -/
theorem textOf_encode {s : String} (h : s.toList.all fun c => c.toNat < 128) :
    ConfigFile.textOf (Utf8.encode s) = s := by
  have hascii : ∀ c ∈ s.toList, c.toNat < 128 := by simpa using h
  have hmark : (Utf8.encode s).take 3 ≠ [0xEF, 0xBB, 0xBF] := by
    intro he
    have hm : 0xEF ∈ Utf8.encode s := List.mem_of_mem_take (by rw [he]; exact List.mem_cons_self)
    rw [← String.ofList_toList (s := s), Utf8.encode_ofList hascii] at hm
    obtain ⟨c, hc, hbyte⟩ := List.mem_map.mp hm
    have htoNat : c.toNat % 256 = 0xEF := by
      rw [← UInt8.toNat_ofNat', hbyte]
      rfl
    have hlow : c.toNat < 128 := hascii c hc
    omega
  rw [ConfigFile.textOf, if_neg hmark, Utf8.decodeLossy_encode hascii]

/-- What the settings file of an environment holds: nothing if none is named, or none is there
under the name or one that would be tried in its place; else what its text says. -/
inductive FileHolds (env : Environment) (t : FileTree) : Entries → Prop
  | unnamed (named : env.configPath? = none) : FileHolds env t []
  | absent {p : Path} (named : env.configPath? = some p) (gone : t.isFile p = false)
      (siblings : ∀ q ∈ ConfigFile.siblings p, t.isFile q.1 = false) : FileHolds env t []
  | written {p : Path} {b : Bytes} {es : Entries} (named : env.configPath? = some p)
      (file : t.isFile p) (format : ConfigFormat.ofPath? p = some .toml) (read : t.read p = .ok b)
      (document : Toml.parse? (ConfigFile.textOf b) = some es) : FileHolds env t es

theorem find?_of_absent {t : FileTree} {p : Path} (h : t.isFile p = false) :
    ConfigFile.find? t p = (ConfigFile.siblings p).find? fun (q, _) => t.isFile q := by
  rw [ConfigFile.find?, if_neg (by simp [h])]

theorem settings_of_isFile {t : FileTree} {p : Path} {b : Bytes} (hfile : t.isFile p)
    (hread : t.read p = .ok b) : ConfigFile.settings t p = match ConfigFormat.ofPath? p with
      | none => .ok []
      | some format => match format.parse? (ConfigFile.textOf b) with
        | none => .error (.unreadable (ConfigFile.name p))
        | some es => .ok (Setting.setEntriesAt (.file (ConfigFile.name p)) es) := by
  rw [ConfigFile.settings, ConfigFile.find?, if_pos hfile]
  cases ConfigFormat.ofPath? p with
  | none => rfl
  | some format =>
    rw [Option.map_some]
    cases hparse : format.parse? (ConfigFile.textOf b) with
    | none => simp only [hread, hparse]
    | some es => simp only [hread, hparse]

variable {env : Environment} {t : FileTree}

theorem FileHolds.fileEntries (h : FileHolds env t es) :
    ∃ o, fileEntries env t = .ok (Setting.setEntriesAt o es) := by
  cases h with
  | unnamed named => exact ⟨.environment, by rw [Settings.fileEntries, named]; rfl⟩
  | @absent p named gone siblings =>
    refine ⟨.environment, ?_⟩
    have hfind : ConfigFile.find? t p = none := by
      rw [find?_of_absent gone]
      exact List.find?_eq_none.mpr fun q hq => by simp [siblings q hq]
    rw [Settings.fileEntries, named]
    simp only [ConfigFile.settings, hfind]
    rfl
  | @written p b _ named file format read document =>
    refine ⟨.file (ConfigFile.name p), ?_⟩
    have hparse : ConfigFormat.toml.parse? (ConfigFile.textOf b) = some es := document
    rw [Settings.fileEntries, named]
    simp only [settings_of_isFile file read, format, hparse]

theorem FileHolds.distinct (h : FileHolds env t es) : (Setting.table none es).Distinct := by
  cases h with
  | unnamed | absent => exact .table List.nodup_nil fun e he => by cases he
  | written _ _ _ _ document => exact Toml.distinct_of_parse document

theorem load_eq {o : Origin} {fromEnvironment : Entries}
    (hfile : fileEntries env t = .ok (Setting.setEntriesAt o es))
    (henv : env.settings = .ok fromEnvironment) :
    load env t = (ofEntries ((Setting.ofFile o es).layer fromEnvironment).asTable.2).map
      (expandHome env.home?) := by
  rw [load, hfile, henv]
  rfl

/-- The path that the environment sets, or else the file. -/
def pathSet? (v : SettingVariable) (env : Environment) (es : Entries) : Option Path :=
  ((env.text? v.name).or
    (((Setting.table none es).member? v.group v.member).bind Setting.text?)).map Path.ofString

/-- Whether to check, as the environment says, or else the file. -/
def checkSet? (env : Environment) (es : Entries) : Option Bool :=
  ((env.text? SettingVariable.enabled.name).map (LowerCase.lower · == "true")).or
    (((Setting.table none es).member? "verify" "enabled").bind Setting.truth?)

/-- What stands for a setting when the file, read at `o`, and the environment are laid down. -/
def standing? (v : SettingVariable) (env : Environment) (o : Origin) (es : Entries) :
    Option Setting :=
  ((env.text? v.name).map fun s => .scalar (some .environment) (Environment.scalarOf s)).or
    (((Setting.table none es).member? v.group v.member).map fun s =>
      (Setting.setAt o s).merge .missing)

section Standing

variable {o : Origin} {v : SettingVariable} (hfit : env.Fitting)
include hfit

theorem takes_standing? (htakes : env.value? v.name = none → ∀ x,
    (Setting.table none es).member? v.group v.member = some x → v.Takes x) :
    ∀ x, standing? v env o es = some x → v.Takes x := by
  intro x hx
  rw [standing?] at hx
  cases hs : env.text? v.name with
  | some s =>
    rw [hs] at hx
    cases hx
    exact SettingVariable.takes_scalarOf (hfit.text?_eq_some hs)
  | none =>
    rw [hs, Option.map_none, Option.none_or] at hx
    obtain ⟨y, hy, rfl⟩ := Option.map_eq_some_iff.mp hx
    exact (htakes (hfit.text?_eq_none hs) y hy).of_scalar?
      (Setting.scalar?_merge_missing.trans Setting.scalar?_setAt)

theorem text?_standing? (hv : v ≠ .enabled) : (standing? v env o es).bind Setting.text? =
    (env.text? v.name).or (((Setting.table none es).member? v.group v.member).bind
      Setting.text?) := by
  rw [standing?]
  cases hs : env.text? v.name with
  | some s =>
    rw [Option.map_some, SettingVariable.scalarOf_of_fits hv (hfit.text?_eq_some hs)]
    rfl
  | none =>
    rw [Option.map_none, Option.none_or, Option.none_or, Option.bind_map]
    congr 1
    funext x
    simp [Setting.text?, Setting.scalar?_merge_missing, Setting.scalar?_setAt]

theorem truth?_standing? : (standing? .enabled env o es).bind Setting.truth? =
    checkSet? env es := by
  rw [standing?, checkSet?]
  cases hs : env.text? SettingVariable.enabled.name with
  | some s =>
    rw [Option.map_some, SettingVariable.scalarOf_of_fits_enabled (hfit.text?_eq_some hs)]
    rfl
  | none =>
    rw [Option.map_none, Option.none_or, Option.map_none, Option.none_or, Option.bind_map]
    congr 1
    funext x
    simp [Setting.truth?, Setting.scalar?_merge_missing, Setting.scalar?_setAt]

theorem orDefault_pathOf_standing? {d : Path} (hv : v ≠ .enabled)
    (htakes : env.value? v.name = none → ∀ x,
      (Setting.table none es).member? v.group v.member = some x → v.Takes x) :
    orDefault pathOf d ((standing? v env o es).map (key, ·)) =
      .ok ((pathSet? v env es).getD d) := by
  have htext : ∀ x, standing? v env o es = some x → ∃ s, x.scalar? = some (.text s) := by
    intro x hx
    have hx := takes_standing? hfit htakes x hx
    cases v with
    | source | destination => exact hx
    | enabled => exact absurd rfl hv
  rw [orDefault_pathOf htext, text?_standing? hfit hv, pathSet?]
  cases (env.text? v.name).or _ <;> rfl

end Standing

/-- A directory with one file in it. -/
def holding (name contents : String) : FileTree :=
  { nodes := #[.directory 0 [(Utf8.encode name, 1)], .file (Utf8.encode contents) 0o644 ⟨0, 0⟩]
    root := 0, current := 0 }

def layeredText : String :=
  "[paths]\ndestination = \"~/Music\"\nsource = 7\n[verify]\nenabled = true\n"

def layeredEnvironment : Environment :=
  [("HOME", Utf8.encode "/h"), ("SAMPLE_MUSIC_CONFIG_PATH", Utf8.encode "c.toml"),
    ("SAMPLE_MUSIC__PATHS__SOURCE", Utf8.encode "s.mp3")]

def layeredEntries : Entries :=
  [("paths", .table none [("destination", .scalar none (.text "~/Music")),
      ("source", .scalar none (.int 7))]),
    ("verify", .table none [("enabled", .scalar none (.bool true))])]

theorem fitting_layeredEnvironment : layeredEnvironment.Fitting where
  names := by decide
  known := by
    intro e he hsets
    simp only [layeredEnvironment, List.mem_cons, List.not_mem_nil, or_false] at he
    rcases he with rfl | rfl | rfl
    · exact absurd (by decide) hsets
    · exact absurd (by decide) hsets
    · exact ⟨.source, rfl⟩
  texts := by
    intro v b hb
    cases v with
    | source =>
      refine ⟨"s.mp3", by cases hb; rfl, ?_⟩
      exact ⟨by decide, by decide, by decide, by decide⟩
    | destination | enabled => cases hb

theorem fileHolds_layered :
    FileHolds layeredEnvironment (holding "c.toml" layeredText) layeredEntries := by
  apply FileHolds.written (p := Path.ofString "c.toml") (b := Utf8.encode layeredText)
  · rfl
  · rfl
  · rfl
  · rfl
  · rw [textOf_encode (by decide)]
    cbv

end Settings

end TaggedLibrary
