import TaggedLibrary.Proofs.PathValues
import TaggedLibrary.Proofs.SettingsFile
/-!
A settings file that is not there. Another file may be read in its place, one whose name goes on
behind the name that was given; nothing else among the files bears on the settings, and they are
those of no files at all, whatever the files hold, if and only if there is no such file either.
-/

namespace TaggedLibrary

namespace Settings

/-- A reading that fails, if it does, for another reason than a file that breaks the rules of its
format. -/
def Unbroken {α : Type} (r : Except SettingsError α) : Prop :=
  ∀ file, r ≠ .error (.unreadable file)

namespace Unbroken

variable {α β : Type}

theorem ok (a : α) : Unbroken (.ok a) := fun _ h => by cases h

theorem bind {r : Except SettingsError α} {f : α → Except SettingsError β} (h : Unbroken r)
    (hf : ∀ a, Unbroken (f a)) : Unbroken (r >>= f) := by
  intro file hr
  cases r with
  | ok a => exact hf a file hr
  | error e =>
    cases hr
    exact h file rfl

theorem map {r : Except SettingsError α} (h : Unbroken r) (f : α → β) : Unbroken (r.map f) := by
  intro file hr
  cases r with
  | ok a => cases hr
  | error e =>
    cases hr
    exact h file rfl

end Unbroken

theorem unbroken_textOf (key : String) (s : Setting) : Unbroken (textOf key s) := by
  intro file h
  cases s with
  | scalar o v => cases v <;> cases h
  | array | table => cases h

theorem unbroken_boolOf (key : String) (s : Setting) : Unbroken (boolOf key s) := by
  intro file h
  cases s with
  | scalar o v =>
    cases v with
    | text s =>
      simp only [boolOf] at h
      split at h
      · cases h
      · split at h <;> cases h
    | nil | bool | int | float => cases h
  | array | table => cases h

theorem unbroken_group (name key : String) (members : List String) (s : Setting) :
    Unbroken (group name key members s) := by
  intro file h
  cases s <;> cases h

theorem unbroken_orDefault {α : Type} {read : String → Setting → Except SettingsError α}
    (h : ∀ key s, Unbroken (read key s)) (d : α) (m : Option (String × Setting)) :
    Unbroken (orDefault read d m) := by
  cases m with
  | none => exact .ok d
  | some m => exact h m.1 m.2

theorem unbroken_pathsOf (s : Setting) : Unbroken (pathsOf s) := by
  have hpath : ∀ key s, Unbroken (pathOf key s) := fun key s => (unbroken_textOf key s).map _
  refine (unbroken_group _ _ _ s).bind fun members => ?_
  split
  · exact (unbroken_orDefault hpath _ _).bind fun source =>
      (unbroken_orDefault hpath _ _).bind fun destination => .ok _
  · exact .ok _

theorem unbroken_verifyOf (s : Setting) : Unbroken (verifyOf s) := by
  refine (unbroken_group _ _ _ s).bind fun members => ?_
  split
  · exact unbroken_orDefault unbroken_boolOf _ _
  · exact .ok _

theorem unbroken_groupOr {α : Type} {read : Setting → Except SettingsError α}
    (h : ∀ s, Unbroken (read s)) (d : α) (m : Option Setting) : Unbroken (groupOr read d m) := by
  cases m with
  | none => exact .ok d
  | some s => exact h s

theorem unbroken_ofEntries (es : Entries) : Unbroken (ofEntries es) := by
  rw [ofEntries_eq]
  exact (unbroken_groupOr unbroken_pathsOf _ _).bind fun paths =>
    (unbroken_groupOr unbroken_verifyOf _ _).bind fun verify => .ok _

end Settings

namespace Environment

open Settings (Unbroken)

theorem unbroken_setting? (name : String) (value : Bytes) : Unbroken (setting? name value) := by
  intro file h
  rw [setting?] at h
  split at h
  · cases h
  · split at h <;> cases h

theorem unbroken_settings (env : Environment) : Unbroken env.settings := by
  induction env with
  | nil => exact .ok []
  | cons e rest ih =>
    exact (unbroken_setting? e.1 e.2).bind fun first => ih.bind fun others => .ok _

end Environment

namespace ConfigFile

/-- What is read where a path leads to no file: the first of its siblings that is there, with its
format, and what it holds. -/
def standIn? (t : FileTree) (p : Path) : Option ((Path × ConfigFormat) × Except IoError Bytes) :=
  ((siblings p).find? fun (q, _) => t.isFile q).map fun found => (found, t.read found.1)

variable {t t' : FileTree} {p : Path}

/-- Of a file that is not there, only what stands in for it is read. -/
theorem settings_eq_of_standIn? (h : t.isFile p = false) (h' : t'.isFile p = false)
    (hsame : standIn? t' p = standIn? t p) : settings t' p = settings t p := by
  rw [settings, settings, Settings.find?_of_absent h, Settings.find?_of_absent h']
  rw [standIn?, standIn?] at hsame
  cases hfound : (siblings p).find? fun (q, _) => t.isFile q with
  | none =>
    rw [hfound, Option.map_none, Option.map_eq_none_iff] at hsame
    rw [hsame]
  | some found =>
    rw [hfound, Option.map_some, Option.map_eq_some_iff] at hsame
    obtain ⟨_, hfound', heq⟩ := hsame
    obtain ⟨rfl, hread⟩ := Prod.mk.inj heq
    rw [hfound']
    simp only [hread]

/-- A text that is no document in any format. -/
theorem parse?_bracket (format : ConfigFormat) :
    format.parse? (textOf (Utf8.encode "[")) = none := by
  rw [Settings.textOf_encode rfl]
  cases format <;> decide

/-- A file that stands in for another one can break the rules of its format. -/
theorem exists_unreadable (h : t.isFile p = false) {q : Path × ConfigFormat}
    (hq : q ∈ siblings p) (hfile : t.isFile q.1 = true) :
    ∃ t' file, FileTree.Extends t t' ∧ FileTree.Extends t' t ∧
      settings t' p = .error (.unreadable file) := by
  cases hfound : (siblings p).find? fun (q, _) => t.isFile q with
  | none => exact absurd hfile (List.find?_eq_none.mp hfound q hq)
  | some found =>
    have hthere : t.isFile found.1 = true :=
      List.find?_some (p := fun q : Path × ConfigFormat => t.isFile q.1) hfound
    obtain ⟨t', hgrown, hback, hread⟩ :=
      (FileTree.isFile_eq_true hthere).exists_read (Utf8.encode "[")
    have hfiles : t'.isFile = t.isFile := funext (FileTree.isFile_eq_of_extends hgrown hback)
    refine ⟨t', name found.1, hgrown, hback, ?_⟩
    rw [settings, Settings.find?_of_absent (hfiles ▸ h), hfiles, hfound]
    simp only [hread, parse?_bracket]

end ConfigFile

namespace Settings

variable {env : Environment} {t : FileTree}

/-- No other step of loading than reading the file finds that the file breaks its rules. -/
theorem unbroken_load (h : Unbroken (fileEntries env t)) : Unbroken (load env t) :=
  h.bind fun _ => (Environment.unbroken_settings env).bind fun _ =>
    (unbroken_ofEntries _).bind fun _ => .ok _

theorem noFile_empty (env : Environment) : NoFile env FileTree.empty := by
  have hnone : ∀ p, FileTree.empty.isFile p = false := by
    intro p
    by_contra hfile
    obtain ⟨i, _, _, _, _, hi⟩ := FileTree.isFile_eq_true (Bool.eq_true_of_not_eq_false hfile)
    obtain rfl : i = 0 := Nat.lt_one_iff.mp (FileTree.lt_size hi)
    cases hi
  exact fun p _ => ⟨hnone p, fun q _ => hnone q.1⟩

theorem NoFile.fileEntries (h : NoFile env t) : fileEntries env t = .ok [] := by
  obtain ⟨_, hentries⟩ := h.holds.fileEntries
  exact hentries

/-- Where no settings file is there, the settings are those of no files at all. -/
theorem NoFile.load (h : NoFile env t) : load env t = load env FileTree.empty := by
  rw [Settings.load, Settings.load, h.fileEntries, (noFile_empty env).fileEntries]

end Settings

namespace Program

open FileTree (Extends)
open Settings (NoFile Unbroken holding)

variable {env : Environment} {t t' : FileTree}

theorem loadSettings_eq (h : Settings.load env t' = Settings.load env t) :
    loadSettings env t' = loadSettings env t := by
  rw [loadSettings, loadSettings, h]

theorem loadSettings_of_error {e : SettingsError} (h : Settings.load env t = .error e) :
    loadSettings env t = .error (.settings e) := by
  rw [loadSettings, h]

theorem load_of_error {e : SettingsError} (h : loadSettings env t = .error (.settings e)) :
    Settings.load env t = .error e := by
  rw [loadSettings] at h
  split at h
  · cases h
    assumption
  · split at h <;> cases h

/-- The settings file is to be at `c.toml`. -/
def besideEnvironment : Environment :=
  [("HOME", Utf8.encode "/home/u"), ("SAMPLE_MUSIC_CONFIG_PATH", Utf8.encode "c.toml")]

def besideText : String := "[paths]\ndestination = \"/x\"\n"

/-- Two files that could be read in place of `c.toml`, one of them broken. -/
def twoBeside : FileTree :=
  { nodes := #[.directory 0 [(Utf8.encode "c.toml.json", 1), (Utf8.encode "c.toml.toml", 2)],
      .file (Utf8.encode "[") 0o644 ⟨0, 0⟩, .file (Utf8.encode besideText) 0o644 ⟨0, 0⟩]
    root := 0, current := 0 }

end Program

end TaggedLibrary
