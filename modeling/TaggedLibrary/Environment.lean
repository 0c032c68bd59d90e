import TaggedLibrary.Settings.Error
import TaggedLibrary.Text.LowerCase
import TaggedLibrary.Path
/-!
The variables that a run is given, and the settings among them.
-/

namespace TaggedLibrary

/-- Variables with their values, which need not be text. -/
abbrev Environment := List (String × Bytes)

namespace Environment

def value? (env : Environment) (name : String) : Option Bytes := env.lookup name

def home? (env : Environment) : Option Bytes := env.value? "HOME"

/-- Where the settings file is looked for if no variable says: in the directory for such files, or
in the one that takes its place at home. -/
def defaultConfigPath? (env : Environment) : Option Path :=
  let directory : Option Path := match env.value? "XDG_CONFIG_HOME" with
    | some xdg => some ⟨xdg⟩
    | none => env.home?.map fun home => (⟨home⟩ : Path).joinText ".config"
  directory.map fun d => (d.joinText "sample-music").joinText "config.toml"

/-- Where the settings file is looked for. -/
def configPath? (env : Environment) : Option Path :=
  match env.value? "SAMPLE_MUSIC_CONFIG_PATH" with
  | some p => some ⟨p⟩
  | none => env.defaultConfigPath?

/-- What the names of settings begin with, in small letters. -/
def settingMark : List Char := "sample_music__".toList

/-- Two underscores stand for a dot. -/
def dotted : List Char → List Char
  | '_' :: '_' :: rest => '.' :: dotted rest
  | c :: rest => c :: dotted rest
  | [] => []

/-- The name of the setting that a variable stands for, underscores still in place. -/
def settingName? (name : String) : Option (List Char) :=
  let lower := (LowerCase.lower name).toList
  if settingMark.isPrefixOf lower then some (lower.drop settingMark.length) else none

/-- What a value stands for: a truth value or a number if it reads as one, else itself. -/
def scalarOf (s : String) : Scalar :=
  let lower := LowerCase.lower s
  if lower = "true" then .bool true
  else if lower = "false" then .bool false
  else match Numeral.int64? s, Numeral.binary64? s with
    | some n, _ => .int n
    | none, some x => .float x
    | none, none => .text s

/-- The setting of a variable, if it is one. -/
def setting? (name : String) (value : Bytes) : Except SettingsError (Option (String × Setting)) :=
  match settingName? name with
  | none => .ok none
  | some n =>
    match Utf8.decode? value with
    | none => .error (.notUnicode (String.ofList n) value)
    | some s => .ok (some (String.ofList (dotted n), .scalar (some .environment) (scalarOf s)))

/-- The settings among the variables. -/
def settings : Environment → Except SettingsError Entries
  | [] => .ok []
  | (name, value) :: rest => do
    let first ← setting? name value
    let others ← settings rest
    return first.toList ++ others

end Environment

end TaggedLibrary
