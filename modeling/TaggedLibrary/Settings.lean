import TaggedLibrary.Environment
import TaggedLibrary.Settings.ConfigFile
import TaggedLibrary.Settings.KeyPath
import TaggedLibrary.Generation
/-!
The settings of a run: what the file sets, what the environment sets over it, and defaults for the
rest.
-/

namespace TaggedLibrary

structure Settings where
  paths : LibraryPaths
  /-- whether the library is checked after it is written -/
  verify : Bool
deriving Repr, DecidableEq

namespace Settings

def default : Settings :=
  { paths := { source := Path.ofString "~/Temp/file_example_MP3_1MG.mp3"
               destination := Path.ofString "~/Source/rockbox/build-sim/simdisk/Music" }
    verify := false }

/-- A text, or the text of a value that has one. -/
def textOf (key : String) : Setting → Except SettingsError String
  | .scalar _ (.text s) => .ok s
  | .scalar _ (.bool b) => .ok (if b then "true" else "false")
  | .scalar _ (.int n) => .ok (Numeral.intText n)
  | .scalar _ (.float x) => .ok x.toText
  | s => .error (.wrongType (.ofSetting s) "a string" key s.origin?)

def trueWords : List String := ["1", "true", "on", "yes"]
def falseWords : List String := ["0", "false", "off", "no"]

/-- A truth value, or what stands for one: a word, or a number, of which only zero is false. -/
def boolOf (key : String) : Setting → Except SettingsError Bool
  | .scalar _ (.bool b) => .ok b
  | .scalar _ (.int n) => .ok (n ≠ 0)
  | .scalar _ (.float x) => .ok (!x.isZero)
  | .scalar o (.text s) =>
    let s := LowerCase.lower s
    if trueWords.contains s then .ok true
    else if falseWords.contains s then .ok false
    else .error (.wrongType (.scalar (.text s)) "a boolean" key o)
  | s => .error (.wrongType (.ofSetting s) "a boolean" key s.origin?)

/-- The settings of a group: a table names them, and an array has them in order. Each comes with
the name that messages give it. -/
def group (name key : String) (members : List String) :
    Setting → Except SettingsError (List (Option (String × Setting)))
  | .table _ es => .ok (members.map fun m => (es.lookup m).map (key ++ "." ++ m, ·))
  | .array _ xs =>
    .ok (members.zipIdx.map fun (_, i) => xs[i]?.map (key ++ "[" ++ Numeral.text i ++ "]", ·))
  | s => .error (.noGroup (.ofSetting s) name key)

/-- The value of a setting, or the default if it is not set. -/
def orDefault {α : Type} (read : String → Setting → Except SettingsError α) (d : α) :
    Option (String × Setting) → Except SettingsError α
  | none => .ok d
  | some (key, s) => read key s

def pathOf (key : String) (s : Setting) : Except SettingsError Path :=
  (textOf key s).map Path.ofString

def pathsOf (s : Setting) : Except SettingsError LibraryPaths := do
  match ← group "PathSettings" "paths" ["source", "destination"] s with
  | [source, destination] =>
    return { source := ← orDefault pathOf default.paths.source source
             destination := ← orDefault pathOf default.paths.destination destination }
  | _ => return default.paths

def verifyOf (s : Setting) : Except SettingsError Bool := do
  match ← group "VerifySettings" "verify" ["enabled"] s with
  | [enabled] => orDefault boolOf default.verify enabled
  | _ => return default.verify

/-- The meaning of a tree of settings. Names that mean nothing are passed over. -/
def ofEntries (es : Entries) : Except SettingsError Settings := do
  let paths ← match es.lookup "paths" with
    | some s => pathsOf s
    | none => .ok default.paths
  let verify ← match es.lookup "verify" with
    | some s => verifyOf s
    | none => .ok default.verify
  return { paths, verify }

/-- The home directory put in for `~`. -/
def expandHome (home : Option Bytes) (s : Settings) : Settings :=
  { s with paths := { source := s.paths.source.expandHome home
                      destination := s.paths.destination.expandHome home } }

/-- What the settings file sets, if one is named. -/
def fileEntries (env : Environment) (t : FileTree) : Except SettingsError Entries :=
  match env.configPath? with
  | some p => ConfigFile.settings t p
  | none => .ok []

/-- The settings of a run. -/
def load (env : Environment) (t : FileTree) : Except SettingsError Settings := do
  let fromFile ← fileEntries env t
  let fromEnvironment ← env.settings
  let tree := ((Setting.table none []).layer fromFile).layer fromEnvironment
  let settings ← ofEntries tree.asTable.2
  return settings.expandHome env.home?

/-- What is wrong with the settings, if anything is. -/
def invalid? (s : Settings) : Option InvalidSettings :=
  if s.paths.destination.bytes = [] then some .emptyDestination
  else if s.paths.source.Same s.paths.destination then some .samePaths
  else none

end Settings

end TaggedLibrary
