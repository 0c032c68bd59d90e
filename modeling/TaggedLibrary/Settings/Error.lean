import TaggedLibrary.Settings.Setting
/-!
Why settings cannot be read, or are no good.
-/

namespace TaggedLibrary

/-- What was found where something else was wanted. -/
inductive Found where
  | scalar (v : Scalar)
  | sequence
  | map
deriving Repr, DecidableEq

namespace Found

def ofSetting : Setting → Found
  | .scalar _ v => .scalar v
  | .array .. => .sequence
  | .table .. => .map

/-- A number that shows that it need not be whole. -/
def floatText (x : Binary64) : String :=
  let s := x.toText
  match x with
  | .finite .. => if s.toList.contains '.' then s else s ++ ".0"
  | _ => s

def text : Found → String
  | .scalar .nil => "unit value"
  | .scalar (.bool b) => "boolean `" ++ (if b then "true" else "false") ++ "`"
  | .scalar (.int n) => "integer `" ++ Numeral.intText n ++ "`"
  | .scalar (.float x) => "floating point `" ++ floatText x ++ "`"
  | .scalar (.text s) => "string " ++ Quoted.text s
  | .sequence => "sequence"
  | .map => "map"

end Found

inductive SettingsError where
  /-- the file is not written as its extension says -/
  | unreadable (file : String)
  /-- a value that cannot be taken for what is wanted -/
  | wrongType (found : Found) (wanted : String) (key : String) (origin : Option Origin)
  /-- a value in the place of a group of settings -/
  | noGroup (found : Found) (group : String) (key : String)
  | notUnicode (name : String) (value : Bytes)
deriving Repr, DecidableEq

namespace SettingsError

def message : SettingsError → String
  | .unreadable file => "could not parse " ++ file
  | .wrongType found wanted key origin =>
    "invalid type: " ++ found.text ++ ", expected " ++ wanted ++ " for key `" ++ key ++ "`"
      ++ match origin with
        | some o => " in " ++ o.text
        | none => ""
  | .noGroup found group key =>
    "invalid type: " ++ found.text ++ ", expected struct " ++ group ++ " for key `" ++ key ++ "`"
  | .notUnicode name value =>
    "env variable " ++ Quoted.text name ++ " contains non-Unicode data: " ++ Quoted.bytes value

end SettingsError

/-- Settings that the program cannot work with. -/
inductive InvalidSettings where
  | emptyDestination
  | samePaths
deriving Repr, DecidableEq

def InvalidSettings.message : InvalidSettings → String
  | .emptyDestination => "paths.destination must not be empty"
  | .samePaths => "paths.source and paths.destination must differ"

end TaggedLibrary
