import TaggedLibrary.FileTree.Basic
import TaggedLibrary.Settings.Error
import TaggedLibrary.Toml.Document
import TaggedLibrary.Json
import TaggedLibrary.Ini
/-!
The settings file: which file it is, how it is written, and what it sets.
-/

namespace TaggedLibrary

/-- The ways of writing settings. -/
inductive ConfigFormat where
  | toml
  | json
  | ini
deriving Repr, DecidableEq

namespace ConfigFormat

def extension : ConfigFormat → Bytes
  | .toml => Utf8.encode "toml"
  | .json => Utf8.encode "json"
  | .ini => Utf8.encode "ini"

/-- In this order they are tried. -/
def all : List ConfigFormat := [.toml, .json, .ini]

/-- The format of a file by its extension, in small letters. -/
def ofPath? (p : Path) : Option ConfigFormat :=
  p.extension?.bind fun extension => all.find? (·.extension == extension)

def parse? : ConfigFormat → String → Option Entries
  | .toml => Toml.parse?
  | .json => Json.parse?
  | .ini => Ini.parse?

end ConfigFormat

namespace ConfigFile

/-- What a name is made of where a path ends with a slash and gives none. -/
def nameless : Bytes := Utf8.encode ".dummy"

/-- The files that a path names with one more extension, in the order of trial. -/
def siblings (p : Path) : List (Path × ConfigFormat) :=
  let stem := if p.bytes.getLast?.getD Path.slash = Path.slash then p.bytes ++ nameless else p.bytes
  ConfigFormat.all.map fun format => (⟨stem ++ Path.dot :: format.extension⟩, format)

/-- The file that is read for a path: the path itself, or the first sibling that is there. A file
whose extension says nothing is not read. -/
def find? (t : FileTree) (p : Path) : Option (Path × ConfigFormat) :=
  if t.isFile p then (ConfigFormat.ofPath? p).map (p, ·)
  else (siblings p).find? fun (q, _) => t.isFile q

/-- A file is named by its steps, those that lead nowhere left out. -/
def name (p : Path) : String :=
  (Path.ofComponents (p.components.filter (· ≠ .here))).display

/-- The text of a file, without the mark of its encoding. -/
def textOf (b : Bytes) : String :=
  Utf8.decodeLossy (if b.take 3 = [0xEF, 0xBB, 0xBF] then b.drop 3 else b)

/-- What the file at a path sets; nothing if there is none. -/
def settings (t : FileTree) (p : Path) : Except SettingsError Entries :=
  match find? t p with
  | none => .ok []
  | some (q, format) =>
    match t.read q with
    | .error _ => .ok []
    | .ok b =>
      match format.parse? (textOf b) with
      | none => .error (.unreadable (name q))
      | some es => .ok (Setting.setEntriesAt (.file (name q)) es)

end ConfigFile

end TaggedLibrary
