import TaggedLibrary.Decimal.Numeral
import TaggedLibrary.Text.Quoted
/-!
Settings before they have a meaning: a tree of tables, arrays and plain values, each of which may
say where it was set. `Setting.merge` lays one tree over another: tables are laid over tables
name by name, and anything else replaces what is there.
-/

namespace TaggedLibrary

/-- Where a setting comes from. -/
inductive Origin where
  | file (name : String)
  | environment
deriving Repr, DecidableEq

def Origin.text : Origin → String
  | .file name => name
  | .environment => "the environment"

/-- A value without parts. -/
inductive Scalar where
  | nil
  | bool (b : Bool)
  | int (n : Int)
  | float (x : Binary64)
  | text (s : String)
deriving Repr, DecidableEq

inductive Setting where
  | scalar (origin : Option Origin) (value : Scalar)
  | array (origin : Option Origin) (items : List Setting)
  | table (origin : Option Origin) (entries : List (String × Setting))
deriving Inhabited, Repr

abbrev Entries := List (String × Setting)

namespace Setting

/-- What stands where nothing was set. -/
def missing : Setting := .scalar none .nil

def isNil : Setting → Bool
  | .scalar _ .nil => true
  | _ => false

def origin? : Setting → Option Origin
  | .scalar o _ | .array o _ | .table o _ => o

/-- The entries of a table; of anything else, those of a new one. -/
def asTable : Setting → Option Origin × Entries
  | .table o es => (o, es)
  | _ => (none, [])

/-- The items of an array; of anything else, those of a new one. -/
def asArray : Setting → Option Origin × List Setting
  | .array o xs => (o, xs)
  | _ => (none, [])

/-- Changes the entry of a name, which is put at the end if it was not there. -/
def alter (name : String) (f : Setting → Setting) : Entries → Entries
  | [] => [(name, f missing)]
  | (n, s) :: es => if n = name then (n, f s) :: es else (n, s) :: alter name f es

/-- Changes the entry of a name in what is a table from then on. -/
def alterEntry (name : String) (f : Setting → Setting) (s : Setting) : Setting :=
  let (o, es) := s.asTable
  .table o (alter name f es)

mutual

/-- A setting laid over another. -/
def merge : Setting → Setting → Setting
  | .table _ es, base => mergeEntries es (if base.isNil then .table none [] else base)
  | s, _ => s

/-- The entries of a table laid over a setting, one after another. -/
def mergeEntries : Entries → Setting → Setting
  | [], base => base
  | (name, s) :: es, base => mergeEntries es (alterEntry name (merge s) base)

end

mutual

/-- The same tree, with every part of it set at `o`. -/
def setAt (o : Origin) : Setting → Setting
  | .scalar _ v => .scalar (some o) v
  | .array _ xs => .array (some o) (setItemsAt o xs)
  | .table _ es => .table (some o) (setEntriesAt o es)

def setItemsAt (o : Origin) : List Setting → List Setting
  | [] => []
  | s :: xs => setAt o s :: setItemsAt o xs

def setEntriesAt (o : Origin) : Entries → Entries
  | [] => []
  | (name, s) :: es => (name, setAt o s) :: setEntriesAt o es

end

end Setting

end TaggedLibrary
