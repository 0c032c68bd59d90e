import TaggedLibrary.Settings.Setting
/-!
The tables of a TOML document while it is being read. A table can be made in three ways: by a
header of its own, as the parent of one with a header, and by a name with dots. What has been made
one way can be added to only in some of the others.
-/

namespace TaggedLibrary.Toml

/-- How a table came to be. -/
inductive Making where
  /-- by its own header -/
  | header
  /-- because a header names a table in it -/
  | parent
  /-- because a name with dots leads through it -/
  | dotted
deriving Repr, DecidableEq

/-- What a name stands for. Of a list of tables the last one is still open. -/
inductive Node where
  | value (s : Setting)
  | table (making : Making) (entries : List (String × Node))
  | tables (closed : List (List (String × Node))) (last : List (String × Node))

abbrev Nodes := List (String × Node)

namespace Nodes

/-- Puts a node under a name. -/
def set (name : String) (n : Node) : Nodes → Nodes
  | [] => [(name, n)]
  | (m, old) :: es => if m = name then (m, n) :: es else (m, old) :: set name n es

/-- Adds a value under a name with dots. A table that such a name leads through must have no header,
and can have none from then on; the open one of a list of tables gets no values this way. -/
def add (v : Setting) : List String → Nodes → Option Nodes
  | [], _ => none
  | [name], es => if (es.lookup name).isNone then some (set name (.value v) es) else none
  | name :: names, es =>
    match es.lookup name with
    | none => (add v names []).map fun sub => set name (.table .dotted sub) es
    | some (.value _) | some (.table .header _) => none
    | some (.table _ sub) => (add v names sub).map fun sub => set name (.table .dotted sub) es
    | some (.tables closed last) =>
      if names.length = 1 then none
      else (add v names last).map fun last => set name (.tables closed last) es

/-- Changes the table that names lead to, through tables of any making; missing ones are made. -/
def within (f : Nodes → Option Nodes) : List String → Nodes → Option Nodes
  | [], es => f es
  | name :: names, es =>
    match es.lookup name with
    | none => (within f names []).map fun sub => set name (.table .parent sub) es
    | some (.table making sub) =>
      (within f names sub).map fun sub => set name (.table making sub) es
    | some (.tables closed last) =>
      (within f names last).map fun last => set name (.tables closed last) es
    | some (.value _) => none

/-- Opens the table of a header. -/
def openTable (name : String) (es : Nodes) : Option Nodes :=
  match es.lookup name with
  | none => some (set name (.table .header []) es)
  | some (.table .parent sub) => some (set name (.table .header sub) es)
  | _ => none

/-- Opens one more of a list of tables. -/
def openTables (name : String) (es : Nodes) : Option Nodes :=
  match es.lookup name with
  | none => some (set name (.tables [] []) es)
  | some (.tables closed last) => some (set name (.tables (closed ++ [last]) []) es)
  | _ => none

end Nodes

mutual

def Node.toSetting : Node → Setting
  | .value s => s
  | .table _ es => .table none (entriesOf es)
  | .tables closed last => .array none (tablesOf closed ++ [.table none (entriesOf last)])

def entriesOf : List (String × Node) → Entries
  | [] => []
  | (name, n) :: es => (name, n.toSetting) :: entriesOf es

def tablesOf : List (List (String × Node)) → List Setting
  | [] => []
  | es :: rest => .table none (entriesOf es) :: tablesOf rest

end

end TaggedLibrary.Toml
