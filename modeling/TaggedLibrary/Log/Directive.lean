import TaggedLibrary.Log.Event
import TaggedLibrary.Text.Pattern.Parser
/-!
The parts of a filter. A directive sets a level for a part of the program, for an activity, which
stands in brackets, or for what has a field, which stands there in braces.
-/

namespace TaggedLibrary

/-- What the value of a field must be. -/
inductive WantedValue where
  /-- a truth value or a number, which no field of an activity holds -/
  | plain (text : String)
  | pattern (text : String) (p : Pattern)
deriving Repr, DecidableEq

/-- A field that must be there, with any value if none is given. -/
structure WantedField where
  name : String
  value : Option WantedValue
deriving Repr, DecidableEq

/-- One part of a filter. Level zero shows nothing. -/
structure LogDirective where
  rank : Nat := LogLevel.trace.rank
  target : Option String := none
  activity : Option String := none
  field : Option WantedField := none
deriving Repr, DecidableEq

namespace LogDirective

def levelNames : List (String × Nat) :=
  [("off", 0), ("error", 1), ("warn", 2), ("info", 3), ("debug", 4), ("trace", 5)]

/-- A level by its number, or by its name in letters of either case. -/
def rank? (s : String) : Option Nat :=
  match Numeral.uint32? s with
  | some n => if n ≤ 5 then some n.toNat else none
  | none => levelNames.lookup (String.ofList (s.toList.map Char.toLower))

/-- Reads what stands in braces: a name, and perhaps a value. What follows a second equals sign
does not count. -/
def wantedField? (s : String) : Option WantedField :=
  let cs := s.toList
  let name := String.ofList (cs.takeWhile (· ≠ '='))
  match cs.dropWhile (· ≠ '=') with
  | [] => if s = "" then none else some { name, value := none }
  | _ :: rest =>
    let value := String.ofList (rest.takeWhile (· ≠ '='))
    if value = "true" ∨ value = "false" ∨ (Numeral.binary64? value).isSome then
      some { name, value := some (.plain value) }
    else (Pattern.parse? value).map fun p => { name, value := some (.pattern value p) }

/-- The part of a directive that is being read, with the place where it begins. -/
inductive Stage where
  | nothing
  | name (start : Nat)
  | activity (start : Nat)
  | field (start : Nat)
  | closing
  | closed
  | level (start : Nat)
deriving Repr, DecidableEq

/-- A directive as far as it has been read. -/
structure Reading where
  directive : LogDirective := {}
  stage : Stage := .nothing

/-- Letters, numbers and these signs can begin a name. -/
def startsName (c : Char) : Bool := c == '-' || c == ':' || c == '_' || Alphanumeric.contains c

/-- Reads the character at a place. -/
def Reading.next (text : List Char) (r : Reading) (c : Char) (place : Nat) : Option Reading :=
  let since (start : Nat) : String := String.ofList ((text.drop start).take (place - start))
  let d := r.directive
  match r.stage, c with
  | .nothing, '[' => some { r with stage := .activity (place + 1) }
  | .nothing, c => if startsName c then some { r with stage := .name place } else none
  | .name start, '=' => some ⟨{ d with target := some (since start) }, .level (place + 1)⟩
  | .name start, '[' => some ⟨{ d with target := some (since start) }, .activity (place + 1)⟩
  | .activity start, ']' => some ⟨{ d with activity := some (since start) }, .closed⟩
  | .activity start, '\x7b' =>
    let activity := if since start = "" then none else some (since start)
    some ⟨{ d with activity }, .field (place + 1)⟩
  | .field start, '\x7d' =>
    (wantedField? (since start)).map fun field => ⟨{ d with field := some field }, .closing⟩
  | .closing, ']' => some { r with stage := .closed }
  | .closed, '=' => some { r with stage := .level (place + 1) }
  | .closing, _ | .closed, _ => none
  | _, _ => some r

/-- Ends a directive. A name by itself may be a level, and a level may be left out. -/
def Reading.finish (text : List Char) (r : Reading) : Option LogDirective :=
  let since (start : Nat) : String := String.ofList (text.drop start)
  match r.stage with
  | .name start =>
    match rank? (since start) with
    | some rank => some { r.directive with rank }
    | none => some { r.directive with target := some (since start) }
  | .level start =>
    if since start = "" then some r.directive
    else (rank? (since start)).map fun rank => { r.directive with rank }
  | .closed => some r.directive
  | _ => none

/-- Reads a directive. Blanks at its ends are not read, but those in front are not counted when
parts are cut out of it, so that it is not understood as it looks. -/
def parse? (text : List Char) : Option LogDirective :=
  let read := (Blank.trimChars text).zipIdx.foldlM
    (fun (r : Reading) (p : Char × Nat) => r.next text p.1 p.2) {}
  read.bind (·.finish text)

/-- Whether a directive follows activities. -/
def follows (d : LogDirective) : Bool := d.activity.isSome || d.field.isSome

/-- Whether a directive decides about what happens outside of activities too. -/
def decides (d : LogDirective) : Bool := d.activity.isNone && (d.field.bind (·.value)).isNone

/-- Whether a directive is about a part of the program. -/
def covers (d : LogDirective) (target : String) : Bool :=
  d.target.all fun t => t.toList.isPrefixOf target.toList

/-- Of two directives that decide, the one with the greater key is more specific. -/
def key (d : LogDirective) : List Nat :=
  match d.target, d.field with
  | target, none => [(target.map (·.utf8ByteSize + 1)).getD 0, 0]
  | target, some f =>
    (target.map (·.utf8ByteSize + 1)).getD 0 :: 1 :: f.name.toList.map Char.toNat

end LogDirective

end TaggedLibrary
