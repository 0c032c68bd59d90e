import TaggedLibrary.Toml.Moment
import TaggedLibrary.Toml.Number
import TaggedLibrary.Toml.Tables
/-!
Reading a TOML document of version 1.1.
-/

namespace TaggedLibrary.Toml

/-- How deep arrays and tables in braces may be nested. -/
def nestingLimit : Nat := 80

/-- How many names a name with dots may have. -/
def nameLimit : Nat := 80

def isBareKeyChar (c : Char) : Bool := c.isAlphanum || c == '_' || c == '-'

def isBareValueChar (c : Char) : Bool :=
  c.isAlphanum || c == '_' || c == '-' || c == '+' || c == '.' || c == ':'

def skipSpaces (cs : Rest) : Rest := cs.dropWhile isSpace

/-- Passes over a comment, which ends before the end of its line. -/
def skipComment? (cs : Rest) : Option Rest :=
  match cs with
  | '#' :: rest =>
    let text := rest.takeWhile fun c => c ≠ '\n' ∧ c ≠ '\r'
    if text.all isPlain then some (rest.drop text.length) else none
  | cs => some cs

/-- Passes over spaces, comments and ends of lines. -/
def skipBlank? : Nat → Rest → Option Rest
  | 0, cs => some cs
  | fuel + 1, cs => do
    let cs ← skipComment? (skipSpaces cs)
    match newline? cs with
    | some rest => skipBlank? fuel rest
    | none => some cs

/-- Takes one name, bare or in quotes. -/
def name? (cs : Rest) : Option (String × Rest) :=
  match cs with
  | '"' :: rest => basic? (rest.length + 1) [] rest
  | '\'' :: rest => literal? rest
  | cs =>
    let bare := cs.takeWhile isBareKeyChar
    if bare = [] then none else some (String.ofList bare, cs.drop bare.length)

/-- Takes names with dots between them, at most as many as given. -/
def names? : Nat → Rest → Option (List String × Rest)
  | 0, _ => none
  | n + 1, cs => do
    let (name, cs) ← name? (skipSpaces cs)
    match skipSpaces cs with
    | '.' :: rest => do
      let (names, rest) ← names? n rest
      return (name :: names, rest)
    | rest => return ([name], rest)

/-- What a bare word stands for. -/
def bare? (word : List Char) : Option Scalar :=
  if word = ['t', 'r', 'u', 'e'] then some (.bool true)
  else if word = ['f', 'a', 'l', 's', 'e'] then some (.bool false)
  else match integer? word, float? word, moment? word with
    | some n, _, _ => some (.int n)
    | none, some x, _ => some (.float x)
    | none, none, some s => some (.text s)
    | none, none, none => none

/-- Takes a bare word. A space may stand between a date and a time. -/
def word (cs : Rest) : List Char × Rest :=
  let first := cs.takeWhile isBareValueChar
  let rest := cs.drop first.length
  match rest with
  | ' ' :: c :: more =>
    if c.isDigit && first.length == 10 && (date? first).isSome then
      let second := (c :: more).takeWhile isBareValueChar
      (first ++ ' ' :: second, (c :: more).drop second.length)
    else (first, rest)
  | rest => (first, rest)

/-- Takes a value without parts. -/
def scalar? (cs : Rest) : Option (Setting × Rest) :=
  match cs with
  | '"' :: _ | '\'' :: _ => (quoted? cs).map fun (s, rest) => (.scalar none (.text s), rest)
  | cs =>
    let (word, rest) := word cs
    (bare? word).map fun v => (.scalar none v, rest)

abbrev Reader (α : Type) := Rest → Option (α × Rest)

/-- Takes the items of an array, behind its bracket. -/
def items? (item? : Reader Setting) : Nat → List Setting → Reader Setting
  | 0, _, _ => none
  | fuel + 1, read, cs => do
    match ← skipBlank? cs.length cs with
    | ']' :: rest => return (.array none read.reverse, rest)
    | cs => do
      let (s, cs) ← item? cs
      match ← skipBlank? cs.length cs with
      | ',' :: rest => items? item? fuel (s :: read) rest
      | ']' :: rest => return (.array none (s :: read).reverse, rest)
      | _ => none

/-- Takes a name and its value. -/
def entry? (value? : Reader Setting) (cs : Rest) : Option ((List String × Setting) × Rest) := do
  let (names, cs) ← names? nameLimit cs
  match cs with
  | '=' :: cs => do
    let (s, cs) ← value? (skipSpaces cs)
    return ((names, s), cs)
  | _ => none

/-- Takes the entries of a table in braces, behind the first one. -/
def braced? (value? : Reader Setting) : Nat → Nodes → Reader Setting
  | 0, _, _ => none
  | fuel + 1, read, cs => do
    match ← skipBlank? cs.length cs with
    | '\x7d' :: rest => return (.table none (entriesOf read), rest)
    | cs => do
      let ((names, s), cs) ← entry? value? cs
      let read ← Nodes.add s names read
      match ← skipBlank? cs.length cs with
      | ',' :: rest => braced? value? fuel read rest
      | '\x7d' :: rest => return (.table none (entriesOf read), rest)
      | _ => none

/-- Takes a value, nested at most as deep as given. -/
def value? : Nat → Reader Setting
  | 0, cs => if cs.head? = some '[' ∨ cs.head? = some '\x7b' then none else scalar? cs
  | depth + 1, cs =>
    match cs with
    | '[' :: rest => items? (value? depth) (rest.length + 1) [] rest
    | '\x7b' :: rest => braced? (value? depth) (rest.length + 1) [] rest
    | cs => scalar? cs

/-- What has been read of a document, and the table that entries go to. -/
structure Reading where
  nodes : Nodes := []
  current : List String := []

/-- Takes the names of a header, up to its closing brackets. -/
def header? (closing : List Char) (cs : Rest) : Option (List String × Rest) := do
  let (names, cs) ← names? nameLimit cs
  if closing.isPrefixOf cs then some (names, cs.drop closing.length) else none

/-- Takes a header or an entry. -/
def expression? (r : Reading) (cs : Rest) : Option (Reading × Rest) :=
  match cs with
  | '[' :: '[' :: cs => do
    let (names, cs) ← header? [']', ']'] cs
    let nodes ← Nodes.within (Nodes.openTables (names.getLast?.getD "")) names.dropLast r.nodes
    return ({ nodes, current := names }, cs)
  | '[' :: cs => do
    let (names, cs) ← header? [']'] cs
    let nodes ← Nodes.within (Nodes.openTable (names.getLast?.getD "")) names.dropLast r.nodes
    return ({ nodes, current := names }, cs)
  | cs => do
    let ((names, s), cs) ← entry? (value? nestingLimit) cs
    let nodes ← Nodes.within (Nodes.add s names) r.current r.nodes
    return ({ r with nodes }, cs)

/-- Takes expressions, each on a line of its own, to the end. -/
def expressions? : Nat → Reading → Rest → Option Reading
  | 0, _, _ => none
  | fuel + 1, r, cs => do
    match ← skipBlank? cs.length cs with
    | [] => return r
    | cs => do
      let (r, cs) ← expression? r cs
      match ← skipComment? (skipSpaces cs) with
      | [] => return r
      | cs => do
        let rest ← newline? cs
        expressions? fuel r rest

/-- Reads a document, in front of which a mark of its encoding may stand. -/
def parse? (s : String) : Option Entries := do
  let cs := match s.toList with
    | '\uFEFF' :: cs => cs
    | cs => cs
  let r ← expressions? (cs.length + 1) {} cs
  return entriesOf r.nodes

end TaggedLibrary.Toml
