import TaggedLibrary.Settings.Setting
import TaggedLibrary.Text.Blank
import TaggedLibrary.Text.Hex
/-!
Reading INI files: names with values, all of them texts, in sections. Values may be in quotes, and
a backslash begins an escape everywhere.
-/

namespace TaggedLibrary.Ini

abbrev Rest := List Char

/-- What a letter behind a backslash stands for; most stand for themselves. -/
def escaped : Char → Char
  | '0' => '\x00'
  | 'a' => '\x07'
  | 'b' => '\x08'
  | 't' => '\t'
  | 'r' => '\r'
  | 'n' => '\n'
  | c => c

/-- Takes the digits of a code point, of which the first may be a plus sign. Where it breaks off
instead, that place is given, here and below. -/
def codeDigits : Nat → List Char → Rest → Except Rest (List Char × Rest)
  | 0, read, cs => .ok (read.reverse, cs)
  | _ + 1, _, [] => .error []
  | n + 1, read, '\\' :: '\n' :: rest => codeDigits n ('\n' :: read) rest
  | _ + 1, _, '\\' :: rest => .error rest
  | n + 1, read, c :: rest => codeDigits n (c :: read) rest

/-- Takes a code point of four digits. If it is none, its last digit is not taken. -/
def codePoint (cs : Rest) : Except Rest (Char × Rest) := do
  let (digits, rest) ← codeDigits 4 [] cs
  match Hex.char? (match digits with
    | '+' :: digits => digits
    | digits => digits) with
  | some c => return (c, rest)
  | none => .error (digits.drop 3 ++ rest)

/-- Takes text up to one of the characters that end it, which is left. The end of the file may end
it only if that is allowed; a backslash there stands for itself. -/
def takeUntilWithin (stops : List Char) (mayEnd : Bool) :
    Nat → List Char → Rest → Except Rest (List Char × Rest)
  | 0, _, cs => .error cs
  | fuel + 1, read, cs =>
    match cs with
    | [] => if mayEnd then .ok (read.reverse, []) else .error []
    | c :: rest =>
      if stops.contains c then .ok (read.reverse, c :: rest)
      else if c = '\\' then
        match rest with
        | [] => if mayEnd then .ok ((c :: read).reverse, []) else .error []
        | '\n' :: rest => takeUntilWithin stops mayEnd fuel read rest
        | 'x' :: rest => do
          let (c, rest) ← codePoint rest
          takeUntilWithin stops mayEnd fuel (c :: read) rest
        | c :: rest => takeUntilWithin stops mayEnd fuel (escaped c :: read) rest
      else takeUntilWithin stops mayEnd fuel (c :: read) rest

def takeUntil (stops : List Char) (mayEnd : Bool) (cs : Rest) : Except Rest (List Char × Rest) :=
  takeUntilWithin stops mayEnd (cs.length + 1) [] cs

def isLineEnd (c : Char) : Bool := c == '\n' || c == '\r'

def trimEnd (cs : List Char) : List Char := (cs.reverse.dropWhile Blank.isBlank).reverse

/-- Takes a value, in which parts in quotes may be followed by others; the last part ends with the
line. -/
def value : Nat → Bool → List Char → Rest → Except Rest (List Char × Rest)
  | 0, _, _, cs => .error cs
  | fuel + 1, isFirst, read, cs =>
    match cs with
    | [] => .ok (read, [])
    | c :: rest =>
      if c = '"' ∨ c = '\'' then do
        let (part, rest) ← takeUntil [c] false rest
        value fuel false (read ++ part) (rest.drop 1)
      else do
        let (part, rest) ← takeUntil ['\n', '\r'] true (c :: rest)
        return (read ++ if isFirst then Blank.trimChars part else trimEnd part, rest)

/-- What has been read: entries of the file and of its sections, the section that is open, and the
name that waits for a value. -/
structure Reading where
  entries : Entries := []
  heading? : Option String := none
  opened : Entries := []
  name : List Char := []

/-- Puts the open section among the entries. Of two sections with one name the later counts. -/
def Reading.close (r : Reading) : Entries :=
  match r.heading? with
  | none => r.entries
  | some name => Setting.alter name (fun _ => .table none r.opened) r.entries

def Reading.put (r : Reading) (value : String) : Reading :=
  let name := String.ofList r.name
  let v : Setting := .scalar none (.text value)
  match r.heading? with
  | none => { r with entries := Setting.alter name (fun _ => v) r.entries, name := [] }
  | some _ => { r with opened := Setting.alter name (fun _ => v) r.opened, name := [] }

/-- Blanks that set off a name from the start of its line. -/
def isIndent (c : Char) : Bool := c == ' ' || c == '\t'

/-- Takes a name, which ends where its value is announced. -/
def name (cs : Rest) : Except Rest (List Char × Rest) := do
  let (name, rest) ← takeUntil ['=', ':'] false cs
  return (Blank.trimChars name, rest)

/-- Whether `rest`, the end of `cs`, begins behind a line feed. -/
def beginsLine (cs rest : Rest) : Bool :=
  (cs.take (cs.length - rest.length)).getLast? == some '\n'

/-- Passes over blanks and ends of lines, but not over what indents the next line. Says whether a
line feed comes last; otherwise that is as it was. -/
def between : Bool → Rest → Bool × Rest
  | lineStart, [] => (lineStart, [])
  | lineStart, c :: rest =>
    if isIndent c then between false rest
    else if isLineEnd c then
      if rest.head?.any isIndent then (c == '\n', rest) else between (c == '\n') rest
    else (lineStart, c :: rest)

/-- Reads what begins at a place, and what follows it. Only at the start of a line can a comment
stand. What is indented is a section or a name, whatever its first sign; what breaks off before it
is a name is passed over. -/
def readAll : Nat → Bool → Reading → Rest → Except Rest Reading
  | 0, _, _, cs => .error cs
  | fuel + 1, lineStart, r, cs =>
    let goOn (lineStart : Bool) (r : Reading) (rest : Rest) : Except Rest Reading :=
      let (lineStart, rest) := between lineStart rest
      readAll fuel lineStart r rest
    match cs with
    | [] => .ok r
    | c :: rest =>
      if isIndent c then
        let indented := cs.dropWhile isIndent
        if indented.head?.any fun c => c == '[' || isLineEnd c then goOn false r indented
        else match name indented with
          | .ok (name, rest) => goOn false { r with name } rest
          | .error rest => goOn (beginsLine cs rest) r rest
      else if c = ';' ∨ c = '#' then
        if lineStart then goOn true r ((rest.dropWhile (· ≠ '\n')).drop 1) else .error cs
      else if c = '[' then do
        let (name, rest) ← takeUntil [']'] false rest
        let name := String.ofList (Blank.trimChars name)
        goOn false { r with entries := r.close, heading? := some name, opened := [] } (rest.drop 1)
      else if c = '=' ∨ c = ':' then
        if r.name = [] then .error cs
        else do
          let rest := rest.dropWhile fun c => Blank.isBlank c && !isLineEnd c
          let (value, rest) ← value (rest.length + 1) true [] rest
          goOn false (r.put (String.ofList value)) rest
      else do
        let (name, rest) ← name cs
        goOn false { r with name } rest

/-- Reads a file. Its first line can be indented too. -/
def parse? (s : String) : Option Entries :=
  let cs := s.toList
  let (lineStart, start) := if cs.head?.any isIndent then (true, cs) else between true cs
  (readAll (s.length + 1) lineStart {} start).toOption.map Reading.close

end TaggedLibrary.Ini
