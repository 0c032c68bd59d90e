import TaggedLibrary.Text.Hex
/-!
Quoted text in TOML: in double quotes with escapes or in single quotes as it stands, each on one
line or, in three quotes, on several. Every reader gives the text and what follows it.
-/

namespace TaggedLibrary.Toml

abbrev Rest := List Char

def isSpace (c : Char) : Bool := c == ' ' || c == '\t'

/-- Characters that may stand for themselves. -/
def isPlain (c : Char) : Bool := c == '\t' || (0x20 ≤ c.toNat && c.toNat ≠ 0x7F)

/-- What a single letter behind a backslash stands for. -/
def escaped? : Char → Option Char
  | 'b' => some '\x08'
  | 't' => some '\t'
  | 'n' => some '\n'
  | 'f' => some '\x0c'
  | 'r' => some '\r'
  | 'e' => some '\x1b'
  | '"' => some '"'
  | '\\' => some '\\'
  | _ => none

/-- Takes the escape behind a backslash. -/
def escape? : Rest → Option (Char × Rest)
  | 'x' :: a :: b :: rest => (Hex.char? [a, b]).map (·, rest)
  | 'u' :: a :: b :: c :: d :: rest => (Hex.char? [a, b, c, d]).map (·, rest)
  | 'U' :: a :: b :: c :: d :: e :: f :: g :: h :: rest =>
    (Hex.char? [a, b, c, d, e, f, g, h]).map (·, rest)
  | c :: rest => (escaped? c).map (·, rest)
  | [] => none

def newline? : Rest → Option Rest
  | '\n' :: rest => some rest
  | '\r' :: '\n' :: rest => some rest
  | _ => none

/-- What is left behind the white space and the ends of lines. -/
def skipLines : Nat → Rest → Rest
  | 0, cs => cs
  | fuel + 1, cs =>
    let cs := cs.dropWhile isSpace
    match newline? cs with
    | some rest => skipLines fuel rest
    | none => cs

/-- Text in double quotes on one line, behind the first quote. -/
def basic? : Nat → List Char → Rest → Option (String × Rest)
  | 0, _, _ => none
  | fuel + 1, read, cs =>
    match cs with
    | '"' :: rest => some (String.ofList read.reverse, rest)
    | '\\' :: rest => do
      let (c, rest) ← escape? rest
      basic? fuel (c :: read) rest
    | c :: rest => if isPlain c then basic? fuel (c :: read) rest else none
    | [] => none

/-- Text in single quotes on one line, behind the first quote. -/
def literal? (cs : Rest) : Option (String × Rest) :=
  let inner := cs.takeWhile (· ≠ '\'')
  match cs.drop inner.length with
  | _ :: rest => if inner.all isPlain then some (String.ofList inner, rest) else none
  | [] => none

/-- Three quotes end a text; one or two before them belong to it. -/
def ending? (quote : Char) (cs : Rest) : Option (List Char × Rest) :=
  match (cs.takeWhile (· == quote)).length with
  | 0 | 1 | 2 => none
  | 3 => some ([], cs.drop 3)
  | 4 => some ([quote], cs.drop 4)
  | _ => some ([quote, quote], cs.drop 5)

/-- Text on several lines, behind its first quotes. A backslash at the end of a line takes away
the white space and the lines that follow. -/
def lines? (quote : Char) : Nat → List Char → Rest → Option (String × Rest)
  | 0, _, _ => none
  | fuel + 1, read, cs =>
    match ending? quote cs with
    | some (quotes, rest) => some (String.ofList (quotes ++ read).reverse, rest)
    | none =>
      match newline? cs, cs with
      | some rest, _ => lines? quote fuel ((cs.take (cs.length - rest.length)).reverse ++ read) rest
      | none, [] => none
      | none, c :: rest =>
        if c = '\\' ∧ quote = '"' then
          match newline? (rest.dropWhile isSpace) with
          | some rest => lines? quote fuel read (skipLines rest.length rest)
          | none => do
            let (c, rest) ← escape? rest
            lines? quote fuel (c :: read) rest
        else if isPlain c then lines? quote fuel (c :: read) rest
        else none

/-- A line that ends right behind the first quotes does not count. -/
def skipFirstLine (cs : Rest) : Rest := (newline? cs).getD cs

/-- Takes a quoted text of any of the four kinds. -/
def quoted? : Rest → Option (String × Rest)
  | '"' :: '"' :: '"' :: rest => lines? '"' (rest.length + 1) [] (skipFirstLine rest)
  | '"' :: rest => basic? (rest.length + 1) [] rest
  | '\'' :: '\'' :: '\'' :: rest => lines? '\'' (rest.length + 1) [] (skipFirstLine rest)
  | '\'' :: rest => literal? rest
  | _ => none

end TaggedLibrary.Toml
