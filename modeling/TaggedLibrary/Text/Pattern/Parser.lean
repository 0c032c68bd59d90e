import TaggedLibrary.Text.Alphanumeric
import TaggedLibrary.Text.Blank
import TaggedLibrary.Text.Digit
import TaggedLibrary.Text.Hex
import TaggedLibrary.Text.Pattern
/-!
Reading patterns. Letters in brackets with a question mark set options for the rest of a group.
Unless they ask for bytes, nothing is known of characters beyond ASCII but their order: there are
no classes of all digits, blanks or words, no edges of words, and case cannot be passed over. Where
bytes are asked for, a class must not hold part of a character.
-/

namespace TaggedLibrary.Pattern

structure Options where
  ignoreCase : Bool := false
  /-- the ends of lines count as ends of the text -/
  lines : Bool := false
  /-- a point takes the end of a line too -/
  dotAll : Bool := false
  /-- repetitions are short unless they are marked -/
  swapGreed : Bool := false
  /-- characters and not bytes -/
  unicode : Bool := true
  carriageReturns : Bool := false
  /-- blanks and comments do not count -/
  verbose : Bool := false
deriving Repr, DecidableEq

/-- Sets the option of a letter. -/
def Options.set? (o : Options) (on : Bool) : Char → Option Options
  | 'i' => some { o with ignoreCase := on }
  | 'm' => some { o with lines := on }
  | 's' => some { o with dotAll := on }
  | 'U' => some { o with swapGreed := on }
  | 'u' => some { o with unicode := on }
  | 'R' => some { o with carriageReturns := on }
  | 'x' => some { o with verbose := on }
  | _ => none

/-- Sets the options of some letters, and unsets those behind a minus sign. No sign may stand
twice. -/
def Options.setAll? (o : Options) (letters : List Char) : Option Options :=
  if letters.eraseDups ≠ letters ∨ letters.getLast? = some '-' then none
  else do
    let o ← (letters.takeWhile (· ≠ '-')).foldlM (fun o c => o.set? true c) o
    ((letters.dropWhile (· ≠ '-')).drop 1).foldlM (fun o c => o.set? false c) o

/-- The text that is left, the options that hold for it, and the names that groups have. -/
structure Source where
  options : Options := {}
  names : List String := []
  rest : List Char

abbrev Parser := StateT Source Option

/-- Something that has been read, and how deeply brackets, repetitions and rows of parts are nested
in it. -/
structure Nested (α : Type) where
  value : α
  depth : Nat := 0

/-- What is deeper by one than its parts. -/
def Nested.wrap {α β : Type} (f : α → β) (x : Nested α) : Nested β := ⟨f x.value, x.depth + 1⟩

/-- Parts that have been read one after another: what they make together, their number, and the
depth of the deepest. -/
structure Row (α : Type) where
  value : α
  count : Nat := 0
  depth : Nat := 0

namespace Row

def add {α : Type} (join : α → α → α) (r : Row α) (x : Nested α) : Row α :=
  ⟨join r.value x.value, r.count + 1, max r.depth x.depth⟩

/-- A single part is not nested in a row. -/
def close {α : Type} (r : Row α) : Nested α := ⟨r.value, if r.count ≤ 1 then r.depth else r.depth + 1⟩

end Row

namespace Parser

def rest : Parser (List Char) := do return (← get).rest

def options : Parser Options := do return (← get).options

def skip (n : Nat) : Parser Unit := modify fun s => { s with rest := s.rest.drop n }

/-- Takes a character. -/
def char : Parser Char := do
  match ← rest with
  | [] => failure
  | c :: cs =>
    modify fun s => { s with rest := cs }
    return c

/-- Takes a given character. -/
def expect (c : Char) : Parser Unit := do if (← char) ≠ c then failure

/-- Drops blanks, and comments up to the ends of their lines. -/
def dropBlanks : Bool → List Char → List Char
  | _, [] => []
  | true, c :: cs => dropBlanks (c ≠ '\n') cs
  | false, c :: cs =>
    if Blank.isBlank c then dropBlanks false cs
    else if c = '#' then dropBlanks true cs
    else c :: cs

/-- Passes over what does not count. -/
def blanks : Parser Unit := modify fun s =>
  if s.options.verbose then { s with rest := dropBlanks false s.rest } else s

/-- What is meant by a single character, or by a backslash with what follows it. -/
inductive Item where
  /-- a character, perhaps given as the number of a byte -/
  | literal (c : Char) (byte : Bool)
  | oneOf (k : CharClass)
  | place (p : TextPlace)

/-- Takes digits of base sixteen. -/
def hexDigits : Nat → Parser (List Char)
  | 0 => return []
  | n + 1 => do
    blanks
    let c ← char
    return c :: (← hexDigits n)

/-- Takes the code point of a character. -/
def codePoint (digits : Nat) : Parser Item := do
  match Hex.char? (← hexDigits digits) with
  | none => failure
  | some c =>
    blanks
    return .literal c (digits = 2)

/-- Something that is known of ASCII alone. -/
def onlyAscii (i : Item) : Parser Item := do
  if (← options).unicode then failure else return i

/-- Signs stand for themselves behind a backslash. -/
def isSign (c : Char) : Bool := c.toNat < 0x80 && !c.isAlphanum && c ≠ '<' && c ≠ '>'

/-- Takes what follows a backslash. -/
def escaped : Parser Item := do
  let namedClass (name : String) : Parser Item :=
    match CharClass.named.lookup name with
    | some k => onlyAscii (.oneOf k)
    | none => failure
  match ← char with
  | 'x' => codePoint 2
  | 'u' => codePoint 4
  | 'U' => codePoint 8
  | 'd' => namedClass "digit"
  | 's' => namedClass "space"
  | 'w' => namedClass "word"
  | 'a' => return .literal '\x07' false
  | 'f' => return .literal '\x0c' false
  | 't' => return .literal '\t' false
  | 'n' => return .literal '\n' false
  | 'r' => return .literal '\r' false
  | 'v' => return .literal '\x0b' false
  | 'A' => return .place .start
  | 'z' => return .place .stop
  | 'b' => onlyAscii (.place .wordEdge)
  | 'B' => onlyAscii (.place .noWordEdge)
  | '<' => onlyAscii (.place .wordStart)
  | '>' => onlyAscii (.place .wordStop)
  | c => if isSign c then return .literal c false else failure

/-- Takes a character of a class. -/
def classItem : Parser Item := do
  let c ← char
  if c = '\\' then escaped else return .literal c false

/-- Only a character can be an end of a range. Among bytes it must be of ASCII. -/
def rangeEnd : Item → Parser Char
  | .literal c _ => do
    if !(← options).unicode ∧ 0x80 ≤ c.toNat then failure else return c
  | _ => failure

def itemClass : Item → Parser CharClass
  | .oneOf k => return k
  | i => do return .single (← rangeEnd i)

/-- The next character that counts. Here only the sign of a comment is passed over, but not the
comment. -/
def nextSign (verbose : Bool) (cs : List Char) : Option Char :=
  if verbose then
    match cs.dropWhile Blank.isBlank with
    | '#' :: cs => (cs.dropWhile Blank.isBlank).head?
    | cs => cs.head?
  else cs.head?

/-- Takes a character or a range of them. -/
def member : Parser CharClass := do
  let first ← classItem
  blanks
  match ← rest with
  | [] => failure
  | '-' :: cs =>
    let sign := nextSign (← options).verbose cs
    if sign = some ']' ∨ sign = some '-' then itemClass first
    else
      skip 1
      blanks
      let first ← rangeEnd first
      let last ← rangeEnd (← classItem)
      if first ≤ last then return .range first last else failure
  | _ => itemClass first

/-- Adds the other case of letters, if case is passed over. -/
def folded (k : CharClass) : Parser CharClass := do
  let o ← options
  if !o.ignoreCase ∨ k = .none then return k
  else if o.unicode then failure
  else return k.foldCase

/-- Completes a class. -/
def complete (outside : Bool) (k : CharClass) : Parser CharClass := do
  let k ← folded k
  let k := if outside then k.complement else k
  if !(← options).unicode ∧ !k.isAscii then failure else return k

/-- The name of a class between colons in brackets, and what follows it. -/
def namedClass? : List Char → Option (Bool × CharClass × List Char)
  | '[' :: ':' :: cs =>
    let outside := cs.head? = some '^'
    let cs := if outside then cs.drop 1 else cs
    match cs.dropWhile (· ≠ ':') with
    | ':' :: ']' :: rest =>
      (CharClass.named.lookup (String.ofList (cs.takeWhile (· ≠ ':')))).map (outside, ·, rest)
    | _ => none
  | _ => none

/-- What is done with the two sides of a sign between classes. -/
inductive ClassSign where
  | both
  | without
  | oneOnly

def ClassSign.ofChars? : List Char → Option ClassSign
  | '&' :: '&' :: _ => some .both
  | '-' :: '-' :: _ => some .without
  | '~' :: '~' :: _ => some .oneOnly
  | _ => none

/-- Joins a class to what stands before it. -/
def joined : Option (Nested CharClass × ClassSign) → Nested CharClass → Parser (Nested CharClass)
  | none, b => return b
  | some (a, sign), b => do
    let right ← folded b.value
    let left ← folded a.value
    let value := match sign with
      | .both => left.intersection right
      | .without => left.difference right
      | .oneOnly => left.symmetricDifference right
    return ⟨value, max a.depth b.depth + 1⟩

/-- Takes minus signs, which stand for themselves at the front of a class. -/
def minusSigns : Nat → Row CharClass → Parser (Row CharClass)
  | 0, r => return r
  | fuel + 1, r => do
    if (← rest).head? = some '-' then
      skip 1
      blanks
      minusSigns fuel (r.add .union ⟨.single '-', 0⟩)
    else return r

mutual

/-- Takes a class behind its opening bracket. The closing one stands for itself at the front. -/
def bracketed : Nat → Parser (Nested CharClass)
  | 0 => failure
  | fuel + 1 => do
    blanks
    let outside := (← rest).head? = some '^'
    if outside then
      skip 1
      blanks
    let signs ← minusSigns (← rest).length ⟨.none, 0, 0⟩
    let first ← if signs.count = 0 ∧ (← rest).head? = some ']' then do
        skip 1
        blanks
        pure ⟨.single ']', 1, 0⟩
      else pure signs
    let k ← members fuel none first
    return ⟨← complete outside k.value, k.depth + 1⟩

/-- Takes members of a class up to its closing bracket. -/
def members :
    Nat → Option (Nested CharClass × ClassSign) → Row CharClass → Parser (Nested CharClass)
  | 0, _, _ => failure
  | fuel + 1, before, read => do
    blanks
    let cs ← rest
    match cs, ClassSign.ofChars? cs with
    | _, some sign => do
      skip 2
      members fuel (some (← joined before read.close, sign)) ⟨.none, 0, 0⟩
    | ']' :: _, _ => do
      skip 1
      joined before read.close
    | '[' :: _, _ => do
      match namedClass? cs with
      | some (outside, k, left) =>
        modify fun s => { s with rest := left }
        members fuel before (read.add .union ⟨← complete outside k, 0⟩)
      | none =>
        skip 1
        members fuel before (read.add .union (← bracketed fuel))
    | _, _ => do members fuel before (read.add .union ⟨← member, 0⟩)

end

/-- A character by itself. Among bytes, one of them is not enough for it beyond ASCII. -/
def literal (c : Char) (byte : Bool) : Parser Pattern := do
  let o ← options
  if o.ignoreCase ∧ o.unicode then failure
  else if !o.unicode ∧ byte ∧ 0x80 ≤ c.toNat then failure
  else return .char (if o.ignoreCase then (CharClass.single c).foldCase else .single c)

def ofItem : Item → Parser Pattern
  | .literal c byte => literal c byte
  | .oneOf k => return .char k
  | .place p => return .place p

/-- A point takes every character that does not end a line. -/
def dot : Parser Pattern := do
  let o ← options
  if !o.unicode then failure
  else
    let ends := if o.dotAll then .none
      else if o.carriageReturns then (CharClass.single '\n').union (.single '\r')
      else .single '\n'
    return .char ends.complement

/-- Takes the signs of repetition behind a pattern. -/
def repetitions : Nat → Nested Pattern → Parser (Nested Pattern)
  | 0, p => return p
  | fuel + 1, p => do
    blanks
    let kind := (← rest).head?
    if kind = some '*' ∨ kind = some '+' ∨ kind = some '?' then
      skip 1
      let marked := (← rest).head? = some '?'
      if marked then skip 1
      let greedy := marked == (← options).swapGreed
      repetitions fuel <| p.wrap fun p =>
        if kind = some '+' then .repeated greedy p
        else .optional greedy (if kind = some '*' then .repeated greedy p else p)
    else return p

/-- A character of a group's name. -/
def isNameChar (first : Bool) (c : Char) : Bool :=
  c == '_' || (if first then Alphanumeric.contains c && !Digit.contains c
    else Alphanumeric.contains c || c == '.' || c == '[' || c == ']')

/-- Takes the name of a group, which no other group may have. -/
def groupName : Parser Unit := do
  let cs := (← rest).takeWhile (· ≠ '>')
  skip cs.length
  expect '>'
  let name := String.ofList cs
  match cs with
  | [] => failure
  | first :: others =>
    if isNameChar true first && others.all (isNameChar false) && !(← get).names.contains name then
      modify fun s => { s with names := name :: s.names }
    else failure

mutual

/-- Takes alternatives. -/
def alternatives : Nat → Parser (Row Pattern)
  | 0 => failure
  | fuel + 1 => do
    let p ← items fuel ⟨.empty, 0, 0⟩
    if (← rest).head? = some '|' then
      skip 1
      let others ← alternatives fuel
      return others.add (fun q p => .either p q) p
    else return ⟨p.value, 1, p.depth⟩

/-- Takes one item after another. -/
def items : Nat → Row Pattern → Parser (Nested Pattern)
  | 0, _ => failure
  | fuel + 1, read => do
    blanks
    match ← rest with
    | [] | '|' :: _ | ')' :: _ => return read.close
    | cs =>
      match ← item? fuel with
      | none => items fuel { read with count := read.count + 1 }
      | some p => do items fuel (read.add .before (← repetitions cs.length p))

/-- Takes what a repetition can follow, or else options. Repetitions of a given number are not
known. -/
def item? : Nat → Parser (Option (Nested Pattern))
  | 0 => failure
  | fuel + 1 => do
    match ← char with
    | '(' => group? fuel
    | '[' => do
      let k ← bracketed ((← rest).length + 1)
      return some ⟨.char k.value, k.depth⟩
    | '.' => do return some ⟨← dot, 0⟩
    | '^' =>
      let o ← options
      return some ⟨.place (if o.lines then .lineStart o.carriageReturns else .start), 0⟩
    | '$' =>
      let o ← options
      return some ⟨.place (if o.lines then .lineStop o.carriageReturns else .stop), 0⟩
    | '\\' => do return some ⟨← ofItem (← escaped), 0⟩
    | '*' | '+' | '?' | '\x7b' => failure
    | c => do return some ⟨← literal c false, 0⟩

/-- Takes what follows an opening bracket: a group, which may have a name or options, or options
for what follows. -/
def group? : Nat → Parser (Option (Nested Pattern))
  | 0 => failure
  | fuel + 1 => do
    let outer ← options
    blanks
    match ← rest with
    | '?' :: 'P' :: '<' :: _ =>
      skip 3
      groupName
    | '?' :: '<' :: _ =>
      skip 2
      groupName
    | '?' :: cs =>
      let letters := cs.takeWhile fun c => c ≠ ':' && c ≠ ')'
      match outer.setAll? letters with
      | none => failure
      | some options =>
        modify fun s => { s with options, rest := cs.drop letters.length }
        if (← rest).head? = some ')' then
          skip 1
          if letters = [] then failure else return none
        else expect ':'
    | _ => pure ()
    let p ← alternatives fuel
    expect ')'
    modify fun s => { s with options := outer }
    return some (p.close.wrap id)

end

end Parser

/-- The greatest depth that a pattern may have. -/
def greatestDepth : Nat := 250

/-- Reads a pattern. -/
def parse? (s : String) : Option Pattern := do
  let (p, left) ← (Parser.alternatives (4 * s.length + 4)).run { rest := s.toList }
  if left.rest = [] ∧ p.close.depth ≤ greatestDepth then return p.value else none

end TaggedLibrary.Pattern
