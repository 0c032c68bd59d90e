import TaggedLibrary.Text.CharClass
/-!
Patterns of text. Where a pattern matches in several ways, earlier alternatives and longer
repetitions come first. `Pattern.reachesEnd` says whether the first match in a text ends with it.
-/

namespace TaggedLibrary

/-- A place in a text, told by the characters beside it. The ends of lines may be carriage returns
too. -/
inductive TextPlace where
  | start
  | stop
  | lineStart (carriageReturns : Bool)
  | lineStop (carriageReturns : Bool)
  | wordEdge
  | noWordEdge
  | wordStart
  | wordStop
deriving Repr, DecidableEq

namespace TextPlace

/-- Whether a place between two characters, or at an end of the text, is of a kind. -/
def holds (p : TextPlace) (before after : Option Char) : Bool :=
  let word (c : Option Char) : Bool := c.any CharClass.isWord
  match p with
  | .start => before.isNone
  | .stop => after.isNone
  | .lineStart false => before.all (· == '\n')
  | .lineStop false => after.all (· == '\n')
  | .lineStart true => before.all (· == '\n') || (before == some '\r' && after != some '\n')
  | .lineStop true => after.all (· == '\r') || (after == some '\n' && before != some '\r')
  | .wordEdge => word before != word after
  | .noWordEdge => word before == word after
  | .wordStart => !word before && word after
  | .wordStop => word before && !word after

/-- Whether a place is of a kind whatever follows. -/
def holdsBehind (p : TextPlace) (before : Option Char) : Bool :=
  match p with
  | .start => before.isNone
  | .lineStart _ => before.all (· == '\n')
  | _ => false

end TextPlace

inductive Pattern where
  | empty
  | char (k : CharClass)
  | place (p : TextPlace)
  | sequence (p q : Pattern)
  | either (p q : Pattern)
  /-- a pattern once or more often -/
  | repeated (greedy : Bool) (p : Pattern)
deriving Repr, DecidableEq

namespace Pattern

/-- A pattern or nothing. -/
def optional (greedy : Bool) (p : Pattern) : Pattern :=
  if greedy then .either p .empty else .either .empty p

def before (p q : Pattern) : Pattern := if p = .empty then q else .sequence p q

def size : Pattern → Nat
  | .empty | .char _ | .place _ => 1
  | .sequence p q | .either p q => p.size + q.size + 1
  | .repeated _ p => p.size + 1

/-- Something still to be matched: a pattern, or a pattern once more if it is repeated. -/
inductive Goal where
  | one (p : Pattern)
  | again (greedy : Bool) (p : Pattern)
deriving Repr, DecidableEq

/-- What is to be matched, one goal behind the other. A match ends where none is left. -/
abbrev Way := List Goal

/-- Adds a way to those that have been seen, and the ways that it leads to before a character is
taken, the best first. One that has been seen is not followed again, so that a repetition of
nothing ends. -/
def follow (holds : TextPlace → Bool) : Nat → List Way → Way → List Way
  | 0, seen, _ => seen
  | fuel + 1, seen, w =>
    if seen.contains w then seen
    else
      let seen := seen ++ [w]
      match w with
      | [] | .one (.char _) :: _ => seen
      | .one .empty :: rest => follow holds fuel seen rest
      | .one (.place p) :: rest => if holds p then follow holds fuel seen rest else seen
      | .one (.sequence p q) :: rest => follow holds fuel seen (.one p :: .one q :: rest)
      | .one (.either p q) :: rest =>
        follow holds fuel (follow holds fuel seen (.one p :: rest)) (.one q :: rest)
      | .one (.repeated greedy p) :: rest =>
        follow holds fuel seen (.one p :: .again greedy p :: rest)
      | .again true p :: rest =>
        follow holds fuel (follow holds fuel seen (.one p :: .again true p :: rest)) rest
      | .again false p :: rest =>
        follow holds fuel (follow holds fuel seen rest) (.one p :: .again false p :: rest)

/-- Ways that end, take a character or depend on a place. -/
def waits : Way → Bool
  | [] | .one (.char _) :: _ | .one (.place _) :: _ => true
  | _ => false

/-- The ways that some ways of a pattern lead to. Each stands for another part of the pattern, which
bounds how far they can be followed. -/
def followAll (p : Pattern) (holds : TextPlace → Bool) (ways : List Way) : List Way :=
  (ways.foldl (follow holds (2 * p.size + 2)) []).filter waits

/-- Follows ways again once the next character is known, if a place has become what they ask
for. -/
def followKnown (p : Pattern) (before after : Option Char) (ways : List Way) : List Way :=
  let changed : Way → Bool
    | .one (.place p) :: _ => p.holds before after && !p.holdsBehind before
    | _ => false
  if ways.any changed then p.followAll (·.holds before after) ways else ways

/-- What a way leaves behind a character. -/
def take? (c : Char) : Way → Option Way
  | .one (.char k) :: rest => if k.contains c then some rest else none
  | _ => none

/-- Whether a match of nothing is found inside a character. Those of several bytes have an inside,
where no word and no line begins or ends. -/
def matchesInside (p : Pattern) (c : Char) : Bool :=
  1 < c.utf8Size && (p.followAll (·.holds (some c) (some c)) [[.one p]]).contains []

/-- Goes on with the ways that are left, the best first, and from every place anew while there is no
match. A match puts an end to what is less good. -/
def reachesEndFrom (p : Pattern) : Bool → Option Char → List Way → List Char → Bool
  | searching, before, left, cs =>
    let tried := p.followAll (·.holdsBehind before) (if searching then left ++ [[.one p]] else left)
    let found := p.followKnown before cs.head? tried
    let better := found.takeWhile (· ≠ [])
    let matched := found.contains []
    match cs with
    | [] => matched
    | c :: rest =>
      reachesEndFrom p (searching && !matched && !p.matchesInside c) (some c)
        (better.filterMap (take? c)) rest

/-- Whether the first match of the pattern in a text ends where the text does. -/
def reachesEnd (p : Pattern) (s : String) : Bool := reachesEndFrom p true none [] s.toList

end Pattern

end TaggedLibrary
