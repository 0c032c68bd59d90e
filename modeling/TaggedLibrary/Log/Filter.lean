import TaggedLibrary.Log.Directive
/-!
Which events are shown. An event is shown if the most specific directive about it sets a level
that reaches it, or if it happens within an activity that a directive follows. An activity is named
in front of an event only if all detail is asked for somewhere.
-/

namespace TaggedLibrary

abbrev LogFilter := List LogDirective

namespace LogFilter

/-- What is shown where nothing is asked for, and where a filter cannot be read. -/
def standard : LogFilter := [{ rank := LogLevel.info.rank }]

def splitAtCommas : List Char → List (List Char)
  | [] => [[]]
  | c :: rest =>
    if c = ',' then [] :: splitAtCommas rest
    else match splitAtCommas rest with
      | [] => [[c]]
      | part :: parts => (c :: part) :: parts

/-- Reads a filter. Every part has to be a directive. -/
def parse? (s : String) : Option LogFilter :=
  ((splitAtCommas s.toList).filter (· ≠ [])).mapM LogDirective.parse?

/-- The filter that a run is given, if it is given any. -/
def ofSetting (value : Option Bytes) : LogFilter :=
  match value.bind Utf8.decode? with
  | none => standard
  | some s => (parse? s).getD standard

/-- The level of the most specific of some directives; of two that are equally specific the later
one counts. -/
def rankOf (ds : List LogDirective) : Nat :=
  let best := ds.foldl (fun best d =>
    match best with
    | none => some d
    | some b => if d.key < b.key then some b else some d) none
  match best with
  | some d => d.rank
  | none => 0

/-- How much is shown of an event by itself. -/
def rankFor (f : LogFilter) (e : Event) : Nat :=
  rankOf (f.filter fun d =>
    d.decides && d.covers e.target && d.field.all fun w => e.fields.contains w.name)

/-- How much is shown of an activity by itself. What fields it has makes no difference. -/
def rankForActivity (f : LogFilter) (a : Activity) : Nat :=
  rankOf (f.filter fun d => d.decides && d.covers a.target)

/-- The directives that follow an activity. Of those alike but for their levels the last counts. -/
def following (f : LogFilter) (a : Activity) : List LogDirective :=
  let alike (d e : LogDirective) : Bool := { d with rank := 0 } = { e with rank := 0 }
  ((f.filter (·.follows)).foldl (fun ds d => ds.filter (!alike d ·) ++ [d]) []).filter fun d =>
    d.covers a.target && d.activity.all (· = a.name) &&
      d.field.all fun w => (a.fields.lookup w.name).isSome

/-- Whether an activity has the value that a directive asks for. -/
def hasWanted (a : Activity) (d : LogDirective) : Bool :=
  match d.field with
  | some { name, value := some wanted } =>
    match wanted, a.fields.lookup name with
    | .pattern _ p, some v => p.reachesEnd v.matched
    | _, _ => false
  | _ => true

/-- How much is shown of what happens within an activity. -/
def rankWithin (f : LogFilter) (a : Activity) : Nat :=
  ((f.following a).filter (hasWanted a)).foldl (fun n d => max n d.rank) 0

/-- The most that is asked for anywhere. To look at values takes all detail. -/
def greatestRank (f : LogFilter) : Nat :=
  if f.any fun d => (d.field.bind (·.value)).isSome then LogLevel.trace.rank
  else f.foldl (fun n d => max n d.rank) 0

def showsActivity (f : LogFilter) (a : Activity) : Bool :=
  LogLevel.trace.rank ≤ f.greatestRank &&
    (f.following a ≠ [] || LogLevel.trace.rank ≤ f.rankForActivity a)

def shows (f : LogFilter) (e : Event) : Bool :=
  e.level.rank ≤ f.rankFor e ||
    e.activity?.any fun a => f.showsActivity a && e.level.rank ≤ f.rankWithin a

/-- The line of an event, if it is shown. -/
def line? (f : LogFilter) (e : Event) : Option String :=
  if f.shows e then
    let before := match e.activity? with
      | some a => if f.showsActivity a then a.text ++ ": " else ""
      | none => ""
    some (e.level.name ++ " " ++ before ++ e.target ++ ": " ++ e.text)
  else none

end LogFilter

end TaggedLibrary
