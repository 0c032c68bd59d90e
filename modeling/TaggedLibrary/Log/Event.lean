import TaggedLibrary.LibraryError
/-!
What a run reports while it goes on. An event has a level, comes from a part of the program, and
may have happened within an activity, which is named in front of it.
-/

namespace TaggedLibrary

/-- How much detail an event adds, from the least on. -/
inductive LogLevel where
  | error
  | warn
  | info
  | debug
  | trace
deriving Repr, DecidableEq

namespace LogLevel

def name : LogLevel → String
  | .error => "ERROR"
  | .warn => "WARN"
  | .info => "INFO"
  | .debug => "DEBUG"
  | .trace => "TRACE"

/-- A filter of rank `n` lets through the levels of rank at most `n`. -/
def rank : LogLevel → Nat
  | .error => 1
  | .warn => 2
  | .info => 3
  | .debug => 4
  | .trace => 5

end LogLevel

/-- The value of a field of an activity. -/
inductive FieldValue where
  | path (p : Path)
  | text (s : String)
deriving Repr, DecidableEq

namespace FieldValue

/-- The value as it is shown. -/
def shown : FieldValue → String
  | .path p => p.quoted
  | .text s => Quoted.text s

/-- The value as patterns see it: a path with its quotes, a text without. -/
def matched : FieldValue → String
  | .path p => p.quoted
  | .text s => s

end FieldValue

/-- An activity whose failure is reported as it fails. -/
inductive Activity where
  | makeAlbumDirectory (root : Path) (artist album : String)
  | copyTrack (source dest : Path)
  | writeTags (path : Path)
deriving Repr, DecidableEq

namespace Activity

def name : Activity → String
  | .makeAlbumDirectory .. => "ensure_album_directory"
  | .copyTrack .. => "copy_track"
  | .writeTags _ => "write_tags"

/-- The part of the program it belongs to. -/
def target : Activity → String
  | .makeAlbumDirectory .. | .copyTrack .. => "gen_sample_music::fixture"
  | .writeTags _ => "gen_sample_music::tags"

/-- What an activity works on. -/
def fields : Activity → List (String × FieldValue)
  | .makeAlbumDirectory root artist album =>
    [("dest_root", .path root), ("artist", .text artist), ("album", .text album)]
  | .copyTrack source dest => [("source", .path source), ("dest", .path dest)]
  | .writeTags path => [("path", .path path)]

/-- The activity with what it works on. -/
def text (a : Activity) : String :=
  a.name ++ "\x7b" ++ " ".intercalate (a.fields.map fun (name, v) => name ++ "=" ++ v.shown)
    ++ "\x7d"

end Activity

inductive Event where
  | settingsLoaded (source destination : Path)
  | started (albums tracks : Nat) (template : Path)
  | albumStarted (artist title : String) (tracks : Nat)
  | tagged (path : Path)
  | failed (activity : Activity) (error : LibraryError)
  | verified (checked extra : Nat)
  | matched (checked : Nat)
deriving Repr, DecidableEq

namespace Event

def level : Event → LogLevel
  | .settingsLoaded .. | .tagged _ | .verified .. => .debug
  | .started .. | .albumStarted .. | .matched _ => .info
  | .failed .. => .error

/-- The part of the program it comes from. -/
def target : Event → String
  | .settingsLoaded .. => "gen_sample_music::runtime::startup"
  | .started .. | .albumStarted .. | .tagged _ => "gen_sample_music::generate"
  | .failed activity _ => activity.target
  | .verified .. => "gen_sample_music::library::verify"
  | .matched _ => "gen_sample_music"

def activity? : Event → Option Activity
  | .failed activity _ => some activity
  | _ => none

/-- The names of what is said about it. -/
def fields : Event → List String
  | .settingsLoaded .. => ["message", "source", "destination"]
  | .started .. => ["message", "albums", "tracks", "template"]
  | .albumStarted .. => ["message", "artist", "album", "tracks"]
  | .tagged _ => ["message", "path"]
  | .failed .. => ["error"]
  | .verified .. => ["message", "checked", "extra"]
  | .matched _ => ["message", "checked"]

/-- What happened. -/
def text : Event → String
  | .settingsLoaded source destination =>
    "loaded settings source=" ++ source.display ++ " destination=" ++ destination.display
  | .started albums tracks template =>
    "generating sample library albums=" ++ Numeral.text albums ++ " tracks=" ++ Numeral.text tracks
      ++ " template=" ++ template.display
  | .albumStarted artist title tracks =>
    "writing album artist=" ++ Quoted.text artist ++ " album=" ++ Quoted.text title ++ " tracks="
      ++ Numeral.text tracks
  | .tagged path => "tagged path=" ++ path.display
  | .failed _ error => "error=" ++ error.message
  | .verified checked extra =>
    "verified generated library checked=" ++ Numeral.text checked ++ " extra=" ++ Numeral.text extra
  | .matched checked => "generated library matches catalog checked=" ++ Numeral.text checked

end Event

end TaggedLibrary
