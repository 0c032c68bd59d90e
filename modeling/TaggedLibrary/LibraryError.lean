import TaggedLibrary.Path
import TaggedLibrary.Tag.Error
/-!
Why a library cannot be written, or is not the one that a catalog asks for.
-/

namespace TaggedLibrary

inductive LibraryError where
  /-- the template is missing, or is no regular file -/
  | missingTemplate (path : Path)
  | io (path : Path) (cause : IoError)
  | tag (path : Path) (cause : TagError)
  /-- a file of a kind that has no room for ID3v2 tags -/
  | unsupportedFormat (path : Path)
  | mismatch (path : Path) (field : String) (expected : String) (found : Option String)
deriving Repr, DecidableEq

namespace LibraryError

/-- The error in words. -/
def message : LibraryError → String
  | .missingTemplate path => "template audio file not found: " ++ path.display
  | .io path cause => "I/O error on " ++ path.display ++ ": " ++ cause.message
  | .tag path cause => "failed to write tags to " ++ path.display ++ ": " ++ cause.message
  | .unsupportedFormat path => path.display ++ " is not a format that can hold ID3v2 tags"
  | .mismatch path field expected found =>
    path.display ++ ": expected " ++ field ++ " " ++ Quoted.text expected ++ ", found "
      ++ Quoted.optional found

/-- A name with parts in braces. -/
def record (name : String) (parts : List (String × String)) : String :=
  name ++ " \x7b " ++ ", ".intercalate (parts.map fun (part, value) => part ++ ": " ++ value)
    ++ " \x7d"

/-- The error with all its parts. -/
def detail : LibraryError → String
  | .missingTemplate path => record "MissingTemplate" [("path", path.quoted)]
  | .io path cause => record "Io" [("path", path.quoted), ("source", cause.detail)]
  | .tag path cause => record "Tag" [("path", path.quoted), ("source", cause.detail)]
  | .unsupportedFormat path => record "UnsupportedFormat" [("path", path.quoted)]
  | .mismatch path field expected found =>
    record "VerifyMismatch" [("path", path.quoted), ("field", Quoted.text field),
      ("expected", Quoted.text expected), ("found", Quoted.optional found)]

end LibraryError

end TaggedLibrary
