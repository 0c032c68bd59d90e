import TaggedLibrary.FileTree.Cause
import TaggedLibrary.Tag.Id3v2.Fault
/-!
Why the tags of a file cannot be read or written.
-/

namespace TaggedLibrary

inductive TagError where
  | io (cause : IoError)
  | unknownFormat
  | unsupportedTag
  /-- the beginning of a tag, and then something else -/
  | fakeTag
  | textDecode (what : String)
  | badTimestamp (what : String)
  | tooMuchData
  | sizeMismatch
  | id3v2 (fault : Id3v2.Fault)
  | notPicture
  /-- a date that is no UTF-8 from a place on, with the length of what is broken there -/
  | notUtf8 (place : Nat) (length : Option Nat)
  /-- a file that is not what its name says, with the format's name -/
  | malformed (format what : String)
deriving Repr, DecidableEq

namespace TagError

def endOfFile : TagError := .io .endOfFile

def message : TagError → String
  | .io cause => cause.message
  | .unknownFormat => "No format could be determined from the provided file"
  | .unsupportedTag => "Attempted to write a tag to a format that does not support it"
  | .fakeTag => "Reading: Expected a tag, found invalid data"
  | .textDecode what => "Text decoding: " ++ what
  | .badTimestamp what => "Encountered an invalid timestamp: " ++ what
  | .tooMuchData => "Attempted to read/write an abnormally large amount of data"
  | .sizeMismatch => "Encountered an invalid item size, either too big or too small to be valid"
  | .id3v2 fault => "ID3v2: " ++ fault.message
  | .notPicture => "Picture: Encountered invalid data"
  | .notUtf8 place (some length) =>
    "invalid utf-8 sequence of " ++ Numeral.text length ++ " bytes from index "
      ++ Numeral.text place
  | .notUtf8 place none => "incomplete utf-8 byte sequence from index " ++ Numeral.text place
  | .malformed format what => format ++ ": " ++ what

/-- The error by its name and parts. -/
def detail : TagError → String
  | .io cause => "Io(" ++ cause.detail ++ ")"
  | .unknownFormat => "UnknownFormat"
  | .unsupportedTag => "UnsupportedTag"
  | .fakeTag => "FakeTag"
  | .textDecode what => "TextDecode(" ++ Quoted.text what ++ ")"
  | .badTimestamp what => "BadTimestamp(" ++ Quoted.text what ++ ")"
  | .tooMuchData => "TooMuchData"
  | .sizeMismatch => "SizeMismatch"
  | .id3v2 fault => "Id3v2(ID3v2: " ++ fault.detail ++ ")"
  | .notPicture => "NotAPicture"
  | .notUtf8 place length =>
    "StrFromUtf8(Utf8Error \x7b valid_up_to: " ++ Numeral.text place ++ ", error_len: "
      ++ (match length with
        | some n => "Some(" ++ Numeral.text n ++ ")"
        | none => "None") ++ " \x7d)"
  | .malformed format what => "FileDecoding(" ++ format ++ ": " ++ Quoted.text what ++ ")"

/-- What succeeds has succeeded in all its parts. -/
theorem bind_ok {α β : Type} {x : Except TagError α} {f : α → Except TagError β} {y : β}
    (h : (x >>= f) = .ok y) : ∃ a, x = .ok a ∧ f a = .ok y := by
  cases x with
  | error e => cases h
  | ok a => exact ⟨a, rfl, h⟩

end TagError

end TaggedLibrary
