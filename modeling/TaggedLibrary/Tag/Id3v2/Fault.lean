import TaggedLibrary.Text.Quoted
import TaggedLibrary.Decimal.Numeral
/-!
What can be wrong with an ID3v2 tag, apart from the texts in it.
-/

namespace TaggedLibrary.Id3v2

inductive Fault where
  | version (major minor : Nat)
  /-- a tag of version 2.2 that says it is compressed -/
  | compressedTag
  | extendedHeader
  /-- a frame that ends before its content begins -/
  | frameLength
  | encryptedWithoutLength
  /-- an encoding that version 2.2 does not have -/
  | encoding
  /-- a kind of image that version 2.2 does not have -/
  | pictureFormat (format : String)
  /-- a text of the user's that is no UTF-16 -/
  | userText
  /-- a unit of time that is not known -/
  | timeUnit
deriving Repr, DecidableEq

namespace Fault

def message : Fault → String
  | .version major minor =>
    "Found an invalid version (v" ++ Numeral.text major ++ "." ++ Numeral.text minor
      ++ "), expected any major revision in: (2, 3, 4)"
  | .compressedTag => "Encountered a compressed ID3v2.2 tag"
  | .extendedHeader => "Found an extended header with an invalid size"
  | .frameLength => "Frame isn't long enough to extract the necessary information"
  | .encryptedWithoutLength => "Encountered an encrypted frame without a data length indicator"
  | .encoding => "ID3v2.2 only supports Latin-1 and UTF-16 encodings"
  | .pictureFormat format => "Picture: Found unexpected format " ++ Quoted.text format
  | .userText => "Encountered invalid data in SYLT frame"
  | .timeUnit => "Encountered an invalid timestamp format in a synchronized frame"

/-- The fault by its name and parts. -/
def detail : Fault → String
  | .version major minor =>
    "BadId3v2Version(" ++ Numeral.text major ++ ", " ++ Numeral.text minor ++ ")"
  | .compressedTag => "V2Compression"
  | .extendedHeader => "BadExtendedHeaderSize"
  | .frameLength => "BadFrameLength"
  | .encryptedWithoutLength => "MissingDataLengthIndicator"
  | .encoding => "V2InvalidTextEncoding"
  | .pictureFormat format => "BadPictureFormat(" ++ Quoted.text format ++ ")"
  | .userText => "BadSyncText"
  | .timeUnit => "BadTimestampFormat"

end Fault

end TaggedLibrary.Id3v2
