import TaggedLibrary.Tag.Id3v2.Header
import TaggedLibrary.TrackTags
/-!
Writing ID3v2 tags: one of version 2.4 for a track, and the rest of a file behind an old one.
-/

namespace TaggedLibrary.Id3v2

/-- Sizes are written in four groups of seven bits. -/
def sizeLimit : Nat := 2 ^ 28

/-- Room that is left behind the frames. -/
def padding : Nat := 1024

/-- A frame of text in UTF-8. -/
def textFrameBytes (id value : String) : Bytes :=
  Utf8.encode id ++ toSevenBits ((Utf8.encode value).length + 1) ++ [0, 0, 3] ++ Utf8.encode value

/-- The frames of a track, each with its text as it is given. -/
def trackFrames (t : TrackTags) : List (String × String) :=
  [("TIT2", t.title), ("TPE1", t.artist), ("TPE2", t.albumArtist), ("TALB", t.album),
   ("TDRC", t.year), ("TCON", t.genre), ("TRCK", t.trackField), ("TPOS", t.discField)]

def frameBytes (t : TrackTags) : Bytes :=
  (trackFrames t).flatMap fun (id, value) => textFrameBytes id value

/-- A tag of version 2.4 that holds a track's frames and room for more. -/
def tagBytes (t : TrackTags) : Bytes :=
  let frames := frameBytes t
  marker ++ [4, 0, 0] ++ toSevenBits (frames.length + padding) ++ frames
    ++ List.replicate padding 0

/-- A tag, if it can be written at all. -/
def encode (t : TrackTags) : Except TagError Bytes :=
  if (frameBytes t).length + padding < sizeLimit then .ok (tagBytes t) else .error .tooMuchData

/-- What follows a tag at the very front. An extended header, which the size counts too, is passed
over a second time. Where no tag can be read, the rest begins as far before the place where the
reading stopped as a header is long. -/
def dropTag (file : Bytes) : Except TagError Bytes :=
  match readHeader.run file with
  | (.ok header, rest) =>
    .ok (rest.drop (header.size + if header.footer then headerSize else 0))
  | (.error _, rest) =>
    let stop := file.length - rest.length
    if stop < headerSize then .error (.io .invalidArgument)
    else .ok (file.drop (stop - headerSize))

end TaggedLibrary.Id3v2
