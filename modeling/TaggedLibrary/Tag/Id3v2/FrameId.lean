import TaggedLibrary.Tag.Id3v2.Header
/-!
Names of frames. Older versions had other names for some; they are read as the names of today.
-/

namespace TaggedLibrary.Id3v2

/-- Names of three letters and what they became. -/
def namesOfV2 : List (String × String) :=
  [("BUF", "RBUF"), ("CNT", "PCNT"), ("COM", "COMM"), ("CRA", "AENC"), ("ETC", "ETCO"),
   ("GEO", "GEOB"), ("IPL", "TIPL"), ("MCI", "MCDI"), ("MLL", "MLLT"), ("PIC", "APIC"),
   ("POP", "POPM"), ("REV", "RVRB"), ("SLT", "SYLT"), ("STC", "SYTC"), ("TAL", "TALB"),
   ("TBP", "TBPM"), ("TCM", "TCOM"), ("TCO", "TCON"), ("TCP", "TCMP"), ("TCR", "TCOP"),
   ("TDY", "TDLY"), ("TEN", "TENC"), ("TFT", "TFLT"), ("TKE", "TKEY"), ("TLA", "TLAN"),
   ("TLE", "TLEN"), ("TMT", "TMED"), ("TOA", "TOPE"), ("TOF", "TOFN"), ("TOL", "TOLY"),
   ("TOR", "TDOR"), ("TOT", "TOAL"), ("TP1", "TPE1"), ("TP2", "TPE2"), ("TP3", "TPE3"),
   ("TP4", "TPE4"), ("TPA", "TPOS"), ("TPB", "TPUB"), ("TRC", "TSRC"), ("TRD", "TDRC"),
   ("TRK", "TRCK"), ("TS2", "TSO2"), ("TSA", "TSOA"), ("TSC", "TSOC"), ("TSP", "TSOP"),
   ("TSS", "TSSE"), ("TST", "TSOT"), ("TT1", "TIT1"), ("TT2", "TIT2"), ("TT3", "TIT3"),
   ("TXT", "TEXT"), ("TXX", "TXXX"), ("TYE", "TDRC"), ("UFI", "UFID"), ("ULT", "USLT"),
   ("WAF", "WOAF"), ("WAR", "WOAR"), ("WAS", "WOAS"), ("WCM", "WCOM"), ("WCP", "WCOP"),
   ("WPB", "WPUB"), ("WXX", "WXXX"), ("GP1", "GRP1"), ("MVI", "MVIN"), ("MVN", "MVNM"),
   ("PCS", "PCST"), ("TCT", "TCAT"), ("TDR", "TDRL"), ("TDS", "TDES"), ("TID", "TGID"),
   ("TKW", "TKWD"), ("WFD", "WFED")]

/-- Names of version 2.3 that were replaced. -/
def namesOfV3 : List (String × String) := [("TORY", "TDOR"), ("TYER", "TDRC"), ("IPLS", "TIPL")]

def rename (table : List (String × String)) (id : String) : String := (table.lookup id).getD id

/-- A name consists of capitals and digits. -/
def isNameByte (b : UInt8) : Bool := (0x41 ≤ b && b ≤ 0x5A) || (0x30 ≤ b && b ≤ 0x39)

/-- The text of a name. -/
def idText? (b : Bytes) : Option String :=
  if b.all isNameByte then some (String.ofList (b.map fun x => Char.ofNat x.toNat)) else none

end TaggedLibrary.Id3v2
