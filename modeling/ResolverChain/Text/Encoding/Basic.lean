/-
  Encodings of text files, and the ways in which bytes fail to be text.

  * a `Fault` is the first place at which bytes are not text in their encoding;
  * `Encoding` lists the encodings that are built in; `Encoding.coding?` finds one by
    its own name or any of its further names, without regard to case and punctuation; a
    dot counts as punctuation in further names only;
  * a `Charset` is one of these or a further encoding, given by how it decodes;
  * `Codecs` are the encodings of a platform: the one for files in general, and what
    names stand for (`Codecs.ofName?`).
-/
import ResolverChain.Text.Numeral

namespace ResolverChain.Text

/-! ## Faults -/

/-- Why bytes are not text. -/
inductive FaultReason where
  /-- No character begins with this byte. -/
  | startByte
  /-- No character goes on like this. -/
  | continuationByte
  /-- The text ends inside a character. -/
  | endOfData
  /-- The text ends inside a unit. -/
  | truncatedUnit
  /-- A second half of a pair of units without the first. -/
  | loneHalf
  /-- A first half of a pair of units without the second. -/
  | brokenPair
  /-- The byte is not ASCII. -/
  | notAscii
deriving DecidableEq, Repr

/-- What is reported of the reason. -/
def FaultReason.message : FaultReason → String
  | startByte => "invalid start byte"
  | continuationByte => "invalid continuation byte"
  | endOfData => "unexpected end of data"
  | truncatedUnit => "truncated data"
  | loneHalf => "illegal encoding"
  | brokenPair => "illegal UTF-16 surrogate"
  | notAscii => "ordinal not in range(128)"

/-- The first place at which bytes are not text. -/
inductive Fault where
  /-- The bytes at a position, counted in the block that was being decoded. -/
  | invalid (codec : String) (position : Nat) (bytes : List UInt8) (reason : FaultReason)
  /-- The mark that tells the byte order is absent. -/
  | unmarked
  /-- What a further encoding reports in words of its own. -/
  | reported (words : String)
deriving DecidableEq, Repr

/-- What is reported of a fault. -/
def Fault.message : Fault → String
  | invalid codec position bytes reason =>
    let place :=
      match bytes with
      | [b] =>
        "byte 0x" ++ String.ofList (Numeral.padded 16 2 b.toNat) ++
          " in position " ++ Numeral.ofNat position
      | _ =>
        "bytes in position " ++ Numeral.ofNat position ++ "-" ++
          Numeral.ofNat (position + bytes.length - 1)
    "'" ++ codec ++ "' codec can't decode " ++ place ++ ": " ++ reason.message
  | unmarked => "UTF-16 stream does not start with BOM"
  | reported words => words

/-! ## Encodings -/

/-- An encoding of text that is built in. -/
inductive Encoding where
  | utf8
  /-- UTF-8, with an optional mark in front. -/
  | utf8Signed
  /-- UTF-16 in the byte order that a mark in front tells. -/
  | utf16
  | utf16Little
  | utf16Big
  | latin1
  | ascii
deriving DecidableEq, Repr

/-- An encoding of text. -/
inductive Charset where
  | builtIn (encoding : Encoding)
  /-- A further encoding.  It makes of the bytes that reading a file gives the text in
      front of the first block with a fault, and the fault; it is told whether they are
      the whole file. -/
  | further (decode : Bool → List UInt8 → List Char × Option Fault)

instance : Coe Encoding Charset := ⟨.builtIn⟩

/-! ## Names -/

/-- Why a name stands for no encoding of text. -/
inductive EncodingError where
  | unknown (name : String)
  /-- The name is that of a transformation of bytes. -/
  | notText (name : String)
  /-- The name holds the character that ends names. -/
  | embeddedNul
deriving DecidableEq, Repr

/-- What a name can stand for. -/
inductive Coding where
  | text (charset : Charset)
  /-- A transformation of bytes that is no encoding of text. -/
  | transformation

/-- The names of a coding, in lower case and with underscores. -/
structure Coding.Names where
  coding : Coding
  own : String
  further : List String

namespace Encoding

open Coding in
/-- The names of the codings that are built in. -/
def names : List Coding.Names :=
  [⟨text utf8, "utf_8", ["u8", "utf", "utf8", "utf8_ucs2", "utf8_ucs4", "cp65001"]⟩,
    ⟨text utf8Signed, "utf_8_sig", []⟩,
    ⟨text utf16, "utf_16", ["u16", "utf16"]⟩,
    ⟨text utf16Little, "utf_16_le", ["unicodelittleunmarked", "utf_16le"]⟩,
    ⟨text utf16Big, "utf_16_be", ["unicodebigunmarked", "utf_16be"]⟩,
    ⟨text latin1, "latin_1", ["8859", "cp819", "csisolatin1", "ibm819", "iso8859", "iso8859_1",
      "iso_8859_1", "iso_8859_1_1987", "iso_ir_100", "l1", "latin", "latin1"]⟩,
    ⟨text ascii, "ascii", ["646", "ansi_x3.4_1968", "ansi_x3_4_1968", "ansi_x3.4_1986", "cp367",
      "csascii", "ibm367", "iso646_us", "iso_646.irv_1991", "iso_ir_6", "us", "us_ascii"]⟩,
    ⟨transformation, "base64_codec", ["base64", "base_64"]⟩,
    ⟨transformation, "bz2_codec", ["bz2"]⟩,
    ⟨transformation, "hex_codec", ["hex"]⟩,
    ⟨transformation, "quopri_codec", ["quopri", "quoted_printable", "quotedprintable"]⟩,
    ⟨transformation, "rot_13", ["rot13"]⟩,
    ⟨transformation, "uu_codec", ["uu"]⟩,
    ⟨transformation, "zlib_codec", ["zip", "zlib"]⟩]

/-- Whether the character counts in a name. -/
def isNameChar (c : Char) : Bool := c.isAlphanum || c == '.'

/-- A name in lower case, with one underscore for each stretch of punctuation
    inside it. -/
def canonicalName (name : String) : String :=
  let words := (name.toList.splitOnP (!isNameChar ·)).filter (!·.isEmpty)
  String.ofList (['_'].intercalate (words.map (·.map Char.toLower)))

/-- A name with underscores for its dots. -/
def withoutDots (name : String) : String := name.map fun c => if c = '.' then '_' else c

/-- The coding that is built in under a name in lower case. -/
def coding? (canonical : String) : Option Coding :=
  let isNamed (known : Coding.Names) :=
    known.own == canonical || known.further.contains canonical ||
      known.further.contains (withoutDots canonical)
  (names.find? isNamed).map (·.coding)

end Encoding

/-- The encodings of a platform. -/
structure Codecs where
  /-- The encoding of files for which none is asked for. -/
  platform : Charset := .builtIn .utf8
  /-- The encoding that the name `locale` stands for. -/
  locale : Charset := .builtIn .utf8
  /-- What names stand for besides those of the codings that are built in. -/
  further? : String → Option Coding := fun _ => none

namespace Codecs

/-- The encoding with a name. -/
def ofName? (codecs : Codecs) (name : String) : Except EncodingError Charset :=
  if name.toList.contains '\x00' then .error .embeddedNul
  else if name = "locale" then .ok codecs.locale
  else
    match (Encoding.coding? (Encoding.canonicalName name)).or (codecs.further? name) with
    | some (.text charset) => .ok charset
    | some .transformation => .error (.notText name)
    | none => .error (.unknown name)

/-- The encoding of a file, which may be asked for by name. -/
def charset? (codecs : Codecs) : Option String → Except EncodingError Charset
  | none => .ok codecs.platform
  | some name => codecs.ofName? name

end Codecs

/-- The beginning of a text that takes up so many bytes at most; a replacement
    character stands for a part of a character at its end. -/
def cutTo (size : Nat) : List Char → List Char
  | [] => []
  | c :: cs =>
    if c.utf8Size ≤ size then c :: cutTo (size - c.utf8Size) cs
    else if size = 0 then []
    else ['\uFFFD']

/-- The most bytes of a name that are shown when it is that of a transformation. -/
def maxShownName : Nat := 400

/-- What is reported of a name that stands for no encoding of text. -/
def EncodingError.message : EncodingError → String
  | .unknown name => "unknown encoding: " ++ name
  | .notText name =>
    "'" ++ String.ofList (cutTo maxShownName name.toList) ++
      "' is not a text encoding; use codecs.open() to handle arbitrary codecs"
  | .embeddedNul => "embedded null character"

end ResolverChain.Text
