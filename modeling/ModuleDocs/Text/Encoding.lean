import ModuleDocs.Text.Case
import ModuleDocs.Text.CodePage.Cyrillic
import ModuleDocs.Text.CodePage.Dos
import ModuleDocs.Text.CodePage.Ebcdic
import ModuleDocs.Text.CodePage.Iso
import ModuleDocs.Text.CodePage.Mac
import ModuleDocs.Text.CodePage.Windows
import ModuleDocs.Text.Escapes
import ModuleDocs.Text.Idna
import ModuleDocs.Text.MultiByte.Shifting
import ModuleDocs.Text.MultiByte.Traditional
import ModuleDocs.Text.Utf7
import ModuleDocs.Text.Utf8

/-! # Encodings

    How the bytes of a file are read as text.  An encoding is chosen by one
    of its names, in which case and punctuation do not count.  Files are read
    with any of the three line ends, each of which becomes a newline. -/

namespace ModuleDocs

/-- A text encoding. -/
inductive Encoding where
  | utf8
  /-- UTF-8 with an optional mark at the start, which is no part of the text. -/
  | utf8Marked
  | utf7
  /-- UTF-16 or UTF-32; without an order the text starts with a mark that tells it. -/
  | wide (size : Text.UnitSize) (order : Option Text.ByteOrder)
  /-- One byte for each of the first 256 code points. -/
  | latin1
  | ascii
  | page (p : CodePage)
  | multiByte (m : MultiByte)
  /-- A byte for each of the first 256 code points, and escapes. -/
  | escapes (raw : Bool)
  | punycode
  /-- Names of hosts, written in ASCII. -/
  | idna
  /-- The encoding in which nothing can be read. -/
  | unreadable

/-- Why bytes are not text. -/
inductive DecodeError where
  | utf8 (fault : Text.Utf8Fault)
  | utf7 (cause : Text.Utf7Cause) (bytes : Text.ByteFault)
  | wide (fault : Text.WideFault)
  /-- Units of some size do not start with a mark. -/
  | noMark (size : Text.UnitSize)
  | notAscii (byte : Text.ByteFault)
  /-- A code page has no character for a byte. -/
  | unmapped (byte : Text.ByteFault)
  /-- A fault in the encoding of a name. -/
  | multiByte (name : Text) (fault : MultiByte.Fault)
  | escapes (fault : Text.EscapeFault)
  | punycode (fault : Text.PunycodeFault)
  | idna (fault : Text.IdnaFault)
  | unreadable
  | unknownEncoding (name : Text)
  /-- The name is that of a conversion of bytes, which is no text encoding. -/
  | notTextual (name : Text)
  /-- The name holds a null character. -/
  | nullInName
deriving DecidableEq, Repr

namespace DecodeError

/-- The wording of a cause in UTF-8. -/
def utf8Message : Text.Utf8Cause → Text
  | .badStart => "invalid start byte"
  | .badContinuation => "invalid continuation byte"
  | .endOfData => "unexpected end of data"

/-- The wording of a cause in UTF-7. -/
def utf7Message : Text.Utf7Cause → Text
  | .special => "unexpected special character"
  | .illFormed => "ill-formed sequence"
  | .partialCharacter => "partial character in shift sequence"
  | .padding => "non-zero padding bits in shift sequence"
  | .unterminated => "unterminated shift sequence"

/-- The wording of a cause in units of two or four bytes. -/
def wideMessage : Text.WideCause → Text
  | .truncated => "truncated data"
  | .endOfData => "unexpected end of data"
  | .loneLow => "illegal encoding"
  | .loneHigh => "illegal UTF-16 surrogate"
  | .surrogate => "code point in surrogate code point range(0xd800, 0xe000)"
  | .tooLarge => "code point not in range(0x110000)"

/-- The wording of a cause in an encoding with several bytes to a character. -/
def multiByteMessage : MultiByte.Cause → Text
  | .illegal => "illegal multibyte sequence"
  | .incomplete => "incomplete multibyte sequence"

/-- The wording of a cause in an escape. -/
def escapeMessage (raw : Bool) : Text.EscapeCause → Text
  | .atEnd => "\\ at end of string"
  | .truncated letter digits =>
    "truncated \\" ++ letter :: List.replicate digits 'X' ++ " escape"
  | .tooLarge => if raw then "\\Uxxxxxxxx out of range" else "illegal Unicode character"
  | .malformedName => "malformed \\N character escape"
  | .unknownName => "unknown Unicode character name"

/-- The number of bits of a unit. -/
def sizeName : Text.UnitSize → Text
  | .two => "16"
  | .four => "32"

/-- The short name of an order. -/
def orderName : Text.ByteOrder → Text
  | .little => "le"
  | .big => "be"

/-- The wording for bytes that cannot be read. -/
def undecodable (encoding : Text) (bytes : Text.ByteFault) (cause : Text) : Text :=
  "'" ++ encoding ++ "' codec can't decode " ++ bytes.place ++ ": " ++ cause

/-- The wording for a byte that is not ASCII. -/
def notAsciiMessage (byte : Text.ByteFault) : Text :=
  undecodable "ascii" byte "ordinal not in range(128)"

/-- The wording of a fault in Punycode. -/
def punycodeMessage : Text.PunycodeFault → Text
  | .notAscii byte => notAsciiMessage byte
  | .incomplete => "incomplete punicode string"
  | .noDigit c => "Invalid extended code point '" ++ c :: "'"
  | .tooLarge code => "Invalid character U+" ++ Text.hex 0 code

/-- A code point between quotes; one that is no character is always written as an escape. -/
def quotedCode (code : Nat) : Text :=
  if 0xD800 ≤ code ∧ code ≤ 0xDFFF then "'\\u" ++ Text.hex 4 code ++ ['\'']
  else Text.quoted [Char.ofNat code]

/-- The wording of a fault in a name of a host. -/
def nameMessage : Nameprep.Fault → Text
  | .prohibited code => "Invalid character " ++ quotedCode code
  | .mixedDirections => "Violation of BIDI requirement 2"
  | .directionAtEnds => "Violation of BIDI requirement 3"

/-- The wording of a fault in a label. -/
def idnaMessage : Text.IdnaFault → Text
  | .punycode f =>
    "decoding with 'punycode' codec failed (UnicodeError: " ++ punycodeMessage f ++ [')']
  | .name f => nameMessage f
  | .length => "label empty or too long"
  | .start => "Label starts with ACE prefix"
  | .otherwiseWritten label written =>
    "('IDNA does not round-trip', b" ++ Text.quoted label ++ ", b" ++ Text.quoted written ++ [')']

/-- The wording of an error. -/
def message : DecodeError → Text
  | utf8 f => undecodable "utf-8" ⟨f.start, f.count, f.lead⟩ (utf8Message f.cause)
  | utf7 cause bytes => undecodable "utf7" bytes (utf7Message cause)
  | wide f =>
    undecodable ("utf-" ++ sizeName f.size ++ ['-'] ++ orderName f.order) f.bytes
      (wideMessage f.cause)
  | noMark size => "UTF-" ++ sizeName size ++ " stream does not start with BOM"
  | notAscii byte => notAsciiMessage byte
  | unmapped byte => undecodable "charmap" byte "character maps to <undefined>"
  | multiByte name f => undecodable name f.bytes (multiByteMessage f.cause)
  | escapes f =>
    undecodable (if f.raw then "rawunicodeescape" else "unicodeescape") f.bytes
      (escapeMessage f.raw f.cause)
  | punycode f => punycodeMessage f
  | idna f => idnaMessage f
  | unreadable => "undefined encoding"
  | unknownEncoding name => "unknown encoding: " ++ name
  | notTextual name =>
    "'" ++ name ++ "' is not a text encoding; use codecs.open() to handle arbitrary codecs"
  | nullInName => "embedded null character"

end DecodeError

namespace Encoding

/-! ## Names -/

/-- The letters, digits and points of a name, in lower case; `pending` says that something else
stands before the rest. -/
def normalizeFrom (pending : Bool) : Text → Text
  | [] => []
  | c :: t =>
    if c.isAlphanum || c = '.' then
      if pending then '_' :: c.toLower :: normalizeFrom false t
      else c.toLower :: normalizeFrom false t
    else normalizeFrom true t

/-- A name in lower case, with single underscores between its parts and none at its ends. -/
def normalizeName (name : Text) : Text :=
  normalizeFrom false (name.dropWhile fun c => !(c.isAlphanum || c = '.'))

/-- The encodings that are no code pages, each with its name and its other names. -/
def families : List (Encoding × Text × List Text) :=
  [ (utf8, "utf_8",
      ["u8", "utf", "utf8", "utf8_ucs2", "utf8_ucs4", "cp65001"]),
    (utf8Marked, "utf_8_sig", []),
    (utf7, "utf_7", ["u7", "utf7", "unicode_1_1_utf_7"]),
    (wide .two none, "utf_16", ["u16", "utf16"]),
    (wide .two (some .little), "utf_16_le", ["unicodelittleunmarked", "utf_16le"]),
    (wide .two (some .big), "utf_16_be", ["unicodebigunmarked", "utf_16be"]),
    (wide .four none, "utf_32", ["u32", "utf32"]),
    (wide .four (some .little), "utf_32_le", ["utf_32le"]),
    (wide .four (some .big), "utf_32_be", ["utf_32be"]),
    (latin1, "latin_1",
      ["8859", "cp819", "csisolatin1", "ibm819", "iso8859", "iso8859_1", "iso_8859_1",
        "iso_8859_1_1987", "iso_ir_100", "l1", "latin", "latin1"]),
    (latin1, "charmap", []),
    (ascii, "ascii",
      ["646", "ansi_x3.4_1968", "ansi_x3_4_1968", "ansi_x3.4_1986", "cp367", "csascii", "ibm367",
        "iso646_us", "iso_646.irv_1991", "iso_ir_6", "us", "us_ascii"]),
    (escapes false, "unicode_escape", []),
    (escapes true, "raw_unicode_escape", []),
    (punycode, "punycode", []),
    (idna, "idna", []),
    (unreadable, "undefined", []) ]

/-- All code pages. -/
def pages : List CodePage :=
  CodePage.isoPages ++ CodePage.windowsPages ++ CodePage.dosPages ++ CodePage.ebcdicPages ++
    CodePage.macPages ++ CodePage.cyrillicPages

/-- All encodings with several bytes to a character. -/
def multiByteEncodings : List MultiByte :=
  MultiByte.japanese ++ MultiByte.korean ++ MultiByte.simplified ++ MultiByte.traditional ++
    MultiByte.shifting

/-- The conversions of bytes that are no text encodings, each with its name and its other names. -/
def conversions : List (Text × List Text) :=
  [ ("base64_codec", ["base64", "base_64"]),
    ("bz2_codec", ["bz2"]),
    ("hex_codec", ["hex"]),
    ("quopri_codec", ["quopri", "quoted_printable", "quotedprintable"]),
    ("rot_13", ["rot13"]),
    ("uu_codec", ["uu"]),
    ("zlib_codec", ["zip", "zlib"]) ]

/-- All that can be named: encodings, and conversions, which are none. -/
def named : List (Option Encoding × Text × List Text) :=
  families.map (fun e => (some e.1, e.2))
    ++ pages.map (fun p => (some (page p), p.name, p.aliases))
    ++ multiByteEncodings.map (fun m => (some (multiByte m), m.name, m.aliases))
    ++ conversions.map fun names => (none, names)

/-- What a normalized name stands for.  A point in one of the other names counts as an underscore;
the first name holds none. -/
def find? (name : Text) : Option (Option Encoding) :=
  let plain := Text.replaceChar '.' ['_'] name
  let found := (named.find? fun e => e.2.2.contains name).or
    ((named.find? fun e => e.2.2.contains plain).or (named.find? fun e => e.2.1 = name))
  found.map (·.1)

/-- The encoding that a name chooses.  The surroundings, which `locale` stands for, use UTF-8. -/
def ofName (name : Text) : Except DecodeError Encoding :=
  if name.any (· = '\x00') then .error .nullInName
  else if name = "locale" then .ok utf8
  else match find? (normalizeName name) with
    | some (some e) => .ok e
    | some none => .error (.notTextual name)
    | none => .error (.unknownEncoding name)

/-! ## Reading -/

/-- Reads bytes from the index `i` on as ASCII. -/
def readAsciiFrom (i : Nat) : List UInt8 → Except DecodeError Text
  | [] => .ok []
  | b :: bytes =>
    if b.toNat < 0x80 then (Char.ofNat b.toNat :: ·) <$> readAsciiFrom (i + 1) bytes
    else .error (.notAscii ⟨i, 1, b.toNat⟩)

/-- The mark at the start of a marked UTF-8 file. -/
def mark : List UInt8 := [0xEF, 0xBB, 0xBF]

/-- The bytes after the mark; a mark that is not complete is passed over too. -/
def dropMark (bytes : List UInt8) : List UInt8 :=
  if bytes.take 3 = mark.take bytes.length then bytes.drop 3 else bytes

/-- The text of bytes. -/
def decode (e : Encoding) (bytes : List UInt8) : Except DecodeError Text :=
  match e with
  | utf8 => (Text.ofUtf8 bytes).mapError .utf8
  | utf8Marked => (Text.ofUtf8 (dropMark bytes)).mapError .utf8
  | utf7 => (Text.ofUtf7 bytes).mapError fun (cause, bytes) => .utf7 cause bytes
  | wide size (some order) => (size.readFrom order 0 bytes).mapError .wide
  | wide size none => (size.readMarked bytes).mapError fun fault => fault.elim (.noMark size) .wide
  | latin1 => .ok (bytes.map fun b => Char.ofNat b.toNat)
  | ascii => readAsciiFrom 0 bytes
  | page p => (p.read bytes).mapError .unmapped
  | multiByte m => (m.read (bytes.map UInt8.toNat)).mapError (.multiByte m.name)
  | escapes raw => (Text.readEscapesFrom raw 0 0 (bytes.map UInt8.toNat)).mapError .escapes
  | punycode => (Text.ofPunycode (bytes.map UInt8.toNat)).mapError .punycode
  | idna => (readAsciiFrom 0 bytes).bind fun t => (Text.ofIdna t).mapError .idna
  | unreadable => .error .unreadable

end Encoding

namespace Text

/-- The text with a newline for every line end: a carriage return, a newline, or one after the
other. -/
def withNewlines : Text → Text
  | [] => []
  | '\r' :: '\n' :: t => '\n' :: withNewlines t
  | c :: t => (if c = '\r' then '\n' else c) :: withNewlines t

/-- A text without carriage returns is read as it is. -/
theorem withNewlines_eq_self {t : Text} (h : '\r' ∉ t) : withNewlines t = t := by
  fun_induction withNewlines t with
  | case1 => rfl
  | case2 t ih => exact absurd List.mem_cons_self h
  | case3 c t hline ih =>
      have hc : c ≠ '\r' := fun hc => h (hc ▸ List.mem_cons_self)
      rw [if_neg hc, ih fun hm => h (List.mem_cons_of_mem c hm)]

/-- What was read holds no carriage return. -/
theorem not_mem_withNewlines (t : Text) : '\r' ∉ withNewlines t := by
  fun_induction withNewlines t with
  | case1 => exact List.not_mem_nil
  | case2 t ih => simpa using ih
  | case3 c t hline ih =>
      by_cases hc : c = '\r'
      · simpa [hc] using ih
      · simpa [hc, Ne.symm hc] using ih

/-- The text of a file. -/
def ofFile (e : Encoding) (bytes : List UInt8) : Except DecodeError Text :=
  (e.decode bytes).map withNewlines

end Text

end ModuleDocs
