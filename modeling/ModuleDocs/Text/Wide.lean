import ModuleDocs.Text.ByteFault

/-! # Code units of two or four bytes

    UTF-16 writes a code point as one unit of two bytes, or as a pair of
    surrogates, the high half first; UTF-32 writes it as one unit of four
    bytes.  The bytes of a unit come in one of two orders.  Without a given
    order the text starts with a mark that tells it. -/

namespace ModuleDocs.Text

/-- How many bytes a code unit takes. -/
inductive UnitSize where
  | two
  | four
deriving DecidableEq, Repr

/-- Which byte of a unit comes first: the lowest or the highest. -/
inductive ByteOrder where
  | little
  | big
deriving DecidableEq, Repr

/-- What is wrong with code units. -/
inductive WideCause where
  /-- The last unit is not complete. -/
  | truncated
  /-- The text ends after the high half of a pair. -/
  | endOfData
  /-- A low half without a high half before it. -/
  | loneLow
  /-- A high half without a low half after it. -/
  | loneHigh
  /-- A unit of four bytes that is half of a pair. -/
  | surrogate
  /-- A unit of four bytes above all code points. -/
  | tooLarge
deriving DecidableEq, Repr

/-- A fault in code units. -/
structure WideFault where
  size : UnitSize
  order : ByteOrder
  cause : WideCause
  bytes : ByteFault
deriving DecidableEq, Repr

/-- The number that bytes stand for, the lowest first. -/
def fromLittle : List UInt8 → Nat
  | [] => 0
  | b :: bytes => b.toNat + 0x100 * fromLittle bytes

/-- The number that bytes stand for. -/
def ByteOrder.number (order : ByteOrder) (bytes : List UInt8) : Nat :=
  match order with
  | .little => fromLittle bytes
  | .big => fromLittle bytes.reverse

/-- Whether a number is the high half of a pair. -/
def isHighHalf (n : Nat) : Bool := 0xD800 ≤ n && n ≤ 0xDBFF

/-- Whether a number is the low half of a pair. -/
def isLowHalf (n : Nat) : Bool := 0xDC00 ≤ n && n ≤ 0xDFFF

/-- The character that the two halves of a pair stand for. -/
def ofHalves (high low : Nat) : Char :=
  Char.ofNat (0x10000 + (high - 0xD800) * 0x400 + (low - 0xDC00))

/-- Reads units of two bytes from the index `i` on. -/
def ofUtf16From (order : ByteOrder) (i : Nat) : List UInt8 → Except WideFault Text
  | [] => .ok []
  | [a] => .error ⟨.two, order, .truncated, ⟨i, 1, a.toNat⟩⟩
  | a :: b :: bytes =>
    let n := order.number [a, b]
    let fault (cause : WideCause) (count : Nat) : Except WideFault Text :=
      .error ⟨.two, order, cause, ⟨i, count, a.toNat⟩⟩
    if isLowHalf n then fault .loneLow 2
    else if isHighHalf n then
      match bytes with
      | c :: d :: bytes =>
        let low := order.number [c, d]
        if isLowHalf low then (ofHalves n low :: ·) <$> ofUtf16From order (i + 4) bytes
        else fault .loneHigh 2
      | bytes => fault .endOfData (2 + bytes.length)
    else (Char.ofNat n :: ·) <$> ofUtf16From order (i + 2) bytes

/-- Reads units of four bytes from the index `i` on. -/
def ofUtf32From (order : ByteOrder) (i : Nat) : List UInt8 → Except WideFault Text
  | [] => .ok []
  | a :: b :: c :: d :: bytes =>
    let n := order.number [a, b, c, d]
    let fault (cause : WideCause) : Except WideFault Text :=
      .error ⟨.four, order, cause, ⟨i, 4, a.toNat⟩⟩
    if isHighHalf n || isLowHalf n then fault .surrogate
    else if 0x110000 ≤ n then fault .tooLarge
    else (Char.ofNat n :: ·) <$> ofUtf32From order (i + 4) bytes
  | a :: bytes => .error ⟨.four, order, .truncated, ⟨i, 1 + bytes.length, a.toNat⟩⟩

/-- Reads units from the index `i` on. -/
def UnitSize.readFrom (size : UnitSize) (order : ByteOrder) (i : Nat) (bytes : List UInt8) :
    Except WideFault Text :=
  match size with
  | .two => ofUtf16From order i bytes
  | .four => ofUtf32From order i bytes

/-- The mark at the start of a text, by the order that it tells. -/
def UnitSize.mark (size : UnitSize) (order : ByteOrder) : List UInt8 :=
  match size, order with
  | .two, .little => [0xFF, 0xFE]
  | .two, .big => [0xFE, 0xFF]
  | .four, .little => [0xFF, 0xFE, 0, 0]
  | .four, .big => [0, 0, 0xFE, 0xFF]

/-- The order that the mark at the start of a text tells. -/
def UnitSize.markedOrder? (size : UnitSize) (bytes : List UInt8) : Option ByteOrder :=
  [ByteOrder.little, .big].find? fun order => (size.mark order).isPrefixOf bytes

/-- Reads a text that starts with a mark.  The fault of a text without one is none when its units
can be read as they stand. -/
def UnitSize.readMarked (size : UnitSize) (bytes : List UInt8) :
    Except (Option WideFault) Text :=
  match size.markedOrder? bytes with
  | some order =>
    let mark := size.mark order
    (size.readFrom order mark.length (bytes.drop mark.length)).mapError some
  | none =>
    match size.readFrom .little 0 bytes with
    | .error fault => .error (some fault)
    | .ok [] => .ok []
    | .ok (_ :: _) => .error none

end ModuleDocs.Text
