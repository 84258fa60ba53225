import ModuleDocs.Text.Basic

/-! # UTF-8

    A code point takes one to four bytes.  The lead byte tells how many more
    follow and within which bounds the next one lies; every later one lies
    between 0x80 and 0xBF.  Reading stops at the first byte that no text
    could have there, and reports the bytes of the code point begun.

    Main statement: reading undoes writing (`ofUtf8_utf8`). -/

namespace ModuleDocs.Text

/-- What is wrong with bytes that are not UTF-8. -/
inductive Utf8Cause where
  | badStart
  | badContinuation
  | endOfData
deriving DecidableEq, Repr

/-- Bytes that are not UTF-8: the cause, the index of the first of them and how many they are, and
the value of the first. -/
structure Utf8Fault where
  cause : Utf8Cause
  start : Nat
  count : Nat
  lead : Nat
deriving DecidableEq, Repr

/-- A code point begun: its lead byte and where it stands, how many bytes are read and how many are
owed, the bounds of the next one, and the bits so far. -/
structure Utf8Begun where
  lead : Nat
  start : Nat
  count : Nat := 1
  owed : Nat
  low : Nat := 0x80
  high : Nat := 0xBF
  bits : Nat
deriving DecidableEq, Repr

namespace Utf8Begun

/-- What a byte at a code point's start begins, if it can stand there. -/
def ofLead? (start b : Nat) : Option Utf8Begun :=
  if b ≤ 0x7F then some { lead := b, start, owed := 0, bits := b }
  else if b < 0xC2 then none
  else if b ≤ 0xDF then some { lead := b, start, owed := 1, bits := b - 0xC0 }
  else if b = 0xE0 then some { lead := b, start, owed := 2, low := 0xA0, bits := 0 }
  else if b = 0xED then some { lead := b, start, owed := 2, high := 0x9F, bits := 0xD }
  else if b ≤ 0xEF then some { lead := b, start, owed := 2, bits := b - 0xE0 }
  else if b = 0xF0 then some { lead := b, start, owed := 3, low := 0x90, bits := 0 }
  else if b ≤ 0xF3 then some { lead := b, start, owed := 3, bits := b - 0xF0 }
  else if b = 0xF4 then some { lead := b, start, owed := 3, high := 0x8F, bits := 4 }
  else none

/-- The code point with one more byte, if the byte lies within the bounds. -/
def next? (p : Utf8Begun) (b : Nat) : Option Utf8Begun :=
  if p.low ≤ b ∧ b ≤ p.high then
    some { p with
      count := p.count + 1, owed := p.owed - 1, low := 0x80, high := 0xBF
      bits := p.bits * 0x40 + (b - 0x80) }
  else none

/-- The bytes of a code point that cannot go on. -/
def fault (p : Utf8Begun) (cause : Utf8Cause) : Utf8Fault := ⟨cause, p.start, p.count, p.lead⟩

end Utf8Begun

/-- Reads bytes from the index `i` on, with `begun` a code point that owes bytes. -/
def ofUtf8From (begun : Option Utf8Begun) (i : Nat) : List UInt8 → Except Utf8Fault Text
  | [] =>
    match begun with
    | none => .ok []
    | some p => .error (p.fault .endOfData)
  | b :: bytes =>
    let b := b.toNat
    match begun with
    | none =>
      match Utf8Begun.ofLead? i b with
      | none => .error ⟨.badStart, i, 1, b⟩
      | some p =>
        if p.owed = 0 then (Char.ofNat p.bits :: ·) <$> ofUtf8From none (i + 1) bytes
        else ofUtf8From (some p) (i + 1) bytes
    | some p =>
      match p.next? b with
      | none => .error (p.fault .badContinuation)
      | some p =>
        if p.owed = 0 then (Char.ofNat p.bits :: ·) <$> ofUtf8From none (i + 1) bytes
        else ofUtf8From (some p) (i + 1) bytes

/-- The text of UTF-8 bytes. -/
def ofUtf8 (bytes : List UInt8) : Except Utf8Fault Text := ofUtf8From none 0 bytes

/-- The bytes of the code point `n`. -/
def utf8Bytes (n : Nat) : List Nat :=
  if n < 0x80 then [n]
  else if n < 0x800 then [0xC0 + n / 0x40, 0x80 + n % 0x40]
  else if n < 0x10000 then [0xE0 + n / 0x1000, 0x80 + n / 0x40 % 0x40, 0x80 + n % 0x40]
  else
    [0xF0 + n / 0x40000, 0x80 + n / 0x1000 % 0x40, 0x80 + n / 0x40 % 0x40, 0x80 + n % 0x40]

/-- The UTF-8 bytes of a text. -/
def utf8 (t : Text) : List UInt8 := t.flatMap fun c => (utf8Bytes c.toNat).map UInt8.ofNat

/-! ## Reading back -/

/-- A code point is no surrogate and at most 0x10FFFF. -/
theorem toNat_bounds (c : Char) :
    c.toNat < 0xD800 ∨ (0xDFFF < c.toNat ∧ c.toNat < 0x110000) := c.valid

/-- A continuation byte within the bounds. -/
theorem next?_eq {p : Utf8Begun} {b : Nat} (hl : p.low ≤ b) (hh : b ≤ p.high) :
    p.next? b = some { p with
      count := p.count + 1, owed := p.owed - 1, low := 0x80, high := 0xBF
      bits := p.bits * 0x40 + (b - 0x80) } := by
  simp [Utf8Begun.next?, hl, hh]

/-- A lead byte begins a code point. -/
theorem ofUtf8From_lead {p : Utf8Begun} {i b : Nat} {bytes : List UInt8} (hb : b < 256)
    (h : Utf8Begun.ofLead? i b = some p) (ho : p.owed ≠ 0) :
    ofUtf8From none i (UInt8.ofNat b :: bytes) = ofUtf8From (some p) (i + 1) bytes := by
  have hbyte : (UInt8.ofNat b).toNat = b := by simp; omega
  rw [ofUtf8From]
  simp only [hbyte, h, if_neg ho]

/-- A byte goes on with a code point that owes more than one. -/
theorem ofUtf8From_more {p : Utf8Begun} {i b : Nat} {bytes : List UInt8} (hb : b < 256)
    (hl : p.low ≤ b) (hh : b ≤ p.high) (ho : 2 ≤ p.owed) :
    ofUtf8From (some p) i (UInt8.ofNat b :: bytes) =
      ofUtf8From (some { p with
        count := p.count + 1, owed := p.owed - 1, low := 0x80, high := 0xBF
        bits := p.bits * 0x40 + (b - 0x80) }) (i + 1) bytes := by
  have hbyte : (UInt8.ofNat b).toNat = b := by simp; omega
  rw [ofUtf8From]
  simp only [hbyte, next?_eq hl hh]
  rw [if_neg (by omega)]

/-- A byte completes a code point that owes one. -/
theorem ofUtf8From_last {p : Utf8Begun} {i b : Nat} {bytes : List UInt8} (hb : b < 256)
    (hl : p.low ≤ b) (hh : b ≤ p.high) (ho : p.owed = 1) :
    ofUtf8From (some p) i (UInt8.ofNat b :: bytes) =
      (Char.ofNat (p.bits * 0x40 + (b - 0x80)) :: ·) <$> ofUtf8From none (i + 1) bytes := by
  have hbyte : (UInt8.ofNat b).toNat = b := by simp; omega
  rw [ofUtf8From]
  simp only [hbyte, next?_eq hl hh]
  rw [if_pos (by omega)]

/-- The lead byte of three, for a code point that is no surrogate: the byte behind it is within the
bounds that the lead sets. -/
theorem exists_begun_three (n i : Nat) (hlow : 0x800 ≤ n) (hhigh : n < 0x10000)
    (hvalid : n < 0xD800 ∨ 0xDFFF < n) :
    ∃ p, Utf8Begun.ofLead? i (0xE0 + n / 0x1000) = some p ∧ p.owed = 2 ∧ p.bits = n / 0x1000 ∧
      p.low ≤ 0x80 + n / 0x40 % 0x40 ∧ 0x80 + n / 0x40 % 0x40 ≤ p.high := by
  rw [Utf8Begun.ofLead?, if_neg (by omega), if_neg (by omega), if_neg (by omega)]
  by_cases hfirst : 0xE0 + n / 0x1000 = 0xE0
  · rw [if_pos hfirst]
    exact ⟨_, rfl, rfl, by simp; omega, by simp; omega, by simp; omega⟩
  · rw [if_neg hfirst]
    -- behind this lead the upper half of the bytes would make surrogates
    by_cases hsurrogates : 0xE0 + n / 0x1000 = 0xED
    · rw [if_pos hsurrogates]
      exact ⟨_, rfl, rfl, by simp; omega, by simp, by simp; omega⟩
    · rw [if_neg hsurrogates, if_pos (by omega)]
      exact ⟨_, rfl, rfl, by simp, by simp, by simp; omega⟩

/-- The lead byte of four. -/
theorem exists_begun_four (n i : Nat) (hlow : 0x10000 ≤ n) (hhigh : n < 0x110000) :
    ∃ p, Utf8Begun.ofLead? i (0xF0 + n / 0x40000) = some p ∧ p.owed = 3 ∧ p.bits = n / 0x40000 ∧
      p.low ≤ 0x80 + n / 0x1000 % 0x40 ∧ 0x80 + n / 0x1000 % 0x40 ≤ p.high := by
  rw [Utf8Begun.ofLead?, if_neg (by omega), if_neg (by omega), if_neg (by omega),
    if_neg (by omega), if_neg (by omega), if_neg (by omega)]
  by_cases hfirst : 0xF0 + n / 0x40000 = 0xF0
  · rw [if_pos hfirst]
    exact ⟨_, rfl, rfl, by simp; omega, by simp; omega, by simp; omega⟩
  · rw [if_neg hfirst]
    by_cases hmiddle : 0xF0 + n / 0x40000 ≤ 0xF3
    · rw [if_pos hmiddle]
      exact ⟨_, rfl, rfl, by simp, by simp, by simp; omega⟩
    · rw [if_neg hmiddle, if_pos (by omega)]
      exact ⟨_, rfl, rfl, by simp; omega, by simp, by simp; omega⟩

/-- The bytes of a code point are read as that code point. -/
theorem ofUtf8From_utf8Bytes (c : Char) (i : Nat) (bytes : List UInt8) :
    ofUtf8From none i ((utf8Bytes c.toNat).map UInt8.ofNat ++ bytes) =
      (c :: ·) <$> ofUtf8From none (i + (utf8Bytes c.toNat).length) bytes := by
  have hc : Char.ofNat c.toNat = c := Char.ofNat_toNat c
  have hbounds := toNat_bounds c
  generalize c.toNat = n at hc hbounds ⊢
  subst hc
  by_cases h1 : n < 0x80
  · have hbyte : (UInt8.ofNat n).toNat = n := by simp; omega
    have hlead : Utf8Begun.ofLead? i n = some { lead := n, start := i, owed := 0, bits := n } := by
      simp [Utf8Begun.ofLead?]; omega
    simp only [utf8Bytes, if_pos h1, List.map_cons, List.map_nil, List.cons_append, List.nil_append]
    rw [ofUtf8From]
    simp [hbyte, hlead]
  · by_cases h2 : n < 0x800
    · have hlead : Utf8Begun.ofLead? i (0xC0 + n / 0x40) =
          some { lead := 0xC0 + n / 0x40, start := i, owed := 1, bits := n / 0x40 } := by
        rw [Utf8Begun.ofLead?, if_neg (by omega), if_neg (by omega), if_pos (by omega)]
        simp
      simp only [utf8Bytes, if_neg h1, if_pos h2, List.map_cons, List.map_nil, List.cons_append,
        List.nil_append]
      rw [ofUtf8From_lead (by omega) hlead (by simp),
        ofUtf8From_last (by omega) (by simp) (by simp; omega) rfl]
      have hn : n / 0x40 * 0x40 + (0x80 + n % 0x40 - 0x80) = n := by omega
      simp only [hn, List.length_cons, List.length_nil, Nat.add_assoc]
    · by_cases h3 : n < 0x10000
      · obtain ⟨p, hlead, ho, hbits, hlow, hhigh⟩ :=
          exists_begun_three n i (by omega) h3 (by omega)
        simp only [utf8Bytes, if_neg h1, if_neg h2, if_pos h3, List.map_cons, List.map_nil,
          List.cons_append, List.nil_append]
        rw [ofUtf8From_lead (by omega) hlead (by omega),
          ofUtf8From_more (by omega) hlow hhigh (by omega),
          ofUtf8From_last (by omega) (by simp) (by simp; omega) (by simp [ho])]
        have hn : (p.bits * 0x40 + (0x80 + n / 0x40 % 0x40 - 0x80)) * 0x40 +
            (0x80 + n % 0x40 - 0x80) = n := by omega
        simp only [hn, List.length_cons, List.length_nil, Nat.add_assoc]
      · obtain ⟨p, hlead, ho, hbits, hlow, hhigh⟩ := exists_begun_four n i (by omega) (by omega)
        simp only [utf8Bytes, if_neg h1, if_neg h2, if_neg h3, List.map_cons, List.map_nil,
          List.cons_append, List.nil_append]
        rw [ofUtf8From_lead (by omega) hlead (by omega),
          ofUtf8From_more (by omega) hlow hhigh (by omega),
          ofUtf8From_more (by omega) (by simp) (by simp; omega) (by simp; omega),
          ofUtf8From_last (by omega) (by simp) (by simp; omega) (by simp [ho])]
        have hn : ((p.bits * 0x40 + (0x80 + n / 0x1000 % 0x40 - 0x80)) * 0x40 +
            (0x80 + n / 0x40 % 0x40 - 0x80)) * 0x40 + (0x80 + n % 0x40 - 0x80) = n := by omega
        simp only [hn, List.length_cons, List.length_nil, Nat.add_assoc]

/-- Reading undoes writing. -/
theorem ofUtf8_utf8 (t : Text) : ofUtf8 (utf8 t) = .ok t := by
  suffices h : ∀ i, ofUtf8From none i (utf8 t) = .ok t from h 0
  induction t with
  | nil => intro i; rfl
  | cons c t ih =>
      intro i
      have hcons : utf8 (c :: t) = (utf8Bytes c.toNat).map UInt8.ofNat ++ utf8 t := rfl
      rw [hcons, ofUtf8From_utf8Bytes, ih]
      rfl

end ModuleDocs.Text
