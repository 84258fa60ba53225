import ModuleDocs.Text.ByteFault
import ModuleDocs.Text.CharGrid

/-! # Encodings with several bytes to a character

    A text is read from its start, a few bytes at a time.  What the bytes
    stand for may depend on a state, such as the character set that is in
    use.

    Main statement: where pairs start with bytes that are no ASCII, ASCII
    reads as itself (`readFrom_asciiOrPair`). -/

namespace ModuleDocs

namespace MultiByte

/-- What is wrong with bytes: there is no such sequence, or it is not complete. -/
inductive Cause where
  | illegal
  | incomplete
deriving DecidableEq, Repr

/-- Bytes that cannot be read. -/
structure Fault where
  cause : Cause
  bytes : Text.ByteFault
deriving DecidableEq, Repr

/-- What the next bytes are: a text, how many bytes it takes and the state after it; or so many
bytes that make no sequence; or the start of a sequence that breaks off. -/
inductive Step (σ : Type) where
  | read (t : Text) (count : Nat) (state : σ)
  | illegal (count : Nat)
  | incomplete

/-- Reads bytes step by step from the index `i` on.  The next `skip` bytes belong to the step
before; a step takes at least one byte. -/
def readFrom {σ : Type} (step : σ → List Nat → Step σ) (state : σ) (i skip : Nat) :
    List Nat → Except Fault Text
  | [] => .ok []
  | b :: bytes =>
    match skip with
    | skip + 1 => readFrom step state (i + 1) skip bytes
    | 0 =>
      match step state (b :: bytes) with
      | .read t count state => (t ++ ·) <$> readFrom step state (i + 1) (count - 1) bytes
      | .illegal count => .error ⟨.illegal, ⟨i, count, b⟩⟩
      | .incomplete => .error ⟨.incomplete, ⟨i, bytes.length + 1, b⟩⟩

/-- Reads bytes step by step where nothing but the bytes counts. -/
def readPlainly (step : List Nat → Step Unit) (bytes : List Nat) : Except Fault Text :=
  readFrom (fun _ => step) () 0 0 bytes

/-- The step that reads a text in so many bytes; without a text the first `wrong` bytes are at
fault. -/
def Step.ofText? (count wrong : Nat) : Option Text → Step Unit
  | some t => .read t count ()
  | none => .illegal wrong

/-- The character of a byte in ASCII. -/
def ascii? (b : Nat) : Option Char := if b < 0x80 then some (Char.ofNat b) else none

/-- A single byte that has a character, or two bytes of which the first is a lead byte. -/
def singleOrPair (single : Nat → Option Char) (isLead : Nat → Bool) (pair : Nat → Nat → Step Unit) :
    List Nat → Step Unit
  | [] => .incomplete
  | a :: bytes =>
    match single a, bytes with
    | some c, _ => .read [c] 1 ()
    | none, b :: _ => if isLead a then pair a b else .illegal 1
    | none, [] => if isLead a then .incomplete else .illegal 1

/-- ASCII, or two bytes of which the first is no ASCII. -/
def asciiOrPair (pair : Nat → Nat → Option Text) : List Nat → Step Unit :=
  singleOrPair ascii? (fun _ => true) fun a b => .ofText? 2 1 (pair a b)

/-- ASCII reads as itself wherever pairs start with other bytes. -/
theorem readFrom_asciiOrPair (pair : Nat → Nat → Option Text) {bytes : List Nat}
    (h : ∀ b ∈ bytes, b < 0x80) (i : Nat) :
    readFrom (fun _ => asciiOrPair pair) () i 0 bytes = .ok (bytes.map Char.ofNat) := by
  induction bytes generalizing i with
  | nil => rfl
  | cons b bytes ih =>
      rw [List.forall_mem_cons] at h
      have hstep : asciiOrPair pair (b :: bytes) = .read [Char.ofNat b] 1 () := by
        simp [asciiOrPair, singleOrPair, ascii?, h.1]
      rw [readFrom]
      simp only [hstep, Nat.sub_self, ih h.2 (i + 1)]
      rfl

/-- The text of two bytes that are the row and the cell of a grid, the high bit set in both.  Bytes
without it are too small for a row or a cell. -/
def highPair? (g : CharGrid) (a b : Nat) : Option Text := g.get? (a - 0xA0) (b - 0xA0)

/-- The text of two bytes that are the row and the cell of a grid, without the high bit. -/
def lowPair? (g : CharGrid) (a b : Nat) : Option Text := g.get? (a - 0x20) (b - 0x20)

end MultiByte

/-- An encoding with several bytes to a character. -/
structure MultiByte where
  name : Text
  /-- Other names of the encoding. -/
  aliases : List Text := []
  /-- The text of bytes. -/
  read : List Nat → Except MultiByte.Fault Text

end ModuleDocs
