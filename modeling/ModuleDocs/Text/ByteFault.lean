import ModuleDocs.Text.Quoted

/-! # Bytes that are no text

    A file is read as text from its start.  Reading stops at the first bytes
    that no text could have there; a fault says which bytes these are. -/

namespace ModuleDocs.Text

/-- Bytes that cannot be read: the index of the first of them, how many they are, and the value of
the first. -/
structure ByteFault where
  start : Nat
  count : Nat
  lead : Nat
deriving DecidableEq, Repr

/-- The wording for the place of a fault: one byte is shown, several are not. -/
def ByteFault.place (f : ByteFault) : Text :=
  if f.count = 1 then "byte 0x" ++ hex 2 f.lead ++ " in position " ++ ofNat f.start
  else "bytes in position " ++ ofNat f.start ++ ['-'] ++ ofNat (f.start + f.count - 1)

end ModuleDocs.Text
