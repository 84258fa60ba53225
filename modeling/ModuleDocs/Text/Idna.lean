import ModuleDocs.Text.Nameprep
import ModuleDocs.Text.Punycode

/-! # Names of hosts

    A name consists of labels with points between them.  A label that begins
    with `xn--` stands for one with other characters than those of ASCII; all
    others stand for themselves.  Only the one prepared form of a label has a
    written form, so what is read has to be what would be written. -/

namespace ModuleDocs.Text

/-- Why a label cannot be read. -/
inductive IdnaFault where
  | punycode (fault : PunycodeFault)
  | name (fault : Nameprep.Fault)
  | length
  /-- A prepared label begins like a written one. -/
  | start
  /-- The label and how it would be written. -/
  | otherwiseWritten (label written : Text)
deriving DecidableEq, Repr

namespace Idna

/-- How a label begins that stands for another one. -/
def start : Text := "xn--"

/-- A written label, if it is neither empty nor too long. -/
def checkLength (label : Text) : Except IdnaFault Text :=
  if 0 < label.length ∧ label.length < 64 then .ok label else .error .length

/-- The written form of a label with other characters than those of ASCII. -/
def writePrepared (label : List Nat) : Except IdnaFault Text := do
  let prepared ← (Nameprep.prepare label).mapError .name
  if prepared.all (· < 0x80) then checkLength (prepared.map Char.ofNat)
  else if (dropPrefix? start (prepared.map Char.ofNat)).isSome then throw .start
  else checkLength (start ++ Punycode.encode prepared)

/-- The written form of a label. -/
def write (label : List Nat) : Except IdnaFault Text :=
  if label.all (· < 0x80) then checkLength (label.map Char.ofNat) else writePrepared label

/-- What a written label stands for. -/
def read (label : Text) : Except IdnaFault Text :=
  match dropPrefix? start label with
  | none => .ok label
  | some rest => do
    let codes ← (Punycode.decode (rest.map Char.toNat)).mapError .punycode
    let written ← write codes
    if written = label.map Char.toLower then pure (codes.map Char.ofNat)
    else throw (.otherwiseWritten label written)

end Idna

/-- What a written name stands for, label by label. -/
def ofIdna (t : Text) : Except IdnaFault Text :=
  (join ['.']) <$> (pieces '.' t).mapM Idna.read

end ModuleDocs.Text
