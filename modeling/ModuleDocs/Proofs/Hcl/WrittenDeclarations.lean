import ModuleDocs.Hcl.Scan
import ModuleDocs.Proofs.Hcl.Balance
import ModuleDocs.Proofs.Hcl.HeaderWalk
import ModuleDocs.Proofs.Log

/-! # Scanning undoes writing

    A text is written as a sequence of parts on lines of their own: lines
    between the declarations, and declarations with a balanced body.  As long
    as no line besides the headers opens with the keyword, scanning the text
    gives back the declarations, in order, each with its name, its block
    character for character, and the fields of that block.

    The proof follows the sequence of parts.  What it carries along is the
    place reached so far: the text from there on is what remains to be
    written, so the block read at a header is the block written there. -/

namespace ModuleDocs.Hcl

open Text

/-- A declaration as it is written: its name and what stands between its braces. -/
structure WrittenBlock where
  name : Text
  body : Text
deriving DecidableEq, Repr

namespace WrittenBlock

/-- The block with its braces. -/
def raw (b : WrittenBlock) : Text := '\x7b' :: b.body ++ ['\x7d']

/-- What stands before the block: keyword and name. -/
def header (keyword : Text) (b : WrittenBlock) : Text := keyword ++ " \"" ++ b.name ++ "\" "

/-- The text of a declaration. -/
def text (keyword : Text) (b : WrittenBlock) : Text := b.header keyword ++ b.raw

/-- What is asked of a declaration so that it can be found again: a name that quotes can hold, a
balanced body, and no line of the body after its first that opens with the keyword. -/
structure Fits (m : BraceMode) (keyword : Text) (b : WrittenBlock) : Prop where
  named : b.name ≠ []
  unquoted : '"' ∉ b.name
  balanced : Balanced m b.body
  quiet : ∀ line ∈ (lines b.body).tail, opensWith keyword line = false

instance (m : BraceMode) (keyword : Text) (b : WrittenBlock) : Decidable (b.Fits m keyword) :=
  decidable_of_iff
    (b.name ≠ [] ∧ '"' ∉ b.name ∧ Balanced m b.body ∧
      ∀ line ∈ (lines b.body).tail, opensWith keyword line = false)
    ⟨fun h => ⟨h.1, h.2.1, h.2.2.1, h.2.2.2⟩,
      fun h => ⟨h.named, h.unquoted, h.balanced, h.quiet⟩⟩

/-- The declaration that is read back, its fields being those of its block. -/
def declaration (m : BraceMode) (keyword : Text) (b : WrittenBlock) : Declaration :=
  { (fieldsOf m b.raw).value with kind := keyword, name := b.name, rawBlock := b.raw }

end WrittenBlock

/-- A part of a written text: a line between declarations, or a declaration. -/
inductive Part where
  | line (t : Text)
  | block (b : WrittenBlock)
deriving DecidableEq, Repr

namespace Part

/-- The text of a part. -/
def text (keyword : Text) : Part → Text
  | line t => t
  | block b => b.text keyword

/-- The declaration of a part, if it is one. -/
def block? : Part → Option WrittenBlock
  | line _ => none
  | block b => some b

/-- What is asked of a part: a line is one line and does not open with the keyword. -/
def Fits (m : BraceMode) (keyword : Text) : Part → Prop
  | line t => '\n' ∉ t ∧ opensWith keyword t = false
  | block b => b.Fits m keyword

instance (m : BraceMode) (keyword : Text) : (p : Part) → Decidable (p.Fits m keyword)
  | line t => inferInstanceAs (Decidable ('\n' ∉ t ∧ opensWith keyword t = false))
  | block b => inferInstanceAs (Decidable (b.Fits m keyword))

end Part

/-- The text of a sequence of parts, each beginning on a line of its own. -/
def writeParts (keyword : Text) (parts : List Part) : Text :=
  join ['\n'] (parts.map (Part.text keyword))

/-- What follows a part: nothing, or a line break and the parts after it. -/
def afterPart (keyword : Text) : List Part → Text
  | [] => []
  | parts => '\n' :: writeParts keyword parts

/-- A sequence of parts is written as its first part and what follows it. -/
theorem writeParts_cons (keyword : Text) (p : Part) (parts : List Part) :
    writeParts keyword (p :: parts) = p.text keyword ++ afterPart keyword parts := by
  cases parts with
  | nil => simp [writeParts, afterPart, join]
  | cons q parts =>
      rw [writeParts, List.map_cons, List.map_cons, join_cons_cons, List.append_assoc]
      rfl

theorem drop_one_afterPart (keyword : Text) (parts : List Part) :
    (afterPart keyword parts).drop 1 = writeParts keyword parts := by
  cases parts <;> rfl

/-! ## The walk over the parts -/

section Walk

variable {m : BraceMode} {keyword : Text} (hk : IsKeyword keyword)
include hk

/-- The walk crosses the lines of a body and the closing brace behind them. -/
theorem findFrom_bodyLines (rest : Text) :
    ∀ (more : List Text) (first : Text) (index : Nat) (lineStart : Bool),
      (lineStart = true → opensWith keyword first = false) →
      (∀ line ∈ more, opensWith keyword line = false) →
      (∀ line ∈ first :: more, '\n' ∉ line) →
      Header.findFrom keyword index lineStart 0 (join ['\n'] (first :: more) ++ '\x7d' :: rest)
        = Header.findFrom keyword (index + (join ['\n'] (first :: more)).length + 1) false 0
          rest := by
  intro more
  -- only the first line may begin in the middle of one; the others stand behind a line break
  induction more with
  | nil =>
      intro first index lineStart hfirst _ hone
      have hjoin : join ['\n'] [first] = first := List.intercalate_singleton
      rw [hjoin, Header.findFrom_line index lineStart (hone first List.mem_cons_self)]
      · rfl
      · intro hs
        refine Header.at?_eq_none hk ?_
        rw [opensWith_append_cons hk (by decide) (by decide)]
        exact hfirst hs
  | cons next more ih =>
      intro first index lineStart hfirst hmore hone
      have hshape : join ['\n'] (first :: next :: more) ++ '\x7d' :: rest
          = first ++ '\n' :: (join ['\n'] (next :: more) ++ '\x7d' :: rest) := by
        rw [join_cons_cons]; simp
      rw [hshape, Header.findFrom_line index lineStart (hone first List.mem_cons_self)]
      · rw [show decide ('\n' = '\n') = true from rfl,
          ih next _ true (fun _ => hmore next List.mem_cons_self)
            (fun line hline => hmore line (List.mem_cons_of_mem next hline))
            (fun line hline => hone line (List.mem_cons_of_mem first hline)),
          join_cons_cons]
        congr 1
        simp only [List.length_append, List.length_cons, List.length_nil]
        omega
      · intro hs
        refine Header.at?_eq_none hk ?_
        rw [opensWith_append_cons hk (by decide) (by decide)]
        exact hfirst hs

/-- The walk crosses a body behind its opening brace. -/
theorem findFrom_body {b : WrittenBlock} (hb : b.Fits m keyword) (index : Nat) (rest : Text) :
    Header.findFrom keyword index false 0 (b.body ++ '\x7d' :: rest)
      = Header.findFrom keyword (index + b.body.length + 1) false 0 rest := by
  cases hlines : lines b.body with
  | nil => exact absurd hlines (pieces_ne_nil '\n' b.body)
  | cons first more =>
      have hbody : join ['\n'] (first :: more) = b.body := by
        rw [← hlines]
        exact join_pieces '\n' b.body
      have hquiet := hb.quiet
      rw [hlines, List.tail_cons] at hquiet
      have hone : ∀ line ∈ first :: more, '\n' ∉ line := by
        intro line hline
        rw [← hlines] at hline
        exact not_mem_of_mem_pieces hline
      have hwalk := findFrom_bodyLines hk rest more first index false (by simp) hquiet hone
      rwa [hbody] at hwalk

omit hk in
/-- Behind a part without line start the walk goes on with the next one. -/
theorem findFrom_afterPart (index : Nat) (parts : List Part) :
    Header.findFrom keyword index false 0 (afterPart keyword parts)
      = Header.findFrom keyword (index + 1) true 0 (writeParts keyword parts) := by
  cases parts <;> rfl

/-- The walk crosses a line between declarations. -/
theorem findFrom_linePart {t : Text} (ht : Part.Fits m keyword (.line t)) (index : Nat)
    (parts : List Part) :
    Header.findFrom keyword index true 0 (t ++ afterPart keyword parts)
      = Header.findFrom keyword (index + t.length + 1) true 0 (writeParts keyword parts) := by
  obtain ⟨hline, hquiet⟩ := ht
  cases parts with
  | nil =>
      rw [show t ++ afterPart keyword [] = t from List.append_nil t,
        Header.findFrom_lastLine index true hline fun _ => Header.at?_eq_none hk hquiet]
      rfl
  | cons q parts =>
      refine Header.findFrom_line index true hline '\n' (writeParts keyword (q :: parts)) ?_
      intro _
      refine Header.at?_eq_none hk ?_
      rw [opensWith_append_cons hk (by decide) (by decide)]
      exact hquiet

/-- At a declaration the walk finds its header and goes on behind its block. -/
theorem findFrom_blockPart {b : WrittenBlock} (hb : b.Fits m keyword) (index : Nat)
    (parts : List Part) :
    Header.findFrom keyword index true 0 (b.text keyword ++ afterPart keyword parts)
      = ⟨b.name, index + (b.header keyword).length⟩ ::
        Header.findFrom keyword (index + (b.text keyword).length + 1) true 0
          (writeParts keyword parts) := by
  have hshape : b.text keyword ++ afterPart keyword parts
      = b.header keyword ++ '\x7b' :: (b.body ++ '\x7d' :: afterPart keyword parts) := by
    simp [WrittenBlock.text, WrittenBlock.raw]
  have hlength : index + (b.header keyword).length + 1 + b.body.length + 1 + 1
      = index + (b.text keyword).length + 1 := by
    simp only [WrittenBlock.text, WrittenBlock.raw, List.length_append, List.length_cons,
      List.length_nil]
    omega
  rw [hshape, WrittenBlock.header, Header.findFrom_written index hk hb.named hb.unquoted]
  rw [← WrittenBlock.header, findFrom_body hk hb, findFrom_afterPart, hlength]

end Walk

/-! ## Reading the declarations back -/

/-- The declaration of a written block, read in its place. -/
def readWritten (m : BraceMode) (keyword : Text) (b : WrittenBlock) : Logged Declaration := do
  let fields ← fieldsOf m b.raw
  pure { fields with kind := keyword, name := b.name, rawBlock := b.raw }

/-- Where a balanced block stands, its declaration is read, and nothing is said of truncation. -/
theorem declarationAt_of_balanced {m : BraceMode} {b : WrittenBlock} (hb : Balanced m b.body)
    {text : Text} {brace : Nat} {rest : Text} (hdrop : text.drop brace = b.raw ++ rest)
    (keyword : Text) :
    declarationAt m text keyword ⟨b.name, brace⟩ = readWritten m keyword b := by
  have hshape : text.drop brace = '\x7b' :: b.body ++ '\x7d' :: rest := by
    rw [hdrop, WrittenBlock.raw]
    simp
  have hextract : Block.extract m text brace = pure b.raw := Block.extract_of_balanced hb hshape
  have hbalanced : Block.isBalanced m b.raw = true := Block.isBalanced_of_balanced hb
  rw [declarationAt]
  simp only [hextract, pure_bind, hbalanced]
  rfl

/-- From a place where parts are written on, the headers found lead to the blocks of the parts. -/
theorem mapM_declarationAt {m : BraceMode} {keyword : Text} (hk : IsKeyword keyword)
    (text : Text) :
    ∀ (parts : List Part) (index : Nat), (∀ p ∈ parts, p.Fits m keyword) →
      text.drop index = writeParts keyword parts →
      (Header.findFrom keyword index true 0 (writeParts keyword parts)).mapM
          (declarationAt m text keyword)
        = (parts.filterMap Part.block?).mapM (readWritten m keyword) := by
  intro parts
  -- declarations are read in the whole text, so the induction keeps it and moves the index
  induction parts with
  | nil => intro index _ _; rfl
  | cons p parts ih =>
      intro index hfits htext
      have hrest : ∀ q ∈ parts, q.Fits m keyword :=
        fun q hq => hfits q (List.mem_cons_of_mem p hq)
      have hnext : text.drop (index + (p.text keyword).length + 1)
          = writeParts keyword parts := by
        rw [← List.drop_drop, ← List.drop_drop, htext, writeParts_cons, List.drop_left,
          drop_one_afterPart]
      rw [writeParts_cons]
      cases p with
      | line t =>
          rw [show (Part.line t).text keyword = t from rfl] at hnext ⊢
          rw [findFrom_linePart hk (hfits _ List.mem_cons_self) index parts]
          exact ih _ hrest hnext
      | block b =>
          have hb : b.Fits m keyword := hfits _ List.mem_cons_self
          have hblock : text.drop (index + (b.header keyword).length)
              = b.raw ++ afterPart keyword parts := by
            rw [← List.drop_drop, htext, writeParts_cons]
            show (b.header keyword ++ b.raw ++ afterPart keyword parts).drop _ = _
            rw [List.append_assoc, List.drop_left]
          rw [show (Part.block b).text keyword = b.text keyword from rfl] at hnext ⊢
          rw [findFrom_blockPart hk hb index parts, List.mapM_cons,
            declarationAt_of_balanced hb.balanced hblock, ih _ hrest hnext]
          exact (List.mapM_cons).symm

/-- The scan of a written text reads its blocks one after another. -/
theorem scan_writeParts {m : BraceMode} {keyword : Text} (hk : IsKeyword keyword)
    {parts : List Part} (hfits : ∀ p ∈ parts, p.Fits m keyword) :
    scan m (writeParts keyword parts) keyword
      = (parts.filterMap Part.block?).mapM (readWritten m keyword) :=
  mapM_declarationAt hk _ parts 0 hfits rfl

/-- Scanning a written text gives exactly the declarations that were written, in order, and logs
nothing but what reading the fields of their blocks logs. -/
theorem scan_written_text {m : BraceMode} {keyword : Text}
    (hkeyword : keyword = "variable" ∨ keyword = "output") {parts : List Part}
    (hfits : ∀ p ∈ parts, p.Fits m keyword) :
    (scan m (writeParts keyword parts) keyword).value
        = (parts.filterMap Part.block?).map (WrittenBlock.declaration m keyword) ∧
      (scan m (writeParts keyword parts) keyword).log
        = (parts.filterMap Part.block?).flatMap fun b => (fieldsOf m b.raw).log := by
  rw [scan_writeParts (isKeyword_of_eq hkeyword) hfits]
  constructor
  · rw [Logged.value_mapM]
    rfl
  · rw [Logged.log_mapM]
    refine congrArg (List.flatMap · _) (funext fun b => ?_)
    rw [readWritten, Logged.log_bind, Logged.log_pure, List.append_nil]

/-- A name with a line break, braces in a string and in a comment, and other declarations between
the blocks do not mislead the scan. -/
theorem scan_written_text_quoteAware :
    ((scan .quoteAware (writeParts "output"
        [.line "variable \"x\" \x7b", .block ⟨"a\nb", "\n  value = \"\x7d\" # \x7b\n"⟩, .line "",
          .line "\x7d", .block ⟨"c", " output \"d\" \x7b \x7d "⟩]) "output").value.map
      fun d => (d.kind, d.name, d.rawBlock))
    = ([("output", "a\nb", "\x7b\n  value = \"\x7d\" # \x7b\n\x7d"),
        ("output", "c", "\x7b output \"d\" \x7b \x7d \x7d")] : List (Text × Text × Text)) := by
  rw [(scan_written_text (Or.inr rfl) (by decide +kernel)).1]
  rfl

end ModuleDocs.Hcl
