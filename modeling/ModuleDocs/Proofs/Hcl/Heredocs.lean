import ModuleDocs.Proofs.Hcl.WrittenFields

/-! # Descriptions over several lines

    A text of any number of lines is written as a heredoc: a delimiter, the
    lines, and a line with the delimiter.  The lines may hold whatever they
    like, quotes and braces and what looks like other fields, as long as none
    of them begins with the delimiter as a word.

    The end is looked for behind every newline, and the newlines of a heredoc
    are those behind its lines.  So the search is followed line by line:
    where the next line does not begin with the delimiter it goes on, and the
    first line that does is the one that was written to end the heredoc.
    What comes before the word `description` holds no word, so no other place
    is looked at first; and what comes behind the last delimiter is not
    looked at. -/

namespace ModuleDocs.Hcl

open Text

/-- Whether a line begins with a word, blanks before it apart. -/
def OpensLine (word line : Text) : Prop :=
  ∃ blanks rest, line = blanks ++ (word ++ rest) ∧ (∀ c ∈ blanks, isBlank c = true) ∧
    atWordEnd rest = true

/-- Lines between a delimiter and a line that ends them. -/
structure Heredoc where
  delimiter : Text
  /-- Whether a hyphen stands before the first delimiter. -/
  hyphen : Bool := false
  lines : List Text
  /-- What stands before the last delimiter on its line. -/
  indent : Text := []
deriving DecidableEq, Repr

namespace Heredoc

/-- The text between the lines of a heredoc and its two angle brackets. -/
def mark (h : Heredoc) : Text := (if h.hyphen then ['-'] else []) ++ h.delimiter

/-- The text of a heredoc. -/
def text (h : Heredoc) : Text :=
  "<<" ++ h.mark ++ "\n" ++ join ['\n'] h.lines ++ "\n" ++ h.indent ++ h.delimiter

/-- The delimiter is a word, there are lines, none of them begins with the delimiter, and the last
delimiter is on a line of its own. -/
structure Fits (h : Heredoc) : Prop where
  named : h.delimiter ≠ []
  word : ∀ c ∈ h.delimiter, isWord c = true
  lined : h.lines ≠ []
  one_line : ∀ line ∈ h.lines, '\n' ∉ line
  inner : ∀ line ∈ h.lines, ¬ OpensLine h.delimiter line
  indent_blank : ∀ c ∈ h.indent, isBlank c = true

end Heredoc

/-! ## The line that ends a heredoc -/

section Delimiter

variable {delimiter : Text} (hword : ∀ c ∈ delimiter, isWord c = true)
include hword

/-- No newline stands in the delimiter. -/
theorem newline_not_mem_delimiter : '\n' ∉ delimiter := fun hmem =>
  absurd (hword '\n' hmem) (by decide)

/-- A line ends a heredoc when it begins with the delimiter. -/
theorem endsHeredoc_iff (hne : delimiter ≠ []) {line : Text} :
    endsHeredoc delimiter line = true ↔ OpensLine delimiter line := by
  constructor
  · intro h
    rw [endsHeredoc] at h
    split at h
    · next rest hrest =>
        refine ⟨line.takeWhile isBlank, rest, ?_, List.all_eq_true.mp List.all_takeWhile, h⟩
        rw [← dropPrefix?_eq_some_iff.mp hrest]
        exact List.takeWhile_append_dropWhile.symm
    · cases h
  · rintro ⟨blanks, rest, rfl, hblanks, hend⟩
    obtain ⟨c, word, rfl⟩ := List.exists_cons_of_ne_nil hne
    have hc : isBlank c = false := isBlank_of_isWord (hword c List.mem_cons_self)
    have hskip : skipBlanks (blanks ++ (c :: word ++ rest)) = c :: word ++ rest :=
      dropWhile_eq_right hblanks hc (word ++ rest)
    rw [endsHeredoc, hskip, dropPrefix?_append]
    exact hend

/-- Whether a line ends a heredoc is decided before the line ends. -/
theorem endsHeredoc_line (line t : Text) :
    endsHeredoc delimiter (line ++ '\n' :: t) = endsHeredoc delimiter line := by
  rw [endsHeredoc, endsHeredoc, skipBlanks, dropWhile_append_stop (by decide), skipBlanks,
    dropPrefix?_append_cons (newline_not_mem_delimiter hword)]
  cases dropPrefix? delimiter (line.dropWhile isBlank) with
  | none => rfl
  | some rest => cases rest <;> rfl

end Delimiter

/-- What is asked of a heredoc can be tested with the reader's own test of lines. -/
instance (h : Heredoc) : Decidable h.Fits :=
  decidable_of_iff
    (h.delimiter ≠ [] ∧ (∀ c ∈ h.delimiter, isWord c = true) ∧ h.lines ≠ [] ∧
      (∀ line ∈ h.lines, '\n' ∉ line) ∧
      (∀ line ∈ h.lines, ¬ endsHeredoc h.delimiter line = true) ∧
      ∀ c ∈ h.indent, isBlank c = true)
    ⟨fun ⟨hne, hword, hlined, hone, hinner, hindent⟩ =>
      ⟨hne, hword, hlined, hone,
        fun line hline => mt (endsHeredoc_iff hword hne).mpr (hinner line hline), hindent⟩,
      fun hfits =>
      ⟨hfits.named, hfits.word, hfits.lined, hfits.one_line,
        fun line hline => mt (endsHeredoc_iff hfits.word hfits.named).mp (hfits.inner line hline),
        hfits.indent_blank⟩⟩

/-! ## The lines of a heredoc -/

section Body

variable {delimiter : Text}

/-- The search for the end crosses a stretch without newlines. -/
theorem heredocBody?_append {u : Text} (hu : '\n' ∉ u) (t : Text) :
    heredocBody? delimiter (u ++ t) = (heredocBody? delimiter t).map (u ++ ·) := by
  induction u with
  | nil => simp
  | cons c u ih =>
      obtain ⟨hc, hu⟩ := List.ne_and_not_mem_of_not_mem_cons hu
      rw [List.cons_append, heredocBody?, if_neg fun h => hc h.1.symm, ih hu, Option.map_map]
      rfl

theorem heredocBody?_of_endsHeredoc {last : Text} (h : endsHeredoc delimiter last = true) :
    heredocBody? delimiter ('\n' :: last) = some [] := by
  rw [heredocBody?, if_pos ⟨rfl, h⟩]

theorem heredocBody?_newline {t : Text} (h : endsHeredoc delimiter t = false) :
    heredocBody? delimiter ('\n' :: t) = (heredocBody? delimiter t).map ('\n' :: ·) := by
  rw [heredocBody?, if_neg fun hends => Bool.false_ne_true (h.symm.trans hends.2)]

/-- Joined lines begin with the first line and a newline when something follows on a line of its
own. -/
theorem exists_join_append (line : Text) (ls : List Text) (last : Text) :
    ∃ t, join ['\n'] (line :: ls) ++ '\n' :: last = line ++ '\n' :: t := by
  cases ls with
  | nil =>
      have hjoin : join ['\n'] [line] = line := List.intercalate_singleton
      exact ⟨last, by rw [hjoin]⟩
  | cons next ls =>
      refine ⟨join ['\n'] (next :: ls) ++ '\n' :: last, ?_⟩
      rw [join_cons_cons]
      simp

/-- The search comes to the first line that begins with the delimiter and gives the lines before
it. -/
theorem heredocBody?_join (hword : ∀ c ∈ delimiter, isWord c = true) {ls : List Text} {last : Text}
    (hne : ls ≠ []) (hone : ∀ line ∈ ls, '\n' ∉ line)
    (hinner : ∀ line ∈ ls, endsHeredoc delimiter line = false)
    (hlast : endsHeredoc delimiter last = true) :
    heredocBody? delimiter (join ['\n'] ls ++ '\n' :: last) = some (join ['\n'] ls) := by
  -- the last newline is the only one before a line with the delimiter
  induction ls with
  | nil => exact absurd rfl hne
  | cons line ls ih =>
      obtain ⟨hline, hone⟩ := List.forall_mem_cons.mp hone
      obtain ⟨-, hinner⟩ := List.forall_mem_cons.mp hinner
      cases ls with
      | nil =>
          have hjoin : join ['\n'] [line] = line := List.intercalate_singleton
          rw [hjoin, heredocBody?_append hline, heredocBody?_of_endsHeredoc hlast]
          simp
      | cons next ls =>
          have hrest := ih (List.cons_ne_nil next ls) hone hinner
          -- behind this line comes the next one, and that one does not begin with the delimiter
          have hgoes : endsHeredoc delimiter (join ['\n'] (next :: ls) ++ '\n' :: last)
              = false := by
            obtain ⟨t, ht⟩ := exists_join_append next ls last
            rw [ht, endsHeredoc_line hword]
            exact hinner next List.mem_cons_self
          have hshape : join ['\n'] (line :: next :: ls) ++ '\n' :: last
              = line ++ '\n' :: (join ['\n'] (next :: ls) ++ '\n' :: last) := by
            rw [join_cons_cons]
            simp
          rw [hshape, heredocBody?_append hline, heredocBody?_newline hgoes, hrest, join_cons_cons]
          simp

end Body

/-! ## Reading a heredoc -/

namespace Heredoc

variable {h : Heredoc} (hfits : h.Fits)
include hfits

/-- Behind the angle brackets the delimiter is read, with or without a hyphen before it. -/
theorem getD_dropPrefix?_mark (t : Text) :
    (dropPrefix? ['-'] (h.mark ++ t)).getD (h.mark ++ t) = h.delimiter ++ t := by
  unfold mark
  cases h.hyphen with
  | true => rfl
  | false =>
      obtain ⟨c, word, hdelimiter⟩ := List.exists_cons_of_ne_nil hfits.named
      have hc : '-' ≠ c := by
        rintro rfl
        exact absurd (hfits.word '-' (hdelimiter ▸ List.mem_cons_self)) (by decide)
      have hnone : dropPrefix? ['-'] (h.delimiter ++ t) = none := by
        rw [hdelimiter]
        exact dropPrefix?_eq_none_of_head hc [] _
      exact congrArg (Option.getD · _) hnone

/-- A heredoc is read up to its last delimiter. -/
theorem heredoc?_mark {rest : Text} (hrest : atWordEnd rest = true) :
    heredoc? (h.mark ++ '\n' :: (join ['\n'] h.lines ++ '\n' :: (h.indent ++ (h.delimiter ++ rest))))
      = some (join ['\n'] h.lines) := by
  have hends : endsHeredoc h.delimiter (h.indent ++ (h.delimiter ++ rest)) = true :=
    (endsHeredoc_iff hfits.word hfits.named).mpr ⟨h.indent, rest, rfl, hfits.indent_blank, hrest⟩
  have hinner : ∀ line ∈ h.lines, endsHeredoc h.delimiter line = false := fun line hline =>
    Bool.eq_false_iff.mpr fun hends =>
      hfits.inner line hline ((endsHeredoc_iff hfits.word hfits.named).mp hends)
  have hnewline : isWord '\n' = false := by decide
  have hskip : ∀ t : Text, skipBlanks ('\n' :: t) = '\n' :: t := by
    intro t
    refine dropWhile_eq_self fun c hc => ?_
    obtain rfl : '\n' = c := Option.some.inj hc
    decide
  rw [heredoc?]
  simp only [getD_dropPrefix?_mark hfits, takeWhile_eq_left hfits.word hnewline,
    dropWhile_eq_right hfits.word hnewline, hskip, if_neg hfits.named]
  exact heredocBody?_join hfits.word hfits.lined hfits.one_line hinner hends

omit hfits in
theorem text_append (rest : Text) :
    h.text ++ rest = '<' :: '<' ::
      (h.mark ++ '\n' :: (join ['\n'] h.lines ++ '\n' :: (h.indent ++ (h.delimiter ++ rest)))) := by
  simp [text]

theorem literal?_text {rest : Text} (hrest : atWordEnd rest = true) :
    literal? (h.text ++ rest) = some (trim (join ['\n'] h.lines)) := by
  rw [text_append, literal?, heredoc?_mark hfits hrest, Option.map_some]

/-- A heredoc that a field is set to is read back when no word stands before the field. -/
theorem literalField_text {word before rest : Text} (hword : word ∈ fieldWords)
    (hbefore : ∀ c ∈ before, isWord c = false) (hrest : atWordEnd rest = true) :
    literalField word (before ++ ((Item.assign word h.text).text ++ rest))
      = trim (join ['\n'] h.lines) := by
  have hread : (afterAssigned? word ((Item.assign word h.text).text ++ rest)).bind
      (fun r => literal? (trimStart r)) = some (trim (join ['\n'] h.lines)) := by
    have hskip : trimStart (' ' :: (h.text ++ rest)) = h.text ++ rest := by
      rw [text_append]
      rfl
    rw [afterAssigned?_assign, Option.bind_some, hskip, literal?_text hfits hrest]
  have hne : (Item.assign word h.text).text ++ rest ≠ [] :=
    List.append_ne_nil_of_left_ne_nil
      (List.append_ne_nil_of_left_ne_nil (isWord_of_mem_fieldWords hword).1 _) rest
  have hlooks : LooksFor word fun t =>
      (afterAssigned? word t).bind fun r => literal? (trimStart r) :=
    (looksFor_afterAssigned word).bind _
  -- the search crosses what stands before the item, for there is no word in it
  rw [literalField, findAtWordStart?_append hlooks (setsNowhere_of_no_word hword _ hbefore false),
    inWordAfter_of_no_word hbefore, findAtWordStart?_here hread hne]
  rfl

end Heredoc

/-- A description that is written as a heredoc on the first line of a block, behind any margin, is
read as its lines, trimmed: whatever the lines hold, and whatever follows the last delimiter in the
block as long as the delimiter ends there. -/
theorem description_heredoc (m : BraceMode) {h : Heredoc} (hfits : h.Fits) {margin rest : Text}
    (hmargin : ∀ c ∈ margin, isBlank c = true) (hrest : atWordEnd rest = true) :
    (fieldsOf m ("\x7b\n" ++ margin ++ "description = " ++ h.text ++ rest)).value.description
      = trim (join ['\n'] h.lines) := by
  have hbefore : ∀ c ∈ '\x7b' :: '\n' :: margin, isWord c = false :=
    List.forall_mem_cons.mpr ⟨by decide,
      List.forall_mem_cons.mpr ⟨by decide, isWord_of_mem_margin hmargin⟩⟩
  have hshape : "\x7b\n" ++ margin ++ "description = " ++ h.text ++ rest
      = '\x7b' :: '\n' :: margin ++ ((Item.assign "description" h.text).text ++ rest) := by
    simp [Item.text, Item.assign]
  rw [hshape]
  exact Heredoc.literalField_text hfits (by decide) hbefore hrest

/-- Lines with another description, quotes, braces and another delimiter, with a longer word that
begins with the delimiter, and with the delimiter behind another word. -/
def misleadingHeredoc : Heredoc where
  delimiter := "EOT"
  hyphen := true
  lines := ["  description = \"other\"", "\x7d \"quoted\" \x7b", "\tEOT_2", "the EOT", "<<END", " "]
  indent := "  "

/-- None of these lines ends the heredoc, and no other description is taken. -/
theorem description_heredoc_misleading :
    (fieldsOf .plain ("\x7b\n" ++ ("\t" : Text) ++ "description = " ++ misleadingHeredoc.text ++
        "\n  description = \"later\"\n\x7d")).value.description
      = ("description = \"other\"\n\x7d \"quoted\" \x7b\n\tEOT_2\nthe EOT\n<<END" : Text) := by
  have hfits : misleadingHeredoc.Fits := by decide +kernel
  have hmargin : ∀ c ∈ ("\t" : Text), isBlank c = true := by decide
  have hrest : atWordEnd ("\n  description = \"later\"\n\x7d" : Text) = true := by decide
  have htrim : trim (join ['\n'] misleadingHeredoc.lines)
      = "description = \"other\"\n\x7d \"quoted\" \x7b\n\tEOT_2\nthe EOT\n<<END" := by
    decide +kernel
  exact (description_heredoc .plain hfits hmargin hrest).trans htrim

end ModuleDocs.Hcl
