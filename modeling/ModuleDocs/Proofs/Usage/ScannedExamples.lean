import ModuleDocs.Proofs.Hcl.QuotedValues
import ModuleDocs.Proofs.Readme.UsageSections

/-! # Examples that are scanned

    An example is a module block, and the scanner reads it back when braces in
    strings and comments do not count.  The value of a group stands in it
    twice, escaped in a literal and as it is in comments, so it may hold any
    characters but a newline: the block still ends at its last brace, and no
    line of it looks like a header.

    Fields are looked for in the whole block, strings and comments included.
    So a source or a value that reads like the start of a validation is taken
    for one, and the scanner may warn that it does not end.  Without such a
    text there is no warning. -/

namespace ModuleDocs

open Text Hcl Condition

namespace UsageStyle

/-- What is asked of a style: blanks as indent, and placeholders on one line without braces. -/
structure IsPlain (s : UsageStyle) : Prop where
  indent : ∀ c ∈ s.indent, isBlank c = true
  placeholder : ∀ c ∈ s.placeholderStart ++ s.separator, c ≠ '\n' ∧ c ≠ '\x7b'

theorem isPlain_default : IsPlain {} := ⟨by decide, by decide⟩

/-- Whether the search for a validation finds none in any of some texts. -/
def NoneOpens (quoted : List Text) : Prop := ∀ t ∈ quoted, opensValidation false t = false

/-! ## Lines of an example -/

/-- A line of a module block that a scan for modules crosses; so does the search for a validation
if it finds none in the given texts. -/
structure Fits (quoted : List Text) (line : Text) : Prop where
  one : '\n' ∉ line
  noHeader : ∀ rest, Header.at? "module" (line ++ '\n' :: rest) = none
  passes : Passes .quoteAware (line ++ ['\n']) []
  crossed : NoneOpens quoted → Crossed (line ++ ['\n'])

theorem isKeyword_module : IsKeyword "module" := ⟨by decide, by decide⟩

theorem fits_nil (quoted : List Text) : Fits quoted [] where
  one := List.not_mem_nil
  noHeader := fun _ => Header.at?_eq_none isKeyword_module rfl
  passes := passes_calm .quoteAware (by decide)
  crossed := fun _ => crossed_of_not_word (by decide)

/-- What can stand before the equals sign of an assignment. -/
def IsFront (front : Text) : Prop := ∀ c ∈ front, isIdentPart c = true ∨ isBlank c = true

/-- A mark that neither names nor blanks hold does not stand before the equals sign. -/
theorem IsFront.not_mem {front : Text} (h : IsFront front) {d : Char}
    (hident : isIdentPart d = false) (hblank : isBlank d = false) : d ∉ front := by
  intro hmem
  rcases h d hmem with h | h
  · exact nomatch h.symm.trans hident
  · exact nomatch h.symm.trans hblank

/-- What stands before the value of an assignment neither opens anything nor is a brace. -/
theorem IsFront.calm {front : Text} (h : IsFront front) :
    ∀ c ∈ front ++ ['=', ' '], isCalm c = true := by
  have hmarks : ∀ d ∈ (['"', '#', '/', '\x7b', '\x7d'] : Text),
      isIdentPart d = false ∧ isBlank d = false := by decide
  intro c hc
  rcases List.mem_append.mp hc with hc | hc
  · exact decide_eq_true fun hmark => h.not_mem (hmarks c hmark).1 (hmarks c hmark).2 hc
  · exact (by decide : ∀ c ∈ ['=', ' '], isCalm c = true) c hc

/-- A text is among the given ones or holds no brace, so if no validation is found in those, then
none is found in it. -/
theorem NoneOpens.opensValidation {quoted : List Text} (h : NoneOpens quoted) {t : Text}
    (ht : t ∈ quoted ∨ '\x7b' ∉ t) : opensValidation false t = false := by
  rcases ht with ht | ht
  · exact h t ht
  · exact opensValidation_eq_false ht false

/-- Whether a text stands behind the value of an assignment: nothing, or the comment that gives a
trigger and one of some texts as its value. -/
def IsComment (quoted : List Text) (comment : Text) : Prop :=
  comment = [] ∨ ∃ trigger value, comment = [' ', ' '] ++ requiredComment trigger value ∧
    (∀ c ∈ trigger, isIdentPart c = true) ∧ '\n' ∉ value ∧ value ∈ quoted

section Comment

variable {quoted : List Text} {comment : Text} (h : IsComment quoted comment)
include h

/-- A comment does not end the line. -/
theorem IsComment.one : '\n' ∉ comment := by
  rcases h with rfl | ⟨trigger, value, rfl, htrigger, hvalue, -⟩
  · exact List.not_mem_nil
  · have hname : '\n' ∉ trigger := fun hmem => absurd (htrigger _ hmem) (by decide)
    simp [requiredComment_eq, hname, hvalue]

/-- With the end of the line a comment is a piece in which no brace counts. -/
theorem IsComment.passes : Passes .quoteAware (comment ++ ['\n']) [] := by
  rcases id h with rfl | ⟨trigger, value, rfl, -⟩
  · exact passes_calm .quoteAware (by decide)
  · have hone := h.one
    rw [requiredComment_eq] at hone ⊢
    rw [List.append_assoc]
    refine (passes_calm .quoteAware (by decide)).append (passes_lineComment fun hmem => hone ?_)
    exact List.mem_append_right _ (List.mem_cons_of_mem _ hmem)

/-- A comment is crossed if no validation is found in its value. -/
theorem IsComment.crossed (hnone : NoneOpens quoted) : Crossed (comment ++ ['\n']) := by
  have hend : Crossed ['\n'] := crossed_of_not_word (by decide)
  rcases h with rfl | ⟨trigger, value, rfl, htrigger, -, hvalue⟩
  · exact hend
  · have hname : '\x7b' ∉ trigger := fun hmem => absurd (htrigger _ hmem) (by decide)
    have hstart : '\x7b' ∉ "  # Required when " ++ trigger ++ [' ', '=', ' '] :=
      List.not_mem_append (List.not_mem_append (by decide) hname) (by decide)
    have hshape : [' ', ' '] ++ requiredComment trigger value
        = "  # Required when " ++ trigger ++ [' ', '=', ' '] ++ literal value := by
      have hmark : ("  # Required when " : Text) = ' ' :: ' ' :: '#' :: " Required when " := by
        decide
      rw [requiredComment_eq, hmark]
      simp [literal]
    rw [hshape]
    exact (crossed_literal hstart (hnone value hvalue)).append hend

end Comment

/-- An assignment of a literal is crossed, with or without a comment. -/
theorem fits_of_front {quoted : List Text} {front value comment : Text} (hfront : IsFront front)
    (hline : '\n' ∉ value) (hvalue : value ∈ quoted ∨ '\x7b' ∉ value)
    (hcomment : IsComment quoted comment) :
    Fits quoted (front ++ '=' :: ' ' :: (literal (escape value) ++ comment)) where
  one := by
    have hnewline : '\n' ∉ front := hfront.not_mem (by decide) (by decide)
    have hescape : '\n' ∉ escape value := fun hmem => hline (mem_of_mem_escape (by decide) hmem)
    simp [literal, hnewline, hescape, hcomment.one]
  noHeader := by
    intro rest
    rw [List.append_assoc]
    exact Header.at?_eq_none_of_equals isKeyword_module
      (hfront.not_mem (by decide) (by decide)) _
  passes := by
    have hshape : front ++ '=' :: ' ' :: (literal (escape value) ++ comment) ++ ['\n']
        = front ++ ['=', ' '] ++ (literal (escape value) ++ (comment ++ ['\n'])) := by simp
    rw [hshape]
    exact (passes_calm .quoteAware hfront.calm).append
      ((passes_literal (isBody_escape value)).append hcomment.passes)
  crossed := by
    intro hnone
    have hshape : front ++ '=' :: ' ' :: (literal (escape value) ++ comment) ++ ['\n']
        = front ++ ['=', ' '] ++ literal (escape value) ++ (comment ++ ['\n']) := by simp
    have hbrace : '\x7b' ∉ front ++ ['=', ' '] := fun hmem =>
      absurd (hfront.calm _ hmem) (by decide)
    have hescape := opensValidation_escape false [] value
    rw [List.nil_append, List.nil_append, hnone.opensValidation hvalue] at hescape
    rw [hshape]
    exact (crossed_literal hbrace hescape).append (hcomment.crossed hnone)

/-- The line of a name is crossed, whatever value without a newline it shows. -/
theorem fits_assignment {s : UsageStyle} (hs : s.IsPlain) (width : Nat) {quoted : List Text}
    {name value : Text} {required : Option Text} (hname : ∀ c ∈ name, isIdentPart c = true)
    (hline : '\n' ∉ value) (hvalue : value ∈ quoted ∨ '\x7b' ∉ value)
    (hrequired : ∀ condition ∈ required, ∃ trigger demanded, condition = equals trigger demanded ∧
      (∀ c ∈ trigger, isIdentPart c = true) ∧ '\n' ∉ demanded ∧ demanded ∈ quoted) :
    Fits quoted (s.assignment width name value required) := by
  have hfront : IsFront (s.indent ++ padRight width name ++ [' ']) := by
    rw [padRight]
    simp only [IsFront, List.forall_mem_append]
    refine ⟨⟨fun c hc => .inr (hs.indent c hc), fun c hc => .inl (hname c hc), fun c hc => ?_⟩,
      by decide⟩
    obtain ⟨-, rfl⟩ := List.mem_replicate.mp hc
    decide
  have hshape : ∀ comment,
      s.assignment width name value none ++ comment
        = s.indent ++ padRight width name ++ [' '] ++
          '=' :: ' ' :: (literal (escape value) ++ comment) := by
    intro comment
    have hmark : (" = \"" : Text) = [' ', '=', ' ', '"'] := by decide
    rw [assignment_none, hmark]
    simp [literal]
  cases required with
  | none =>
      have hfits := fits_of_front hfront hline hvalue (.inl rfl)
      rwa [← hshape, List.append_nil] at hfits
  | some condition =>
      obtain ⟨trigger, demanded, rfl, hparts⟩ := hrequired condition rfl
      rw [assignment_some, List.append_assoc, hshape]
      exact fits_of_front hfront hline hvalue (.inr ⟨trigger, demanded, rfl, hparts⟩)

/-! ## From lines to the example -/

/-- A text is scanned as one block: it is the text of that block, the declaration of the block is
all that is found, and what is logged comes from the search for a validation in the block.  Nothing
is logged if that search finds none in the given texts. -/
structure IsScannedAs (text : Text) (b : WrittenBlock) (quoted : List Text) : Prop where
  written : text = b.text "module"
  found : (scan .quoteAware text "module").value = [b.declaration .quoteAware "module"]
  logged : (scan .quoteAware text "module").log = (validationField .quoteAware b.raw).log
  silent : NoneOpens quoted → (scan .quoteAware text "module").log = []

/-- Lines that are crossed make a block that is scanned as one. -/
theorem isScannedAs_lines {name : Text} (hname : name ≠ []) (hquote : '"' ∉ name)
    {quoted ls : List Text} (hls : ∀ line ∈ ls, Fits quoted line) :
    let b : WrittenBlock := ⟨name, '\n' :: ls.flatMap (· ++ ['\n'])⟩
    IsScannedAs (b.text "module") b quoted := by
  intro b
  have hheaders : ∀ index, Header.findFrom "module" index false 0 (b.body ++ ['\x7d']) = [] := by
    intro index
    exact findFrom_lines (fun line hline => (hls line hline).one)
      (fun line hline => (hls line hline).noHeader) (by decide) rfl _
  obtain ⟨hvalue, hlog⟩ := scan_block isKeyword_module hname hquote
    (balanced_lines fun line hline => (hls line hline).passes) hheaders
  refine ⟨rfl, hvalue, hlog, fun hnone => ?_⟩
  have hcrossed : Crossed (['\x7b', '\n'] ++ ls.flatMap (· ++ ['\n'])) :=
    (crossed_of_not_word (by decide)).append
      (crossed_lines fun line hline => (hls line hline).crossed hnone)
  have hopens : opensValidation false b.raw = false := hcrossed ['\x7d']
  have hfound : findAtWordStart? afterValidation? false b.raw = none :=
    Option.isNone_iff_eq_none.mp (Option.isSome_eq_false_iff.mp hopens)
  rw [hlog, validationField_none .quoteAware hfound]
  rfl

/-- The line of a source without quotes and backslashes is crossed. -/
theorem fits_source {s : UsageStyle} (hs : s.IsPlain) {quoted : List Text} {source : Text}
    (hsource : ∀ c ∈ source, c ≠ '"' ∧ c ≠ '\\' ∧ c ≠ '\n') (hquoted : source ∈ quoted) :
    Fits quoted (s.indent ++ "source = \"" ++ source ++ ['"']) := by
  have hfront : IsFront (s.indent ++ "source ") := fun c hc =>
    (List.mem_append.mp hc).elim (fun hc => .inr (hs.indent c hc))
      ((by decide : ∀ c ∈ ("source " : Text), isIdentPart c = true ∨ isBlank c = true) c)
  have hescape : escape source = source :=
    escape_eq_self (fun hmem => (hsource _ hmem).1 rfl) (fun hmem => (hsource _ hmem).2.1 rfl)
  have hmark : ("source = \"" : Text) = "source " ++ ['=', ' ', '"'] := by decide
  have hshape : s.indent ++ "source = \"" ++ source ++ ['"']
      = s.indent ++ "source " ++ '=' :: ' ' :: (literal (escape source) ++ []) := by
    rw [hescape, hmark]
    simp [literal]
  rw [hshape]
  exact fits_of_front hfront (fun hmem => (hsource _ hmem).2.2 rfl) (.inl hquoted) (.inl rfl)

/-- A placeholder stands on one line without braces. -/
theorem IsPlain.ne_of_mem_placeholder {s : UsageStyle} (hs : s.IsPlain) {name : Text}
    (hname : ∀ c ∈ name, isIdentPart c = true) :
    ∀ c ∈ s.placeholder name, c ≠ '\n' ∧ c ≠ '\x7b' := by
  have hstyle := List.forall_mem_append.mp hs.placeholder
  refine List.forall_mem_append.mpr ⟨hstyle.1, fun c hc => ?_⟩
  obtain ⟨d, hd, hmem⟩ := List.mem_flatMap.mp hc
  split at hmem
  · exact hstyle.2 c hmem
  · obtain rfl := List.mem_singleton.mp hmem
    exact ⟨ne_of_class (hname c hd) (by decide), ne_of_class (hname c hd) (by decide)⟩

/-- The lines of names are crossed: a value that is given is among the texts, and so is that of a
comment. -/
theorem fits_assignments {s : UsageStyle} (hs : s.IsPlain) {quoted names : List Text}
    {values conditions : List (Text × Text)}
    (hnames : ∀ name ∈ names, ∀ c ∈ name, isIdentPart c = true)
    (hvalues : ∀ name, ∀ value ∈ values.lookup name, '\n' ∉ value ∧ value ∈ quoted)
    (hconditions : ∀ name, ∀ condition ∈ conditions.lookup name, ∃ trigger demanded,
      condition = equals trigger demanded ∧ (∀ c ∈ trigger, isIdentPart c = true) ∧
        '\n' ∉ demanded ∧ demanded ∈ quoted) :
    ∀ line ∈ s.assignments names values conditions, Fits quoted line := by
  intro line hline
  obtain ⟨name, hmem, rfl⟩ := List.mem_map.mp hline
  have hname := hnames name hmem
  have hplaceholder := hs.ne_of_mem_placeholder hname
  have hshown : '\n' ∉ (values.lookup name).getD (s.placeholder name) ∧
      ((values.lookup name).getD (s.placeholder name) ∈ quoted ∨
        '\x7b' ∉ (values.lookup name).getD (s.placeholder name)) := by
    cases hvalue : values.lookup name with
    | none =>
        exact ⟨fun hmem => (hplaceholder _ hmem).1 rfl,
          .inr fun hmem => (hplaceholder _ hmem).2 rfl⟩
    | some value =>
        obtain ⟨hone, hquoted⟩ := hvalues name value hvalue
        exact ⟨hone, .inl hquoted⟩
  exact fits_assignment hs _ hname hshown.1 hshown.2 (hconditions name)

/-- An example is scanned as one block when its lines are crossed. -/
theorem isScannedAs_moduleBlock {s : UsageStyle} (hs : s.IsPlain) {info : ModuleMeta}
    (hname : info.name ≠ []) (hquote : '"' ∉ info.name)
    (hsource : ∀ c ∈ info.source, c ≠ '"' ∧ c ≠ '\\' ∧ c ≠ '\n') {quoted ls : List Text}
    (hquoted : info.source ∈ quoted) (hls : ∀ line ∈ ls, Fits quoted line) :
    ∃ body, IsScannedAs (s.moduleBlock info ls) ⟨info.name, body⟩ quoted := by
  have hmore : ∀ line ∈ (if ls = [] then [] else [] :: ls), Fits quoted line := by
    split
    · exact nofun
    · exact List.forall_mem_cons.mpr ⟨fits_nil quoted, hls⟩
  have hshape : s.moduleBlock info ls = WrittenBlock.text "module" ⟨info.name, '\n' ::
      ((s.indent ++ "source = \"" ++ info.source ++ ['"']) ::
        (if ls = [] then [] else [] :: ls)).flatMap (· ++ ['\n'])⟩ := by
    have hopening : ("\" \x7b" : Text) = "\" " ++ ['\x7b'] := by decide
    have hheader : ("module \"" : Text) = "module" ++ " \"" := by decide
    rw [moduleBlock, join_newline_concat, hopening, hheader]
    simp [WrittenBlock.text, WrittenBlock.header, WrittenBlock.raw]
  rw [hshape]
  exact ⟨_, isScannedAs_lines hname hquote
    (List.forall_mem_cons.mpr ⟨fits_source hs hsource hquoted, hmore⟩)⟩

/-- The names in an example being plain, the example of a group is scanned as one block with the
name of the module that goes from the brace behind the name to the end of the text, whatever value
without a newline the group has; so is the basic example, if there is one.  Nothing is logged unless
the search for a validation finds one in the source or in the value, and then only what it logs. -/
theorem scan_examples {s : UsageStyle} (hs : s.IsPlain) {info : ModuleMeta}
    (hname : info.name ≠ []) (hquote : '"' ∉ info.name)
    (hsource : ∀ c ∈ info.source, c ≠ '"' ∧ c ≠ '\\' ∧ c ≠ '\n')
    (required trigger : List Declaration) :
    (∀ g : UsageGroup,
      (∀ name ∈ shownNames g required trigger, ∀ c ∈ name, isIdentPart c = true) →
      '\n' ∉ g.value →
      ∃ body, IsScannedAs (s.conditional g required trigger info) ⟨info.name, body⟩
        [info.source, g.value]) ∧
    ((∀ name ∈ nameSet (namesOf required ++ namesOf trigger), ∀ c ∈ name, isIdentPart c = true) →
      s.basic required trigger info ≠ [] →
      ∃ body, IsScannedAs (s.basic required trigger info) ⟨info.name, body⟩ [info.source]) := by
  constructor
  · intro g hnames hvalue
    -- only the trigger is given a value, and only the value of the group
    have hvalueMem : g.value ∈ [info.source, g.value] := List.mem_cons_of_mem _ List.mem_cons_self
    have htrigger : ∀ c ∈ g.trigger, isIdentPart c = true :=
      hnames g.trigger (mem_nameSet.mpr (List.mem_append_right _ List.mem_cons_self))
    refine isScannedAs_moduleBlock hs hname hquote hsource List.mem_cons_self
      (fits_assignments hs hnames (fun name value hlookup => ?_) fun name condition hlookup => ?_)
    · have hgiven : value = g.value := by
        rw [List.lookup_singleton] at hlookup
        split at hlookup
        · exact (Option.some.inj hlookup).symm
        · exact absurd hlookup.symm (Option.some_ne_none _)
      exact ⟨hgiven ▸ hvalue, hgiven ▸ hvalueMem⟩
    · rw [lookup_map_const] at hlookup
      split at hlookup
      · exact ⟨g.trigger, g.value, (Option.some.inj hlookup).symm, htrigger, hvalue, hvalueMem⟩
      · exact absurd hlookup.symm (Option.some_ne_none _)
  · intro hnames hbasic
    rw [basic] at hbasic ⊢
    split at hbasic
    · exact absurd rfl hbasic
    · next hne =>
        rw [if_neg hne]
        exact isScannedAs_moduleBlock hs hname hquote hsource List.mem_cons_self
          (fits_assignments hs hnames (fun _ _ h => absurd h.symm (Option.some_ne_none _))
            fun _ _ h => absurd h.symm (Option.some_ne_none _))

/-- A value may hold quotes, backslashes, braces and the marks of comments. -/
theorem scan_examples_marks :
    let g : UsageGroup := { trigger := "mode", value := "a\"\\ \x7b # // /*", needed := ["size"] }
    let info : ModuleMeta := ⟨"shop", "./shop", "v1.0.0"⟩
    let required : List Declaration := [{ kind := "variable", name := "name", rawBlock := [] }]
    (∃ body, IsScannedAs (conditional {} g required [] info) ⟨"shop", body⟩
        [info.source, g.value] ∧
      (scan .quoteAware (conditional {} g required [] info) "module").log = []) ∧
    ∃ body, IsScannedAs (basic {} required [] info) ⟨"shop", body⟩ [info.source] := by
  intro g info required
  have hname : info.name ≠ [] := by decide
  obtain ⟨hconditional, hbasic⟩ := scan_examples isPlain_default hname (by decide) (by decide)
    required []
  have hnames : ∀ name ∈ shownNames g required [], ∀ c ∈ name, isIdentPart c = true := by
    have hall : ∀ name ∈ namesOf required ++ namesOf [] ++ g.needed ++ [g.trigger],
        ∀ c ∈ name, isIdentPart c = true := by decide
    exact fun name hname => hall name (mem_nameSet.mp hname)
  obtain ⟨body, hscanned⟩ := hconditional g hnames (by decide)
  have hnone : NoneOpens [info.source, g.value] := by
    unfold NoneOpens
    decide +kernel
  exact ⟨⟨body, hscanned, hscanned.silent hnone⟩, hbasic (by decide +kernel) (by decide +kernel)⟩

/-- A value that reads like the start of a validation is taken for one: names, source and value are
as they should be, the block is found, and there is a warning that the validation does not end. -/
theorem scan_conditional_validation :
    let g : UsageGroup := { trigger := "mode", value := "validation \x7b" }
    let info : ModuleMeta := ⟨"m", "./m", "v1.0.0"⟩
    (info.name ≠ [] ∧ (∀ c ∈ info.name, c ≠ '"' ∧ c ≠ '\n')) ∧
      (∀ c ∈ info.source, c ≠ '"' ∧ c ≠ '\\' ∧ c ≠ '\n') ∧
      (∀ name ∈ shownNames g [] [], ∀ c ∈ name, c.isAlpha = true) ∧ '\n' ∉ g.value ∧
      (scan .quoteAware (conditional {} g [] [] info) "module").log
        = [⟨.warning, "Unbalanced braces: block starting at offset 41 reached end of text " ++
            "(4 chars accumulated)"⟩] := by
  decide +kernel

end UsageStyle

end ModuleDocs
