import ModuleDocs.Proofs.Hcl.FieldSearch
import ModuleDocs.Proofs.Hcl.HeaderGrammar
import ModuleDocs.Proofs.Hcl.WrittenDeclarations
import ModuleDocs.Proofs.Readme.ShownLiterals

/-! # Blocks with any texts in quotes

    A block may hold any text, escaped in a literal or behind the mark of a
    comment.  When braces in strings and comments do not count, the walk over
    the block comes out of the literal at its closing quote and out of the
    comment at the end of the line, so such texts do not matter for where the
    block ends.  Nor do they make headers: behind the name of an assignment
    there is an equals sign where a header has a quote.

    The search for a validation does not tell strings from code.  It finds
    one in a text in quotes exactly if it would find one in the text alone:
    no validation goes across a quote or a backslash. -/

namespace ModuleDocs.Hcl

open Text Condition

/-! ## Literals and comments are pieces -/

/-- A literal is a piece in which no brace counts. -/
theorem passes_literal {body : Text} (h : isBody body = true) :
    Passes .quoteAware (literal body) [] := by
  -- inside the literal the walk stays quoted, an escaped character apart, up to the closing quote
  have hinside : LeadsOut .quoteAware .quoted (body ++ ['"']) := by
    fun_induction isBody body with
    | case1 => exact (leadsOut_nil _).cons (by decide) fun _ => rfl
    | case2 => exact absurd h Bool.false_ne_true
    | case3 c t ih =>
        have hrest := ih (Bool.and_eq_true_iff.mp h).2
        have hescaped : LeadsOut .quoteAware .escaped (c :: (t ++ ['"'])) :=
          hrest.cons (by decide) fun _ => rfl
        exact hescaped.cons (by decide) fun _ => rfl
    | case4 c t hlast hescape ih =>
        obtain ⟨hc, hrest⟩ := Bool.and_eq_true_iff.mp h
        have hslash : c ≠ '\\' := ne_backslash_of_alone hlast hescape
        have hquote : c ≠ '"' := by simpa using hc
        exact (ih hrest).cons (by decide) fun rest => by
          simp [BraceMode.next, Region.next, hquote, hslash]
  exact hinside.passes (by decide) fun _ => rfl

/-- A comment up to the end of its line is a piece in which no brace counts. -/
theorem passes_lineComment {t : Text} (ht : '\n' ∉ t) :
    Passes .quoteAware ('#' :: t ++ ['\n']) [] := by
  have hstay : ∀ c ∈ t, ∀ rest, BraceMode.quoteAware.next .lineComment c rest = .lineComment := by
    intro c hc rest
    have hne : c ≠ '\n' := fun hline => ht (hline ▸ hc)
    simp [BraceMode.next, Region.next, hne]
  have hinside : LeadsOut .quoteAware .lineComment (t ++ ['\n']) :=
    leadsOut_concat (by decide) hstay fun _ => rfl
  exact hinside.passes (by decide) fun _ => rfl

/-- Lines without braces that count make a body that is balanced. -/
theorem balanced_lines {m : BraceMode} {ls : List Text}
    (h : ∀ line ∈ ls, Passes m (line ++ ['\n']) []) :
    Balanced m ('\n' :: ls.flatMap (· ++ ['\n'])) := by
  have hlines : Passes m (ls.flatMap (· ++ ['\n'])) [] := by
    induction ls with
    | nil => exact ⟨fun _ => rfl, fun _ => rfl⟩
    | cons line ls ih =>
        obtain ⟨hline, hrest⟩ := List.forall_mem_cons.mp h
        exact hline.append (ih hrest)
  have hstart : Passes m ['\n'] [] := passes_code m (by decide)
  have hbody : Nested m ('\n' :: ls.flatMap (· ++ ['\n'])) :=
    ⟨[], hstart.append hlines, fun p hp => by simp [List.prefix_nil.mp hp], rfl⟩
  exact hbody.balanced

/-! ## No headers inside the block -/

/-- No header stands where an equals sign comes before the first quote. -/
theorem Header.at?_eq_none_of_equals {keyword : Text} (hk : IsKeyword keyword) {t : Text}
    (ht : '"' ∉ t) (rest : Text) : at? keyword (t ++ '=' :: rest) = none := by
  refine Option.eq_none_iff_forall_ne_some.mpr fun ⟨name, behind⟩ hfound => ?_
  obtain ⟨front, _, hsplit, -, ⟨indent, gap, space, rfl, hindent, -, hgap, -⟩, -, -⟩ :=
    (at?_eq_some_iff hk).mp hfound
  have hfront : ∀ c ∈ indent ++ (keyword ++ gap), c ≠ '"' ∧ c ≠ '=' := by
    intro c hc
    rcases List.mem_append.mp hc with hc | hc
    · exact ⟨ne_of_class (hindent c hc) (by decide), ne_of_class (hindent c hc) (by decide)⟩
    · rcases List.mem_append.mp hc with hc | hc
      · exact ⟨ne_of_class (hk.word c hc) (by decide), ne_of_class (hk.word c hc) (by decide)⟩
      · exact ⟨ne_of_class (hgap c hc) (by decide), ne_of_class (hgap c hc) (by decide)⟩
  -- both texts are the same up to the first quote
  have hbefore := congrArg (List.takeWhile (· != '"')) hsplit
  have hequals : ∀ c ∈ t ++ ['='], (c != '"') = true := by
    intro c hc
    rcases List.mem_append.mp hc with hc | hc
    · simpa using fun h : c = '"' => ht (h ▸ hc)
    · obtain rfl := List.mem_singleton.mp hc
      decide
  have hleft : '=' ∈ (t ++ '=' :: rest).takeWhile (· != '"') := by
    rw [List.append_cons, List.takeWhile_append_of_pos hequals]
    exact List.mem_append_left _ (List.mem_append_right t List.mem_cons_self)
  have hright : (indent ++ (keyword ++ (gap ++ '"' :: (name ++ '"' :: space))) ++ behind).takeWhile
      (· != '"') = indent ++ (keyword ++ gap) := by
    have hshape : indent ++ (keyword ++ (gap ++ '"' :: (name ++ '"' :: space))) ++ behind
        = indent ++ (keyword ++ gap) ++ '"' :: (name ++ '"' :: (space ++ behind)) := by simp
    rw [hshape, takeWhile_eq_left (fun c hc => by simpa using (hfront c hc).1) (by decide)]
  rw [hbefore, hright] at hleft
  exact (hfront _ hleft).2 rfl

/-- The walk crosses lines at which there is no header. -/
theorem findFrom_lines {keyword : Text} {ls : List Text} {last : Text}
    (hone : ∀ line ∈ ls, '\n' ∉ line)
    (hnone : ∀ line ∈ ls, ∀ rest, Header.at? keyword (line ++ '\n' :: rest) = none)
    (hlast : '\n' ∉ last) (hend : Header.at? keyword last = none) (index : Nat) :
    Header.findFrom keyword index true 0 (ls.flatMap (· ++ ['\n']) ++ last) = [] := by
  induction ls generalizing index with
  | nil => exact Header.findFrom_lastLine index true hlast fun _ => hend
  | cons line ls ih =>
      obtain ⟨hline, hones⟩ := List.forall_mem_cons.mp hone
      obtain ⟨hno, hnones⟩ := List.forall_mem_cons.mp hnone
      have hshape : (line :: ls).flatMap (· ++ ['\n']) ++ last
          = line ++ '\n' :: (ls.flatMap (· ++ ['\n']) ++ last) := by simp
      rw [hshape, Header.findFrom_line index true hline '\n' _ fun _ => hno _]
      exact ih hones hnones _

/-- A block with a balanced body in which there is no header is scanned as one declaration. -/
theorem scan_block {m : BraceMode} {keyword : Text} (hk : IsKeyword keyword) {b : WrittenBlock}
    (hname : b.name ≠ []) (hquote : '"' ∉ b.name) (hbody : Balanced m b.body)
    (hnone : ∀ index, Header.findFrom keyword index false 0 (b.body ++ ['\x7d']) = []) :
    (scan m (b.text keyword) keyword).value = [b.declaration m keyword] ∧
      (scan m (b.text keyword) keyword).log = (validationField m b.raw).log := by
  have hfind : Header.find (b.text keyword) keyword
      = [⟨b.name, (b.header keyword).length⟩] := by
    have hshape : b.text keyword
        = keyword ++ " \"" ++ b.name ++ "\" " ++ '\x7b' :: (b.body ++ ['\x7d']) := rfl
    rw [Header.find, hshape, Header.findFrom_written 0 hk hname hquote, hnone, Nat.zero_add]
    rfl
  have hdrop : (b.text keyword).drop (b.header keyword).length = b.raw ++ [] := by
    rw [List.append_nil]
    exact List.drop_left
  have hscan : scan m (b.text keyword) keyword
      = [(⟨b.name, (b.header keyword).length⟩ : Header)].mapM
          (declarationAt m (b.text keyword) keyword) := by rw [scan, hfind]
  rw [hscan, Logged.value_mapM, Logged.log_mapM, List.map_singleton, List.flatMap_singleton,
    declarationAt_of_balanced hbody hdrop]
  refine ⟨rfl, ?_⟩
  rw [readWritten, Logged.log_bind, Logged.log_pure, List.append_nil, log_fieldsOf]

/-! ## Validations that the search finds -/

/-- Whether the search for a validation finds one in a text. -/
def opensValidation (inWord : Bool) (t : Text) : Bool :=
  (findAtWordStart? afterValidation? inWord t).isSome

/-- One step of the search. -/
theorem opensValidation_cons (inWord : Bool) (c : Char) (t : Text) :
    opensValidation inWord (c :: t)
      = (!inWord && (afterValidation? (c :: t)).isSome || opensValidation (isWord c) t) := by
  unfold opensValidation
  rw [findAtWordStart?]
  cases inWord with
  | true => rfl
  | false => cases afterValidation? (c :: t) <;> rfl

/-- A validation is a word and, behind white space, a brace. -/
theorem isSome_afterValidation? (t : Text) :
    (afterValidation? t).isSome
      = (dropPrefix? "validation" t).any fun r => (trimStart r).head? = some '\x7b' := by
  unfold afterValidation?
  cases dropPrefix? "validation" t with
  | none => rfl
  | some r =>
      rw [Option.bind_some, Option.any_some]
      cases trimStart r with
      | nil => rfl
      | cons c r =>
          by_cases hc : c = '\x7b'
          · subst hc
            rfl
          · split
            · next h => exact absurd (List.cons.inj h).1 hc
            · simp [hc]

/-- A validation goes from its word to its brace with nothing but white space between, so what
stands behind another character does not matter. -/
theorem isSome_afterValidation?_append {c : Char} (hword : isWord c = false)
    (hspace : isSpace c = false) (hbrace : c ≠ '\x7b') (u rest : Text) :
    (afterValidation? (u ++ c :: rest)).isSome = (afterValidation? u).isSome := by
  have hmem : c ∉ ("validation" : Text) := by
    have hall : ∀ d ∈ ("validation" : Text), isWord d = true := by decide
    intro hmem
    exact nomatch (hall c hmem).symm.trans hword
  rw [isSome_afterValidation?, isSome_afterValidation?, dropPrefix?_append_cons hmem,
    Option.any_map]
  congr 1
  funext r
  rw [trimStart, dropWhile_append_stop hspace, trimStart, List.head?_append]
  cases (r.dropWhile isSpace).head? with
  | none => simp [hbrace]
  | some d => rfl

/-- The search goes on behind such a character as if a text began there. -/
theorem opensValidation_append {c : Char} (hword : isWord c = false) (hspace : isSpace c = false)
    (hbrace : c ≠ '\x7b') (inWord : Bool) (u rest : Text) :
    opensValidation inWord (u ++ c :: rest)
      = (opensValidation inWord u || opensValidation false rest) := by
  induction u generalizing inWord with
  | nil =>
      have hhere := isSome_afterValidation?_append hword hspace hbrace [] rest
      rw [List.nil_append] at hhere ⊢
      rw [opensValidation_cons, hhere, hword]
      cases inWord <;> rfl
  | cons d u ih =>
      have hhere := isSome_afterValidation?_append hword hspace hbrace (d :: u) rest
      rw [List.cons_append] at hhere ⊢
      rw [opensValidation_cons, opensValidation_cons, hhere, ih, Bool.or_assoc]

/-- Without a brace there is no validation. -/
theorem opensValidation_eq_false {t : Text} (h : '\x7b' ∉ t) (inWord : Bool) :
    opensValidation inWord t = false := by
  induction t generalizing inWord with
  | nil => rfl
  | cons c t ih =>
      have hhere : (afterValidation? (c :: t)).isSome = false := by
        rw [isSome_afterValidation?]
        cases hdrop : dropPrefix? "validation" (c :: t) with
        | none => rfl
        | some r =>
            -- what is left of the text holds no brace either
            have hr : '\x7b' ∉ trimStart r := fun hmem => h (by
              rw [dropPrefix?_eq_some_iff.mp hdrop]
              exact List.mem_append_right _ ((List.dropWhile_sublist isSpace).subset hmem))
            have hhead : (trimStart r).head? ≠ some '\x7b' :=
              fun hhead => hr (List.mem_of_head? hhead)
            simp [hhead]
      rw [opensValidation_cons, hhere, ih fun hmem => h (List.mem_cons_of_mem c hmem),
        Bool.and_false, Bool.or_false]

/-- Escaping neither makes nor removes a validation. -/
theorem opensValidation_escape (inWord : Bool) (u t : Text) :
    opensValidation inWord (u ++ escape t) = opensValidation inWord (u ++ t) := by
  -- what stands before the next quote or backslash is collected in `u`
  induction t generalizing inWord u with
  | nil => rfl
  | cons c t ih =>
      by_cases hc : c = '\\' ∨ c = '"'
      · have hstop : isWord c = false ∧ isSpace c = false ∧ c ≠ '\x7b' := by
          rcases hc with rfl | rfl <;> decide
        obtain ⟨hword, hspace, hbrace⟩ := hstop
        have hrest := ih false []
        rw [List.nil_append, List.nil_append] at hrest
        have hnone : opensValidation false [] = false := rfl
        have hfirst := opensValidation_append hword hspace hbrace false [] (escape t)
        rw [List.nil_append, hnone, Bool.false_or] at hfirst
        rw [escape_cons_escaped hc, opensValidation_append (by decide) (by decide) (by decide),
          hfirst, hrest, opensValidation_append hword hspace hbrace]
      · rw [escape_cons_plain hc, List.append_cons, List.append_cons u c t]
        exact ih inWord (u ++ [c])

/-- A piece of text that the search crosses: it finds after the piece what it would find without
it. -/
def Crossed (piece : Text) : Prop :=
  ∀ rest, opensValidation false (piece ++ rest) = opensValidation false rest

/-- Pieces one after another are crossed when each of them is. -/
theorem Crossed.append {u v : Text} (hu : Crossed u) (hv : Crossed v) : Crossed (u ++ v) := by
  intro rest
  rw [List.append_assoc, hu, hv]

/-- Lines that are crossed with their ends are crossed together. -/
theorem crossed_lines {ls : List Text} (h : ∀ line ∈ ls, Crossed (line ++ ['\n'])) :
    Crossed (ls.flatMap (· ++ ['\n'])) := by
  induction ls with
  | nil => exact fun _ => rfl
  | cons line ls ih =>
      obtain ⟨hline, hrest⟩ := List.forall_mem_cons.mp h
      exact hline.append (ih hrest)

/-- A text without words is crossed. -/
theorem crossed_of_not_word {t : Text} (h : ∀ c ∈ t, isWord c = false) : Crossed t := by
  induction t with
  | nil => exact fun _ => rfl
  | cons c t ih =>
      obtain ⟨hc, ht⟩ := List.forall_mem_cons.mp h
      intro rest
      have hne : 'v' ≠ c := by
        rintro rfl
        exact absurd hc (by decide)
      have hhere : (afterValidation? (c :: (t ++ rest))).isSome = false := by
        rw [isSome_afterValidation?]
        rw [show dropPrefix? "validation" (c :: (t ++ rest)) = none from
          dropPrefix?_eq_none_of_head hne _ _]
        rfl
      rw [List.cons_append, opensValidation_cons, hhere, hc, ih ht]
      rfl

/-- A text in which no validation is found is crossed together with the quote behind it. -/
theorem crossed_quote {t : Text} (h : opensValidation false t = false) : Crossed (t ++ ['"']) := by
  intro rest
  rw [← List.append_cons, opensValidation_append (by decide) (by decide) (by decide), h,
    Bool.false_or]

/-- A literal is crossed when no validation is found in its text, behind anything without braces. -/
theorem crossed_literal {u t : Text} (hu : '\x7b' ∉ u) (ht : opensValidation false t = false) :
    Crossed (u ++ literal t) := by
  have hshape : u ++ literal t = u ++ ['"'] ++ (t ++ ['"']) := by simp [literal]
  rw [hshape]
  exact (crossed_quote (opensValidation_eq_false hu false)).append (crossed_quote ht)

end ModuleDocs.Hcl
