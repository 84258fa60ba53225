import ModuleDocs.Usage.Condition
import ModuleDocs.Proofs.Hcl.WrittenValues

/-! # Conditions read back

    Two forms of condition connect variables: a trigger lists the values it
    takes, and a conditional variable names the value of a trigger for which
    it is required.  Both are recognised by patterns that could match
    anywhere, also inside a value or a name.  For plain names and values
    they do not: the values a trigger lists are found in order, and of all
    names only the one that a condition compares is found compared. -/

namespace ModuleDocs.Condition

open Text

/-! ## Matches from left to right -/

section Matches

variable {α : Type} {read : Text → Option (α × Text)}

/-- The rest of a match is passed over. -/
theorem matchesFrom_skip (w rest : Text) :
    matchesFrom read w.length (w ++ rest) = matchesFrom read 0 rest := by
  induction w with
  | nil => rfl
  | cons c w ih => exact ih

/-- A match is found where it begins, and the search goes on behind it. -/
theorem allMatches_match {u rest : Text} {a : α} (hne : u ≠ [])
    (h : read (u ++ rest) = some (a, rest)) :
    allMatches read (u ++ rest) = a :: allMatches read rest := by
  cases u with
  | nil => exact absurd rfl hne
  | cons c w =>
      have hlength : (w ++ rest).length - rest.length = w.length := by simp
      rw [List.cons_append] at h ⊢
      rw [allMatches, matchesFrom, h]
      show a :: matchesFrom read ((w ++ rest).length - rest.length) (w ++ rest) = _
      rw [hlength, matchesFrom_skip]
      rfl

/-- A stretch in which no match begins is crossed. -/
theorem allMatches_append {u rest : Text} (h : ∀ x, x ≠ [] → x <:+ u → read (x ++ rest) = none) :
    allMatches read (u ++ rest) = allMatches read rest := by
  induction u with
  | nil => rfl
  | cons c u ih =>
      have hhere : read (c :: (u ++ rest)) = none :=
        h (c :: u) (List.cons_ne_nil c u) (List.suffix_refl _)
      rw [List.cons_append, allMatches, matchesFrom, hhere]
      exact ih fun x hx hsuffix => h x hx (hsuffix.trans (List.suffix_cons c u))

end Matches

/-! ## Plain names and values -/

/-- A name as it is usually written: an ASCII letter or an underscore, then ASCII letters, digits,
underscores and hyphens. -/
def isName : Text → Bool
  | [] => false
  | c :: t => isIdentStart c && t.all fun d => d.isAlphanum || d = '_' || d = '-'

/-- A character that needs no care inside a value: no quote, backslash, bracket, brace, equals sign
or newline. -/
def isPlain (c : Char) : Bool :=
  c ∉ ['"', '\\', '[', ']', '\x7b', '\x7d', '=', '\n']

/-- A character of an identifier is no white space. -/
theorem isSpace_of_isIdentPart {c : Char} (h : isIdentPart c = true) : isSpace c = false := by
  cases hs : isSpace c with
  | false => rfl
  | true =>
      have hword := isWord_of_isSpace hs
      have hhyphen : c ≠ '-' := ne_of_class hs (by decide)
      simp [isIdentPart, hword, hhyphen] at h

/-- What begins an identifier can stand in one. -/
theorem isIdentPart_of_isIdentStart {c : Char} (h : isIdentStart c = true) :
    isIdentPart c = true := by
  simp only [isIdentStart, Bool.or_eq_true, decide_eq_true_eq] at h
  rcases h with h | rfl
  · have halnum : c.isAlphanum = true := by simp [Char.isAlphanum, h]
    simp [isIdentPart, isWord_of_isAlphanum halnum]
  · decide

/-- All characters of a name can stand in an identifier. -/
theorem isIdentPart_of_mem_name {name : Text} (h : isName name = true) :
    ∀ d ∈ name, isIdentPart d = true := by
  cases name with
  | nil => exact List.forall_mem_nil _
  | cons c t =>
      obtain ⟨hstart, hrest⟩ := Bool.and_eq_true_iff.mp h
      intro d hd
      rcases List.mem_cons.mp hd with rfl | hd
      · exact isIdentPart_of_isIdentStart hstart
      · have hkind := List.all_eq_true.mp hrest d hd
        simp only [Bool.or_eq_true, decide_eq_true_eq] at hkind
        rcases hkind with (hd | rfl) | rfl
        · simp [isIdentPart, isWord_of_isAlphanum hd]
        · decide
        · decide

/-- An identifier: an ASCII letter or an underscore, then word characters and hyphens. -/
def isIdentifier : Text → Bool
  | [] => false
  | c :: t => isIdentStart c && t.all isIdentPart

/-- All characters of an identifier can stand in one. -/
theorem isIdentPart_of_mem_identifier {name : Text} (h : isIdentifier name = true) :
    ∀ d ∈ name, isIdentPart d = true := by
  cases name with
  | nil => exact List.forall_mem_nil _
  | cons c t =>
      obtain ⟨hstart, hrest⟩ := Bool.and_eq_true_iff.mp h
      exact List.forall_mem_cons.mpr
        ⟨isIdentPart_of_isIdentStart hstart, List.all_eq_true.mp hrest⟩

/-- An identifier is trimmed. -/
theorem trim_identifier {name : Text} (h : isIdentifier name = true) : trim name = name := by
  have hpart := isIdentPart_of_mem_identifier h
  exact trim_eq_self (fun c hc => isSpace_of_isIdentPart (hpart c (List.mem_of_mem_head? hc)))
    fun c hc => isSpace_of_isIdentPart (hpart c (List.mem_of_mem_getLast? hc))

theorem not_mem_of_isIdentifier {name : Text} (h : isIdentifier name = true) {c : Char}
    (hc : isIdentPart c = false) : c ∉ name := by
  intro hmem
  rw [isIdentPart_of_mem_identifier h c hmem] at hc
  exact nomatch hc

/-- An identifier is read to its end. -/
theorem identifier?_append_cons {name : Text} (h : isIdentifier name = true) {c : Char}
    (hc : isIdentPart c = false) (rest : Text) :
    identifier? (name ++ c :: rest) = some (name, c :: rest) := by
  cases name with
  | nil => exact nomatch h
  | cons d t =>
      obtain ⟨hstart, hrest⟩ := Bool.and_eq_true_iff.mp h
      have htail : ∀ e ∈ t, isIdentPart e = true := List.all_eq_true.mp hrest
      rw [List.cons_append, identifier?, if_pos hstart, takeWhile_eq_left htail hc,
        dropWhile_eq_right htail hc]

theorem not_mem_of_isPlain {value : Text} (h : value.all isPlain = true) {c : Char}
    (hc : isPlain c = false) : c ∉ value := by
  intro hmem
  rw [List.all_eq_true.mp h c hmem] at hc
  exact nomatch hc

/-! ## Literals in conditions -/

/-- A value between double quotes. -/
def literal (value : Text) : Text := '"' :: (value ++ ['"'])

/-- Whether a text can stand between the quotes of a literal: a quote or a backslash only behind a
backslash, and no line ends behind a backslash. -/
def isBody : Text → Bool
  | [] => true
  | ['\\'] => false
  | '\\' :: c :: t => c != '\n' && isBody t
  | c :: t => c != '"' && isBody t

/-- A character that is no backslash stands for itself, and is no quote. -/
theorem isBody_cons {c : Char} (hc : c ≠ '\\') (t : Text) :
    isBody (c :: t) = (c != '"' && isBody t) := by
  rw [isBody.eq_def]
  split
  · next h => exact nomatch h
  · next h => exact absurd (List.cons.inj h).1 hc
  · next h => exact absurd (List.cons.inj h).1 hc
  · next h =>
      obtain ⟨rfl, rfl⟩ := List.cons.inj h
      rfl

theorem ne_backslash_of_alone {c : Char} {t : Text} (hlast : c = '\\' → t = [] → False)
    (hescape : ∀ d u, c = '\\' → t = d :: u → False) : c ≠ '\\' := by
  intro hslash
  cases t with
  | nil => exact hlast hslash rfl
  | cons d u => exact hescape d u hslash rfl

/-- The body of a literal is read up to the closing quote. -/
theorem stringLiteral?_literal {body : Text} (h : isBody body = true) (rest : Text) :
    stringLiteral? (literal body ++ rest) = some (body, rest) := by
  have hshape : literal body ++ rest = '"' :: (body ++ '"' :: rest) := by simp [literal]
  rw [hshape, stringLiteral?]
  fun_induction isBody body with
  | case1 => rfl
  | case2 => exact nomatch h
  | case3 c t ih =>
      obtain ⟨hc, hrest⟩ := Bool.and_eq_true_iff.mp h
      rw [List.cons_append, List.cons_append, Hcl.quotedBody?, if_pos hc,
        ih hrest (by simp [literal])]
      rfl
  | case4 c t hlast hescape ih =>
      obtain ⟨hc, hrest⟩ := Bool.and_eq_true_iff.mp h
      have hslash : c ≠ '\\' := ne_backslash_of_alone hlast hescape
      have hquote : c ≠ '"' := by simpa using hc
      rw [List.cons_append, Hcl.quotedBody?_cons hslash, if_neg hquote, if_pos rfl,
        ih hrest (by simp [literal])]
      rfl

theorem stringLiteral?_eq_none {c : Char} (hc : c ≠ '"') (t : Text) :
    stringLiteral? (c :: t) = none := by
  rw [stringLiteral?.eq_def]
  split
  · next h => exact absurd (List.cons.inj h).1 hc
  · rfl

/-- Values in a row are found one after another. -/
theorem allMatches_literals {values : List Text}
    (h : ∀ value ∈ values, isBody value = true) :
    allMatches stringLiteral? (join ", " (values.map literal)) = values := by
  induction values with
  | nil => rfl
  | cons value values ih =>
      have hvalue := stringLiteral?_literal (h value List.mem_cons_self)
      have hrest := ih fun v hv => h v (List.mem_cons_of_mem value hv)
      have hne : literal value ≠ [] := List.cons_ne_nil _ _
      cases values with
      | nil =>
          have hjoin : join ", " ([value].map literal) = literal value ++ [] := by
            simp [join]
          rw [hjoin, allMatches_match hne (hvalue [])]
          rfl
      | cons next values =>
          obtain ⟨rest, hjoined⟩ : ∃ t, t = join ", " ((next :: values).map literal) := ⟨_, rfl⟩
          have hjoin : join ", " ((value :: next :: values).map literal)
              = literal value ++ (", " ++ rest) := by
            rw [hjoined, List.map_cons, List.map_cons, join_cons_cons, List.append_assoc]
          have hcross : allMatches stringLiteral? (", " ++ rest)
              = allMatches stringLiteral? rest := by
            refine allMatches_append fun x hx hsuffix => ?_
            cases x with
            | nil => exact absurd rfl hx
            | cons c x =>
                have hc : c ∈ ([',', ' '] : Text) := hsuffix.subset List.mem_cons_self
                refine stringLiteral?_eq_none ?_ (x ++ rest)
                rintro rfl
                exact absurd hc (by decide)
          rw [hjoin, allMatches_match hne (hvalue (", " ++ rest)), hcross, hjoined, hrest]

theorem varMark_eq : ("var." : Text) = ['v', 'a', 'r', '.'] := by decide

theorem afterMark?_here {c : Char} (hc : isSpace c = false) (mark rest : Text) :
    afterMark? (c :: mark) (c :: mark ++ rest) = some rest := by
  rw [afterMark?, trimStart_eq_self (by simpa using hc), dropPrefix?_append]

theorem afterMark?_eq_none {c d : Char} (hne : d ≠ c) (hc : isSpace c = false) (mark t : Text) :
    afterMark? (d :: mark) (c :: t) = none := by
  rw [afterMark?, trimStart_eq_self (by simpa using hc)]
  exact dropPrefix?_eq_none_of_head hne mark t

/-! ## The condition of a trigger -/

/-- The condition that a variable takes one of several values. -/
def listing (values : List Text) (name : Text) : Text :=
  "contains([" ++ join ", " (values.map literal) ++ "], var." ++ name ++ ")"

/-- The characters of a row of plain values. -/
theorem forall_mem_literals {P : Char → Prop} {values : List Text}
    (hvalues : ∀ value ∈ values, value.all isPlain = true)
    (hcode : ∀ c ∈ ("\", " : Text), P c) (hplain : ∀ c, isPlain c = true → P c) :
    ∀ c ∈ join ", " (values.map literal), P c := by
  intro c hc
  rcases mem_join hc with hsep | ⟨part, hpart, hmem⟩
  · exact hcode c (List.mem_cons_of_mem _ hsep)
  · obtain ⟨value, hvalue, rfl⟩ := List.mem_map.mp hpart
    rcases List.mem_cons.mp hmem with rfl | hmem
    · exact hcode '"' List.mem_cons_self
    · rcases List.mem_append.mp hmem with hmem | hmem
      · exact hplain c (List.all_eq_true.mp (hvalues value hvalue) c hmem)
      · obtain rfl := List.mem_singleton.mp hmem
        exact hcode '"' List.mem_cons_self

/-- A call that lists values is read back when none of them holds the closing bracket. -/
theorem containsCall?_listing {values : List Text} {name : Text}
    (hname : isIdentifier name = true) (hvalues : ∀ value ∈ values, ']' ∉ value) (rest : Text) :
    containsCall? (listing values name ++ rest)
      = some ((join ", " (values.map literal), name), rest) := by
  obtain ⟨list, hlist⟩ : ∃ t, t = join ", " (values.map literal) := ⟨_, rfl⟩
  have hclosing : ∀ c ∈ list, (c != ']') = true := by
    intro c hc
    have hne : c ≠ ']' := by
      rintro rfl
      rcases mem_join (hlist ▸ hc) with hsep | ⟨part, hpart, hmem⟩
      · exact absurd hsep (by decide)
      · obtain ⟨value, hvalue, rfl⟩ := List.mem_map.mp hpart
        have hbody : ']' ∈ value := by simpa [literal] using hmem
        exact hvalues value hvalue hbody
    simpa using hne
  have hshape : listing values name ++ rest
      = "contains" ++ '(' :: '[' ::
          (list ++ ']' :: ',' :: ' ' :: ("var." ++ (name ++ ')' :: rest))) := by
    unfold listing
    rw [← hlist]
    simp
  have hopening : ∀ c t, isSpace c = false → afterMark? [c] (c :: t) = some t :=
    fun c t hc => afterMark?_here hc [] t
  have hvar : ∀ t : Text, afterMark? "var." (' ' :: ("var." ++ t)) = some t := by
    intro t
    rw [varMark_eq]
    exact afterMark?_here (by decide) ['a', 'r', '.'] t
  have hbracket : (']' != ']') = false := by decide
  rw [containsCall?, hshape, dropPrefix?_append, ← hlist]
  simp only [Option.bind_eq_bind, Option.bind_some, hopening '(' _ (by decide),
    hopening '[' _ (by decide), takeWhile_eq_left hclosing hbracket,
    dropWhile_eq_right hclosing hbracket, dropPrefix?, if_true, hopening ',' _ (by decide)]
  rw [hvar, Option.bind_some, identifier?_append_cons hname (by decide), Option.bind_some,
    hopening ')' rest (by decide), Option.bind_some]

/-- The characters of the condition of a trigger. -/
theorem forall_mem_listing {P : Char → Prop} {values : List Text} {name : Text}
    (hname : isName name = true) (hvalues : ∀ value ∈ values, value.all isPlain = true)
    (hcode : ∀ c ∈ ("contains([\", ], var.)" : Text), P c) (hplain : ∀ c, isPlain c = true → P c)
    (hpart : ∀ c, isIdentPart c = true → P c) : ∀ c ∈ listing values name, P c := by
  intro c hc
  unfold listing at hc
  have hnamed := isIdentPart_of_mem_name hname
  have hpieces : ∀ piece ∈ (["contains([", "], var.", ")", "\", "] : List Text), ∀ d ∈ piece,
      d ∈ ("contains([\", ], var.)" : Text) := by decide
  simp only [List.mem_append] at hc
  rcases hc with (((hc | hc) | hc) | hc) | hc
  · exact hcode c (hpieces _ (by simp) c hc)
  · exact forall_mem_literals hvalues (fun d hd => hcode d (hpieces _ (by simp) d hd)) hplain c hc
  · exact hcode c (hpieces _ (by simp) c hc)
  · exact hpart c (hnamed c hc)
  · exact hcode c (hpieces _ (by simp) c hc)

/-- The condition that a variable is given when a trigger has a value. -/
def demand (trigger value name : Text) : Text :=
  "var." ++ trigger ++ " != \"" ++ value ++ "\" || var." ++ name ++ " != null"

/-- The condition in pieces: the name compared, the value and what follows. -/
theorem demand_eq (trigger value name : Text) :
    demand trigger value name
      = "var." ++ (trigger ++ ' ' :: '!' :: '=' :: ' ' ::
          (literal value ++ (" || var." ++ name ++ " != null"))) := by
  unfold demand literal
  simp

/-- A mark that is found stands behind white space. -/
theorem exists_of_afterMark? {mark t rest : Text} (h : afterMark? mark t = some rest) :
    ∃ space, t = space ++ (mark ++ rest) ∧ ∀ c ∈ space, isSpace c = true := by
  refine ⟨t.takeWhile isSpace, ?_, fun _ => List.mem_takeWhile_imp⟩
  rw [← dropPrefix?_eq_some_iff.mp h, takeWhile_append_trimStart]

/-- A literal that is found begins with a quote. -/
theorem head_of_stringLiteral? {t : Text} {found : Text × Text}
    (h : stringLiteral? t = some found) : ∃ rest, t = '"' :: rest := by
  cases t with
  | nil => exact nomatch h
  | cons c t =>
      by_cases hc : c = '"'
      · exact ⟨t, by rw [hc]⟩
      · rw [stringLiteral?_eq_none hc] at h
        exact nomatch h

/-- A comparison of a variable up to the value: the variable, white space, one of the two operators,
white space. -/
def IsComparison (name t : Text) : Prop :=
  ∃ space operator gap, t = "var." ++ (name ++ (space ++ (operator ++ gap))) ∧
    (operator = "!=" ∨ operator = "==") ∧ (∀ c ∈ space, isSpace c = true) ∧
      ∀ c ∈ gap, isSpace c = true

/-- A comparison begins with the mark of variables. -/
theorem IsComparison.varMark_prefix {name t : Text} (h : IsComparison name t) :
    ("var." : Text) <+: t := by
  obtain ⟨space, operator, gap, rfl, -⟩ := h
  exact List.prefix_append _ _

/-- Up to its first quote a comparison that is found is the variable, the operator and white
space. -/
theorem isComparison_of_comparison? {name t : Text} {found : Text × Text}
    (h : comparison? name t = some found) :
    ∃ front rest, t = front ++ '"' :: rest ∧ IsComparison name front := by
  rw [comparison?] at h
  obtain ⟨behind, hbehind, h⟩ := Option.bind_eq_some_iff.mp h
  obtain ⟨literalText, hmark, h⟩ := Option.bind_eq_some_iff.mp h
  obtain ⟨space, operator, hsplit, hoperator, hspace⟩ : ∃ space operator,
      behind = space ++ (operator ++ literalText) ∧ (operator = "!=" ∨ operator = "==") ∧
        ∀ c ∈ space, isSpace c = true := by
    rcases Option.or_eq_some_iff.mp hmark with hmark | ⟨-, hmark⟩
    · obtain ⟨space, hsplit, hspace⟩ := exists_of_afterMark? hmark
      exact ⟨space, _, hsplit, .inl rfl, hspace⟩
    · obtain ⟨space, hsplit, hspace⟩ := exists_of_afterMark? hmark
      exact ⟨space, _, hsplit, .inr rfl, hspace⟩
  obtain ⟨rest, hrest⟩ := head_of_stringLiteral? h
  have hliteral : literalText.takeWhile isSpace ++ '"' :: rest = literalText := by
    rw [← hrest, takeWhile_append_trimStart]
  refine ⟨"var." ++ (name ++ (space ++ (operator ++ literalText.takeWhile isSpace))), rest, ?_,
    ⟨space, operator, _, rfl, hoperator, hspace, fun _ => List.mem_takeWhile_imp⟩⟩
  rw [dropPrefix?_eq_some_iff.mp hbehind, hsplit]
  simp only [List.append_assoc]
  rw [hliteral]

/-- Two texts that are cut at their first quote are cut alike. -/
theorem eq_of_append_quote {x y r s : Text} (hx : '"' ∉ x) (hy : '"' ∉ y)
    (h : x ++ '"' :: r = y ++ '"' :: s) : x = y ∧ r = s := by
  have hcut : ∀ u : Text, '"' ∉ u → ∀ w, (u ++ '"' :: w).takeWhile (· != '"') = u := by
    intro u hu w
    refine takeWhile_eq_left (fun d hd => ?_) (by decide) w
    have hne : d ≠ '"' := fun hd' => hu (hd' ▸ hd)
    simpa using hne
  have hxy : x = y := by rw [← hcut x hx r, h, hcut y hy]
  subst hxy
  exact ⟨rfl, (List.cons.inj (List.append_cancel_left h)).2⟩

section Comparison

variable {name : Text} (hname : isIdentifier name = true)
include hname

/-- There is no quote in a comparison of an identifier. -/
theorem IsComparison.quote_not_mem {t : Text} (h : IsComparison name t) : '"' ∉ t := by
  obtain ⟨space, operator, gap, rfl, hoperator, hspace, hgap⟩ := h
  have hquote : ∀ u : Text, (∀ c ∈ u, isSpace c = true) → '"' ∉ u :=
    fun u hu hmem => absurd (hu _ hmem) (by decide)
  have hoperator' : '"' ∉ operator := by rcases hoperator with rfl | rfl <;> decide
  simp only [List.mem_append, not_or]
  exact ⟨by decide, not_mem_of_isIdentifier hname (by decide), hquote space hspace, hoperator',
    hquote gap hgap⟩

/-- What stands before the next quote is a comparison where one is found. -/
theorem isComparison_of_quote {x rest : Text} {found : Text × Text} (hquote : '"' ∉ x)
    (h : comparison? name (x ++ '"' :: rest) = some found) : IsComparison name x := by
  obtain ⟨front, rest', hsplit, hfront⟩ := isComparison_of_comparison? h
  obtain ⟨rfl, -⟩ := eq_of_append_quote hquote (hfront.quote_not_mem hname) hsplit
  exact hfront

omit hname in
/-- A comparison begins with the letter of its variable mark. -/
theorem comparison?_eq_none_of_head {c : Char} (hc : 'v' ≠ c) (t : Text) :
    comparison? name (c :: t) = none := by
  rw [comparison?, varMark_eq, List.cons_append, dropPrefix?_eq_none_of_head hc]
  rfl

/-- A comparison of one variable is no comparison of another. -/
theorem comparison?_other {other : Text} (hother : isIdentifier other = true) (hne : name ≠ other)
    {c : Char} (hc : isIdentPart c = false) (rest : Text) :
    comparison? name ("var." ++ (other ++ c :: rest)) = none := by
  have hstop : c ∉ name := not_mem_of_isIdentifier hname hc
  rw [comparison?, dropPrefix?_append_append, dropPrefix?_append_cons hstop]
  cases hdrop : dropPrefix? name other with
  | none => rfl
  | some r =>
      have hsplit := dropPrefix?_eq_some_iff.mp hdrop
      cases r with
      | nil => exact absurd (hsplit.trans (List.append_nil name)).symm hne
      | cons d r =>
          -- the other name goes on, so no comparison mark comes next
          have hpart := isIdentPart_of_mem_identifier hother
          have hd : isIdentPart d = true :=
            hpart d (hsplit ▸ List.mem_append_right name List.mem_cons_self)
          have hspace : isSpace d = false := isSpace_of_isIdentPart hd
          have hmarks : ("!=" : Text) = ['!', '='] ∧ ("==" : Text) = ['=', '='] := by decide
          have hbang : '!' ≠ d := (ne_of_class hd (by decide)).symm
          have hequals : '=' ≠ d := (ne_of_class hd (by decide)).symm
          rw [hmarks.1, hmarks.2, Option.map_some, List.cons_append]
          show ((afterMark? _ _).or (afterMark? _ _)).bind _ = none
          rw [afterMark?_eq_none hbang hspace, afterMark?_eq_none hequals hspace]
          rfl

end Comparison

end ModuleDocs.Condition
