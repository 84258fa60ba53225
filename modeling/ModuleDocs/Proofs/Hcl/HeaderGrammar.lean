import ModuleDocs.Proofs.Hcl.HeaderWalk

/-! # The grammar of headers

    A header is read at the start of a line exactly where its grammar
    matches: blanks, the keyword, at least one blank, a name in double
    quotes, blanks, and the brace.  Only what stands up to the brace counts,
    so a header that is read in a text is read in the same way when the text
    goes on, and a header that ends before the text goes on was there
    without it. -/

namespace ModuleDocs.Hcl.Header

open Text

/-- A header without its brace: blanks, the keyword, at least one blank, the name in quotes,
blanks. -/
structure IsFront (keyword name front : Text) : Prop where
  parts : ∃ indent gap space, front = indent ++ (keyword ++ (gap ++ '"' :: (name ++ '"' :: space))) ∧
    (∀ c ∈ indent, isBlank c = true) ∧ gap ≠ [] ∧ (∀ c ∈ gap, isBlank c = true) ∧
    ∀ c ∈ space, isBlank c = true
  named : name ≠ []
  unquoted : '"' ∉ name

theorem skipBlanks_eq_cons {t rest : Text} {c : Char} (h : skipBlanks t = c :: rest) :
    ∃ blanks, t = blanks ++ c :: rest ∧ ∀ d ∈ blanks, isBlank d = true := by
  refine ⟨t.takeWhile isBlank, ?_, List.all_eq_true.mp List.all_takeWhile⟩
  rw [← h]
  exact List.takeWhile_append_dropWhile.symm

/-- A text in which a quote is left when all before it is skipped begins with a name and its
closing quote. -/
theorem quoted_name_of_dropWhile {t rest : Text} {c : Char}
    (h : t.dropWhile (· != '"') = c :: rest) :
    t = t.takeWhile (· != '"') ++ '"' :: rest ∧ '"' ∉ t.takeWhile (· != '"') := by
  have hquote : c = '"' := by
    have hstop := List.head?_dropWhile_not (· != '"') t
    rw [h] at hstop
    simpa using hstop
  subst hquote
  constructor
  · rw [← h]
    exact List.takeWhile_append_dropWhile.symm
  · intro hmem
    have hskipped := List.all_eq_true.mp
      (List.all_takeWhile (p := (· != '"')) (l := t)) _ hmem
    exact absurd hskipped (by decide)

/-- What is read behind a keyword. -/
theorem afterKeyword?_eq_some_iff {t name rest : Text} :
    afterKeyword? t = some (name, rest) ↔
      ∃ gap space after, t = gap ++ '"' :: (name ++ '"' :: (space ++ rest)) ∧
        rest = '\x7b' :: after ∧ gap ≠ [] ∧ (∀ c ∈ gap, isBlank c = true) ∧
        (∀ c ∈ space, isBlank c = true) ∧ name ≠ [] ∧ '"' ∉ name := by
  constructor
  · intro h
    cases t with
    | nil => cases h
    | cons b t =>
        rw [afterKeyword?] at h
        split at h
        · next hb =>
            split at h
            · next quoted hquoted =>
                dsimp only at h
                split at h
                · cases h
                · next hname =>
                    split at h
                    · cases h
                    · next c behind hbehind =>
                        split at h
                        · next after hafter =>
                            obtain ⟨rfl, rfl⟩ := Prod.mk.inj (Option.some.inj h)
                            obtain ⟨gap, hgap, hgapBlank⟩ := skipBlanks_eq_cons hquoted
                            obtain ⟨space, hspace, hspaceBlank⟩ := skipBlanks_eq_cons hafter
                            obtain ⟨hname', hunquoted⟩ := quoted_name_of_dropWhile hbehind
                            refine ⟨b :: gap, space, after, ?_, rfl, List.cons_ne_nil b gap,
                              List.forall_mem_cons.mpr ⟨hb, hgapBlank⟩, hspaceBlank, hname,
                              hunquoted⟩
                            rw [hgap, List.cons_append, ← hspace, ← hname']
                        · cases h
            · cases h
        · cases h
  · rintro ⟨gap, space, after, rfl, rfl, hgap, hgapBlank, hspace, hname, hquote⟩
    obtain ⟨b, gap, rfl⟩ := List.exists_cons_of_ne_nil hgap
    obtain ⟨hb, hgapBlank⟩ := List.forall_mem_cons.mp hgapBlank
    have hin : ∀ c ∈ name, (c != '"') = true := by
      intro c hc
      simpa using fun h : c = '"' => hquote (h ▸ hc)
    have hquoted : skipBlanks (gap ++ '"' :: (name ++ '"' :: (space ++ '\x7b' :: after)))
        = '"' :: (name ++ '"' :: (space ++ '\x7b' :: after)) :=
      dropWhile_eq_right hgapBlank (by decide) _
    have hbrace : skipBlanks (space ++ '\x7b' :: after) = '\x7b' :: after :=
      dropWhile_eq_right hspace (by decide) _
    have hstop : ('"' != '"') = false := by decide
    rw [List.cons_append, afterKeyword?, if_pos hb, hquoted]
    simp only [takeWhile_eq_left hin hstop, dropWhile_eq_right hin hstop, hbrace, if_neg hname]

theorem eq_append_of_bind {keyword t : Text} {found : Text × Text}
    (h : (dropPrefix? keyword t).bind afterKeyword? = some found) :
    ∃ u, t = keyword ++ u ∧ afterKeyword? u = some found := by
  obtain ⟨u, hu, hafter⟩ := Option.bind_eq_some_iff.mp h
  exact ⟨u, dropPrefix?_eq_some_iff.mp hu, hafter⟩

/-- What is read as a header is blanks, the keyword and what is read behind it. -/
theorem exists_afterKeyword?_of_at? {keyword t : Text} {found : Text × Text}
    (h : at? keyword t = some found) :
    ∃ indent u, t = indent ++ (keyword ++ u) ∧ (∀ c ∈ indent, isBlank c = true) ∧
      afterKeyword? u = some found := by
  induction t with
  | nil =>
      rw [at?] at h
      split at h
      · next found' hfound =>
          obtain rfl := Option.some.inj h
          obtain ⟨u, hsplit, hafter⟩ := eq_append_of_bind hfound
          exact ⟨[], u, hsplit, List.forall_mem_nil _, hafter⟩
      · cases h
  | cons c t ih =>
      rw [at?] at h
      split at h
      · next found' hfound =>
          obtain rfl := Option.some.inj h
          obtain ⟨u, hsplit, hafter⟩ := eq_append_of_bind hfound
          exact ⟨[], u, hsplit, List.forall_mem_nil _, hafter⟩
      · split at h
        · next hc =>
            obtain ⟨indent, u, rfl, hindent, hafter⟩ := ih h
            exact ⟨c :: indent, u, rfl, List.forall_mem_cons.mpr ⟨hc, hindent⟩, hafter⟩
        · cases h

/-- A header may begin behind any of the leading blanks. -/
theorem at?_eq_some_iff_exists {keyword t : Text} (hk : IsKeyword keyword)
    {found : Text × Text} :
    at? keyword t = some found ↔
      ∃ indent u, t = indent ++ (keyword ++ u) ∧ (∀ c ∈ indent, isBlank c = true) ∧
        afterKeyword? u = some found := by
  refine ⟨exists_afterKeyword?_of_at?, ?_⟩
  rintro ⟨indent, u, rfl, hindent, hafter⟩
  induction indent with
  | nil =>
      rw [List.nil_append, at?.eq_def, dropPrefix?_append, Option.bind_some, hafter]
  | cons c indent ih =>
      obtain ⟨hc, hindent⟩ := List.forall_mem_cons.mp hindent
      -- a keyword is a word, so it does not begin with a blank
      have hdrop : dropPrefix? keyword (c :: (indent ++ (keyword ++ u))) = none := by
        obtain ⟨d, k, rfl⟩ := List.exists_cons_of_ne_nil hk.nonempty
        refine dropPrefix?_eq_none_of_head ?_ k _
        rintro rfl
        have hd := isBlank_of_isWord (hk.word d List.mem_cons_self)
        rw [hc] at hd
        cases hd
      rw [List.cons_append, at?, hdrop, Option.bind_none]
      exact (if_pos hc).trans (ih hindent)

/-- A header is read exactly where its grammar matches. -/
theorem at?_eq_some_iff {keyword t name rest : Text} (hk : IsKeyword keyword) :
    at? keyword t = some (name, rest) ↔
      ∃ front after, t = front ++ rest ∧ rest = '\x7b' :: after ∧ IsFront keyword name front := by
  rw [at?_eq_some_iff_exists hk]
  constructor
  · rintro ⟨indent, u, rfl, hindent, hafter⟩
    obtain ⟨gap, space, after, rfl, rfl, hgap, hgapBlank, hspace, hname, hquote⟩ :=
      afterKeyword?_eq_some_iff.mp hafter
    refine ⟨indent ++ (keyword ++ (gap ++ '"' :: (name ++ '"' :: space))), after, ?_, rfl,
      ⟨indent, gap, space, rfl, hindent, hgap, hgapBlank, hspace⟩, hname, hquote⟩
    simp only [List.append_assoc, List.cons_append]
  · rintro ⟨front, after, rfl, rfl, ⟨indent, gap, space, rfl, hindent, hgap, hgapBlank, hspace⟩,
      hname, hquote⟩
    refine ⟨indent, gap ++ '"' :: (name ++ '"' :: (space ++ '\x7b' :: after)), ?_, hindent,
      afterKeyword?_eq_some_iff.mpr
        ⟨gap, space, after, rfl, rfl, hgap, hgapBlank, hspace, hname, hquote⟩⟩
    simp only [List.append_assoc, List.cons_append]

/-- At the brace of a header that is found an opening brace stands, whatever the keyword is. -/
theorem getElem?_brace_of_mem_find {text keyword : Text} {h : Header}
    (hmem : h ∈ find text keyword) : text[h.brace]? = some '\x7b' := by
  obtain ⟨before, u, rest, rfl, hread, hbrace⟩ := exists_at?_of_mem_findFrom 0 true hmem
  obtain ⟨indent, v, rfl, -, hafter⟩ := exists_afterKeyword?_of_at? hread
  obtain ⟨gap, space, after, rfl, rfl, -⟩ := afterKeyword?_eq_some_iff.mp hafter
  have hfront : ∃ front, before ++ (indent ++ (keyword ++ (gap ++ '"' :: (h.name ++ '"' ::
      (space ++ '\x7b' :: after))))) = front ++ '\x7b' :: after ∧ h.brace = front.length := by
    refine ⟨before ++ (indent ++ (keyword ++ (gap ++ '"' :: (h.name ++ '"' :: space)))), ?_, ?_⟩
    · simp only [List.append_assoc, List.cons_append]
    · simp only [List.length_append, List.length_cons] at hbrace ⊢
      omega
  obtain ⟨front, hsplit, hlength⟩ := hfront
  rw [hsplit, hlength, List.getElem?_append_right le_rfl, Nat.sub_self]
  rfl

/-- A header is read in the same way when the text goes on. -/
theorem at?_append {keyword u name rest : Text} (hk : IsKeyword keyword)
    (h : at? keyword u = some (name, rest)) (v : Text) :
    at? keyword (u ++ v) = some (name, rest ++ v) := by
  obtain ⟨front, after, rfl, rfl, hfront⟩ := (at?_eq_some_iff hk).mp h
  exact (at?_eq_some_iff hk).mpr ⟨front, after ++ v, List.append_assoc _ _ _, rfl, hfront⟩

/-- A header that ends before the text goes on was there without what follows. -/
theorem at?_of_append {keyword u v name r : Text} (hk : IsKeyword keyword)
    (h : at? keyword (u ++ v) = some (name, r)) (hlength : v.length < r.length) :
    ∃ rest, r = rest ++ v ∧ at? keyword u = some (name, rest) := by
  obtain ⟨front, after, hsplit, hbrace, hfront⟩ := (at?_eq_some_iff hk).mp h
  rcases List.append_eq_append_iff.mp hsplit with ⟨crossing, -, hv⟩ | ⟨rest, hu, hr⟩
  · rw [hv, List.length_append] at hlength
    omega
  · refine ⟨rest, hr, (at?_eq_some_iff hk).mpr ?_⟩
    cases rest with
    | nil =>
        rw [hr, List.nil_append] at hlength
        exact absurd hlength (lt_irrefl _)
    | cons c rest =>
        obtain rfl : c = '\x7b' := (List.cons.inj (hr.symm.trans hbrace)).1
        exact ⟨front, rest, hu, rfl, hfront⟩

/-- Unless it ends in what follows, a header is read with what follows exactly as without it. -/
theorem at?_append_eq_map {keyword u v : Text} (hk : IsKeyword keyword)
    (h : ∀ name r, at? keyword (u ++ v) = some (name, r) → v.length < r.length) :
    at? keyword (u ++ v) = (at? keyword u).map fun found => (found.1, found.2 ++ v) := by
  cases hpart : at? keyword u with
  | some found => exact at?_append hk hpart v
  | none =>
      refine Option.eq_none_iff_forall_ne_some.mpr fun found hsome => ?_
      obtain ⟨rest, -, hread⟩ := at?_of_append hk hsome (h _ _ hsome)
      exact nomatch hpart.symm.trans hread

end ModuleDocs.Hcl.Header
