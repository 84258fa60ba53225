import ModuleDocs.Hcl.Header
import ModuleDocs.Proofs.Text.Compound

/-! # The walk over a text in search of headers

    A header is looked for at the start of each line, from left to right, and
    a header that was found is passed over as a whole.  A line that does not
    open with the keyword and a blank holds no header, so the walk crosses it
    without result; at a written header it finds the name and the brace, and
    goes on behind the brace, wherever the line breaks inside the name are. -/

namespace ModuleDocs.Hcl

open Text

/-- A keyword is a word. -/
structure IsKeyword (keyword : Text) : Prop where
  nonempty : keyword ≠ []
  word : ∀ c ∈ keyword, isWord c = true

/-- The two keywords of declarations are words. -/
theorem isKeyword_of_eq {keyword : Text} (h : keyword = "variable" ∨ keyword = "output") :
    IsKeyword keyword := by
  rcases h with rfl | rfl
  · exact ⟨by decide, by decide⟩
  · exact ⟨by decide, by decide⟩

/-- A character outside words does not occur in a keyword. -/
theorem IsKeyword.not_mem {keyword : Text} (hk : IsKeyword keyword) {c : Char}
    (hc : isWord c = false) : c ∉ keyword := by
  intro h
  rw [hk.word c h] at hc
  exact nomatch hc

/-! ## Lines that open with a keyword -/

/-- Whether a line begins, after blanks, with the keyword and one more blank. -/
def opensWith (keyword line : Text) : Bool :=
  match dropPrefix? keyword (skipBlanks line) with
  | some (c :: _) => isBlank c
  | _ => false

/-- What stands behind a character that is neither blank nor part of a word does not change how a
line opens. -/
theorem opensWith_append_cons {keyword : Text} (hk : IsKeyword keyword) {c : Char}
    (hblank : isBlank c = false) (hword : isWord c = false) (line rest : Text) :
    opensWith keyword (line ++ c :: rest) = opensWith keyword line := by
  rw [opensWith, opensWith, skipBlanks, dropWhile_append_stop hblank,
    dropPrefix?_append_cons (hk.not_mem hword), skipBlanks]
  cases dropPrefix? keyword (List.dropWhile isBlank line) with
  | none => rfl
  | some r =>
      cases r with
      | nil => simpa using hblank
      | cons d r => rfl

namespace Header

theorem afterKeyword?_eq_none {c : Char} (hc : isBlank c = false) (t : Text) :
    afterKeyword? (c :: t) = none := by
  rw [afterKeyword?, if_neg (by simp [hc])]

/-- No header starts where a text does not open with the keyword. -/
theorem at?_eq_none {keyword : Text} (hk : IsKeyword keyword) {t : Text}
    (h : opensWith keyword t = false) : at? keyword t = none := by
  -- the header may begin behind any of the leading blanks, so the induction goes through them
  induction t with
  | nil =>
      cases hkw : keyword with
      | nil => exact absurd hkw hk.nonempty
      | cons d k => rfl
  | cons c t ih =>
      rw [at?]
      by_cases hc : isBlank c = true
      · have hskip : skipBlanks (c :: t) = skipBlanks t := List.dropWhile_cons_of_pos hc
        have hdrop : dropPrefix? keyword (c :: t) = none := by
          cases hkw : keyword with
          | nil => exact absurd hkw hk.nonempty
          | cons d k =>
              refine dropPrefix?_eq_none_of_head ?_ k t
              intro hdc
              have hd := isBlank_of_isWord (hk.word d (hkw ▸ List.mem_cons_self))
              rw [hdc, hc] at hd
              exact nomatch hd
        rw [opensWith, hskip] at h
        simp [hdrop, hc, ih h]
      · have hskip : skipBlanks (c :: t) = c :: t := List.dropWhile_cons_of_neg hc
        rw [opensWith, hskip] at h
        cases hdrop : dropPrefix? keyword (c :: t) with
        | none => simp [hc]
        | some r =>
            rw [hdrop] at h
            cases r with
            | nil => simp [afterKeyword?, hc]
            | cons b r => simp [afterKeyword?_eq_none h, hc]

/-- A written header is found. -/
theorem at?_written (keyword : Text) {name : Text} (hname : name ≠ []) (hquote : '"' ∉ name)
    (t : Text) :
    at? keyword (keyword ++ " \"" ++ name ++ "\" " ++ '\x7b' :: t) = some (name, '\x7b' :: t) := by
  have hin : ∀ c ∈ name, (c != '"') = true := by
    intro c hc
    simpa using fun h : c = '"' => hquote (h ▸ hc)
  have htake : (name ++ '"' :: ' ' :: '\x7b' :: t).takeWhile (· != '"') = name :=
    takeWhile_eq_left hin (by decide) _
  have hdrop : (name ++ '"' :: ' ' :: '\x7b' :: t).dropWhile (· != '"')
      = '"' :: ' ' :: '\x7b' :: t := dropWhile_eq_right hin (by decide) _
  have hafter : afterKeyword? (' ' :: '"' :: (name ++ '"' :: ' ' :: '\x7b' :: t))
      = some (name, '\x7b' :: t) := by
    rw [afterKeyword?, if_pos (by decide)]
    simp [skipBlanks, isBlank, htake, hdrop, hname]
  have hshape : keyword ++ " \"" ++ name ++ "\" " ++ '\x7b' :: t
      = keyword ++ ' ' :: '"' :: (name ++ '"' :: ' ' :: '\x7b' :: t) := by simp
  rw [hshape, at?.eq_def, dropPrefix?_append]
  simp [hafter]

/-! ## Steps of the walk -/

section Walk

variable {keyword : Text} (index : Nat) (lineStart : Bool)

/-- The walk takes one step where no header is found. -/
theorem findFrom_step {c : Char} {t : Text} (h : lineStart = true → at? keyword (c :: t) = none) :
    findFrom keyword index lineStart 0 (c :: t)
      = findFrom keyword (index + 1) (c = '\n') 0 t := by
  cases lineStart with
  | false => rfl
  | true => simp [findFrom, h rfl]

/-- The walk passes over what belongs to the header found last. -/
theorem findFrom_skip (u : Text) (c : Char) (t : Text) :
    findFrom keyword index lineStart (u.length + 1) (u ++ c :: t)
      = findFrom keyword (index + u.length + 1) (c = '\n') 0 t := by
  induction u generalizing index lineStart with
  | nil => rfl
  | cons d u ih =>
      show findFrom keyword (index + 1) (d = '\n') (u.length + 1) (u ++ c :: t) = _
      rw [ih, List.length_cons, Nat.add_right_comm index 1, Nat.add_assoc index u.length 1]

/-- The walk crosses a line without header together with the character behind it. -/
theorem findFrom_line {line : Text} (hline : '\n' ∉ line) (c : Char) (t : Text)
    (h : lineStart = true → at? keyword (line ++ c :: t) = none) :
    findFrom keyword index lineStart 0 (line ++ c :: t)
      = findFrom keyword (index + line.length + 1) (c = '\n') 0 t := by
  induction line generalizing index lineStart with
  | nil => exact findFrom_step index lineStart h
  | cons d line ih =>
      have hd : decide (d = '\n') = false := by
        simpa using fun hd : d = '\n' => hline (hd ▸ List.mem_cons_self)
      rw [List.cons_append, findFrom_step index lineStart (t := line ++ c :: t) h, hd,
        ih (index + 1) false (fun hmem => hline (List.mem_cons_of_mem d hmem)) (by simp),
        List.length_cons, Nat.add_right_comm index 1, Nat.add_assoc index line.length 1]

/-- A last line without header ends the walk. -/
theorem findFrom_lastLine {line : Text} (hline : '\n' ∉ line)
    (h : lineStart = true → at? keyword line = none) :
    findFrom keyword index lineStart 0 line = [] := by
  induction line generalizing index lineStart with
  | nil => rfl
  | cons d line ih =>
      have hd : decide (d = '\n') = false := by
        simpa using fun hd : d = '\n' => hline (hd ▸ List.mem_cons_self)
      rw [findFrom_step index lineStart h, hd]
      exact ih (index + 1) false (fun hmem => hline (List.mem_cons_of_mem d hmem)) (by simp)

/-- What the walk finds is read somewhere in the text, and its brace is where the rest begins. -/
theorem exists_at?_of_mem_findFrom {skip : Nat} {t : Text} {h : Header}
    (hmem : h ∈ findFrom keyword index lineStart skip t) :
    ∃ before u rest, t = before ++ u ∧ at? keyword u = some (h.name, rest) ∧
      h.brace = index + before.length + (u.length - rest.length) := by
  induction t generalizing index lineStart skip with
  | nil => cases hmem
  | cons c t ih =>
      -- what is read behind `c` is read one place further in the whole text
      have hlater : ∀ {lineStart : Bool} {skip : Nat},
          h ∈ findFrom keyword (index + 1) lineStart skip t →
            ∃ before u rest, c :: t = before ++ u ∧ at? keyword u = some (h.name, rest) ∧
              h.brace = index + before.length + (u.length - rest.length) := by
        intro lineStart skip hmem
        obtain ⟨before, u, rest, rfl, hread, hbrace⟩ := ih (index + 1) lineStart hmem
        refine ⟨c :: before, u, rest, rfl, hread, ?_⟩
        rw [hbrace, List.length_cons, Nat.add_right_comm index 1, Nat.add_assoc index]
      cases skip with
      | succ skip => exact hlater hmem
      | zero =>
          rw [findFrom] at hmem
          split at hmem
          · next name rest hfound =>
              rcases List.mem_cons.mp hmem with rfl | hmem
              · cases lineStart with
                | false => cases hfound
                | true => exact ⟨[], c :: t, rest, rfl, hfound, rfl⟩
              · exact hlater hmem
          · exact hlater hmem

/-- At a written header the walk finds its name and brace and goes on behind the brace. -/
theorem findFrom_written (hk : IsKeyword keyword) {name : Text} (hname : name ≠ [])
    (hquote : '"' ∉ name) (t : Text) :
    findFrom keyword index true 0 (keyword ++ " \"" ++ name ++ "\" " ++ '\x7b' :: t)
      = ⟨name, index + (keyword ++ " \"" ++ name ++ "\" ").length⟩ ::
        findFrom keyword (index + (keyword ++ " \"" ++ name ++ "\" ").length + 1) false 0 t := by
  have hat := at?_written keyword hname hquote t
  cases hkw : keyword with
  | nil => exact absurd hkw hk.nonempty
  | cons c k =>
      rw [hkw] at hat
      have hlength : ((c :: k) ++ " \"" ++ name ++ "\" " ++ '\x7b' :: t).length
          - ('\x7b' :: t).length = (k ++ " \"" ++ name ++ "\" ").length + 1 := by
        simp; omega
      -- what the walk is to pass over is the header without its first character
      simp only [List.cons_append] at hat hlength ⊢
      rw [findFrom, if_pos rfl, hat]
      simp only [hlength]
      rw [findFrom_skip, List.length_cons]
      congr 1
      rw [Nat.add_right_comm index 1, Nat.add_assoc index _ 1]
      rfl

end Walk

end Header

end ModuleDocs.Hcl
