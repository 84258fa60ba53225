import ModuleDocs.Proofs.Describe.ReplyErrors
import ModuleDocs.Proofs.Json.ValueTexts

/-! # Replies in a Markdown fence

    Before a reply is read its fence marks are removed, wherever they stand,
    and the white space at its two ends.  For the text of an object this takes
    a fence around it away again: what is left is the text between the braces
    without the marks in it.  A brace is no part of a mark, so the two braces
    keep what is around the object apart from what is in it.

    A mark inside the object is removed as well.  So the object is read as it
    stands when there is no mark in it. -/

namespace ModuleDocs.Reply

open Text

/-! ## Single marks -/

/-- The text after the newline that it may begin with. -/
def afterNewline : Text → Text
  | '\n' :: t => t
  | t => t

/-- The text after what belongs to a mark that ends here: its word, blanks and a newline. -/
def afterMark (t : Text) : Text := afterNewline (skipBlanks ((dropPrefix? "json" t).getD t))

theorem afterFence?_eq (t : Text) : afterFence? t = (dropPrefix? fenceMark t).map afterMark := rfl

/-- After a newline there is less of the text, or all of it. -/
theorem afterNewline_suffix (t : Text) : afterNewline t <:+ t := by
  unfold afterNewline
  split
  · exact List.suffix_cons _ _
  · exact List.suffix_rfl

/-- What belongs to a mark stands right after it. -/
theorem afterMark_suffix (t : Text) : afterMark t <:+ t := by
  refine (afterNewline_suffix _).trans ((List.dropWhile_suffix isBlank).trans ?_)
  cases hword : dropPrefix? "json" t with
  | none => exact List.suffix_rfl
  | some rest => exact ⟨"json", (dropPrefix?_eq_some_iff.mp hword).symm⟩

/-- Of a word and what follows it, the word belongs to a mark before it. -/
theorem afterMark_word_suffix (t : Text) : afterMark ("json" ++ t) <:+ t := by
  rw [afterMark, dropPrefix?_append]
  exact (afterNewline_suffix _).trans (List.dropWhile_suffix isBlank)

variable {c : Char} (hc : c ∈ ['\x7b', '\x7d'])
include hc

/-- What belongs to a mark ends before a brace. -/
theorem afterMark_append (x rest : Text) :
    afterMark (x ++ c :: rest) = afterMark x ++ c :: rest := by
  have hword : c ∉ ("json" : Text) := by fin_cases hc <;> decide
  have hblank : isBlank c = false := by fin_cases hc <;> decide
  have hnewline : ∀ x, afterNewline (x ++ c :: rest) = afterNewline x ++ c :: rest := by
    rintro (_ | ⟨d, x⟩)
    · fin_cases hc <;> rfl
    · by_cases hd : d = '\n'
      · rw [hd]
        rfl
      · simp [afterNewline, hd]
  have hrest : (dropPrefix? "json" (x ++ c :: rest)).getD (x ++ c :: rest)
      = (dropPrefix? "json" x).getD x ++ c :: rest := by
    rw [dropPrefix?_append_cons hword]
    cases dropPrefix? "json" x <;> rfl
  rw [afterMark, hrest, skipBlanks, dropWhile_append_stop hblank, hnewline]
  rfl

omit hc

/-! ## Removing marks -/

theorem removeFencesFrom_append (skipped t : Text) :
    removeFencesFrom skipped.length (skipped ++ t) = removeFences t := by
  induction skipped with
  | nil => rfl
  | cons c skipped ih => exact ih

/-- A mark is removed with what belongs to it. -/
theorem removeFences_mark (t : Text) :
    removeFences (fenceMark ++ t) = removeFences (afterMark t) := by
  have hfound : afterFence? (fenceMark ++ t) = some (afterMark t) := by
    rw [afterFence?_eq, dropPrefix?_append]
    rfl
  obtain ⟨skipped, hskipped⟩ := afterMark_suffix t
  have hmark : fenceMark ++ t = '\x60' :: ('\x60' :: '\x60' :: skipped ++ afterMark t) := by
    rw [List.cons_append, List.cons_append, hskipped]
    rfl
  rw [hmark] at hfound ⊢
  rw [removeFences, removeFencesFrom, hfound,
    ← removeFencesFrom_append ('\x60' :: '\x60' :: skipped)]
  dsimp only
  rw [List.length_append, Nat.add_sub_cancel]

/-- A character stays where no mark begins. -/
theorem removeFences_cons {t : Text} (h : ¬ fenceMark <+: c :: t) :
    removeFences (c :: t) = c :: removeFences t := by
  have hnone : afterFence? (c :: t) = none := by
    rw [afterFence?_eq]
    cases hmark : dropPrefix? fenceMark (c :: t) with
    | none => rfl
    | some rest => exact absurd ⟨rest, (dropPrefix?_eq_some_iff.mp hmark).symm⟩ h
  rw [removeFences, removeFencesFrom, hnone]
  rfl

/-- A text is gone through character by character and mark by mark. -/
theorem mark_induction {P : Text → Prop} (nil : P [])
    (plain : ∀ c t, ¬ fenceMark <+: c :: t → P t → P (c :: t))
    (mark : ∀ t, P (afterMark t) → P (fenceMark ++ t)) (t : Text) : P t := by
  induction hn : t.length using Nat.strongRecOn generalizing t with
  | ind n ih =>
      subst hn
      by_cases hmark : fenceMark <+: t
      · obtain ⟨t, rfl⟩ := hmark
        have hshorter := (afterMark_suffix t).length_le
        refine mark t (ih _ ?_ _ rfl)
        rw [List.length_append, fenceMark, List.length_replicate]
        omega
      · cases t with
        | nil => exact nil
        | cons c t => exact plain c t hmark (ih t.length (Nat.lt_succ_self _) t rfl)

/-- A text without backquotes stays. -/
theorem removeFences_append {w : Text} (hw : '\x60' ∉ w) (t : Text) :
    removeFences (w ++ t) = w ++ removeFences t := by
  induction w with
  | nil => rfl
  | cons c w ih =>
      obtain ⟨hc, hw⟩ := not_or.mp (mt List.mem_cons.mpr hw)
      have hplain : ¬ fenceMark <+: c :: (w ++ t) := by
        rintro ⟨rest, hrest⟩
        exact hc (List.cons.inj hrest).1
      rw [List.cons_append, removeFences_cons hplain, ih hw, List.cons_append]

/-- A brace stays, and marks are removed before it and after it. -/
theorem removeFences_append_brace {c : Char} (hc : c ∈ ['\x7b', '\x7d']) (x rest : Text) :
    removeFences (x ++ c :: rest) = removeFences x ++ c :: removeFences rest := by
  have hbackquote : '\x60' ∉ [c] := by fin_cases hc <;> decide
  have hmark : c ∉ fenceMark := by fin_cases hc <;> decide
  induction x using mark_induction with
  | nil => exact removeFences_append hbackquote rest
  | plain d x hplain ih =>
      have hplain' : ¬ fenceMark <+: d :: (x ++ c :: rest) := by
        rintro ⟨more, hmore⟩
        have hfound := dropPrefix?_eq_some_iff.mpr hmore.symm
        rw [← List.cons_append, dropPrefix?_append_cons hmark] at hfound
        obtain ⟨more, hmore, -⟩ := Option.map_eq_some_iff.mp hfound
        exact hplain ⟨more, (dropPrefix?_eq_some_iff.mp hmore).symm⟩
      rw [List.cons_append, removeFences_cons hplain', removeFences_cons hplain, ih,
        List.cons_append]
  | mark x ih =>
      rw [List.append_assoc, removeFences_mark, removeFences_mark, afterMark_append hc, ih]

theorem length_removeFences_le (t : Text) : (removeFences t).length ≤ t.length := by
  induction t using mark_induction with
  | nil => exact Nat.le_refl _
  | plain c t hplain ih =>
      rw [removeFences_cons hplain]
      exact Nat.succ_le_succ ih
  | mark t ih =>
      have hshorter := (afterMark_suffix t).length_le
      rw [removeFences_mark, List.length_append]
      omega

/-- What has a mark gets shorter. -/
theorem length_removeFences_lt {t : Text} (h : fenceMark <:+: t) :
    (removeFences t).length < t.length := by
  induction t using mark_induction with
  | nil => exact absurd (List.eq_nil_of_infix_nil h) (by decide)
  | plain c t hplain ih =>
      rw [removeFences_cons hplain]
      exact Nat.succ_lt_succ (ih ((List.infix_cons_iff.mp h).resolve_left hplain))
  | mark t ih =>
      have hshorter := (afterMark_suffix t).length_le
      -- the mark itself takes three places
      have hafter := length_removeFences_le (afterMark t)
      rw [removeFences_mark, List.length_append, fenceMark, List.length_replicate]
      omega

/-- Marks are removed from a text exactly when there are any. -/
theorem removeFences_eq_self_iff (t : Text) : removeFences t = t ↔ ¬ fenceMark <:+: t := by
  constructor
  · intro h hmark
    exact Nat.lt_irrefl _ (h ▸ length_removeFences_lt hmark)
  · intro h
    induction t using mark_induction with
    | nil => rfl
    | plain c t hplain ih =>
        have hrest : ¬ fenceMark <:+: t := fun hmark =>
          h (hmark.trans (List.suffix_cons c t).isInfix)
        rw [removeFences_cons hplain, ih hrest]
    | mark t ih => exact absurd (List.prefix_append fenceMark t).isInfix h

/-! ## Objects -/

/-- Whether a text is white space. -/
def IsWhite (t : Text) : Prop := ∀ c ∈ t, isSpace c = true

/-- White space holds no mark. -/
theorem IsWhite.backquote_not_mem {w : Text} (h : IsWhite w) : '\x60' ∉ w := fun hmem =>
  absurd (h _ hmem) (by decide)

theorem IsWhite.removeFences_eq_self {w : Text} (h : IsWhite w) : removeFences w = w := by
  refine (removeFences_eq_self_iff w).mpr fun hmark => h.backquote_not_mem ?_
  exact hmark.subset (by decide)

theorem IsWhite.suffix {w w' : Text} (h : IsWhite w) (hsuffix : w' <:+ w) : IsWhite w' :=
  fun c hc => h c (hsuffix.subset hc)

theorem IsWhite.append {w w' : Text} (h : IsWhite w) (h' : IsWhite w') : IsWhite (w ++ w') :=
  fun c hc => (List.mem_append.mp hc).elim (h c) (h' c)

/-- The white space of JSON is white space. -/
theorem isWhite_of_isSpaces {w : Text} (h : Json.IsSpaces w) : IsWhite w := by
  intro c hc
  have hspace := h c hc
  simp only [Json.isJsonSpace, Bool.or_eq_true, decide_eq_true_eq] at hspace
  rcases hspace with ((rfl | rfl) | rfl) | rfl <;> decide

/-- Of a text in braces, with white space around it and marks that leave white space behind them,
what is between the braces is read without its marks. -/
theorem cleaned_braces {before inner after : Text} (hbefore : IsWhite before)
    (hafter : IsWhite (removeFences after)) :
    cleaned (before ++ '\x7b' :: (inner ++ '\x7d' :: after))
      = '\x7b' :: (removeFences inner ++ ['\x7d']) := by
  have htrimmed : trim ('\x7b' :: (removeFences inner ++ ['\x7d']))
      = '\x7b' :: (removeFences inner ++ ['\x7d']) :=
    trim_enclosed ['\x7b'] (removeFences inner) ['\x7d'] (by decide) (by decide)
  have hmarks : removeFences (before ++ '\x7b' :: (inner ++ '\x7d' :: after))
      = before ++ ('\x7b' :: (removeFences inner ++ ['\x7d']) ++ removeFences after) := by
    have hopen : removeFences ('\x7b' :: (inner ++ '\x7d' :: after))
        = '\x7b' :: removeFences (inner ++ '\x7d' :: after) :=
      removeFences_append_brace (by simp) [] _
    rw [removeFences_append hbefore.backquote_not_mem, hopen,
      removeFences_append_brace (by simp) inner after]
    simp
  rw [cleaned, hmarks, trim_spaces_append hbefore, trim_append_spaces htrimmed hafter]

/-- A Markdown fence: an opening mark, perhaps with the word `json`, and a closing mark, with white
space before and after each of them. -/
structure Fence where
  before : Text
  isTagged : Bool
  opening : Text
  closing : Text
  after : Text
deriving DecidableEq, Repr

namespace Fence

/-- The word of the opening mark. -/
def word (f : Fence) : Text := if f.isTagged then "json" else []

/-- A text in a fence. -/
def around (f : Fence) (t : Text) : Text :=
  f.before ++ (fenceMark ++ (f.word ++ (f.opening ++ (t ++ (f.closing ++ (fenceMark ++ f.after))))))

/-- Whether nothing but white space stands around the marks. -/
structure IsPlain (f : Fence) : Prop where
  before : IsWhite f.before
  opening : IsWhite f.opening
  closing : IsWhite f.closing
  after : IsWhite f.after

end Fence

/-- Of what follows the opening mark, the word and some white space belong to the mark. -/
theorem Fence.afterMark_word_append (f : Fence) (t : Text) : afterMark (f.word ++ t) <:+ t := by
  unfold word
  split
  · exact afterMark_word_suffix t
  · exact afterMark_suffix t

/-- A fence around a text in braces is taken away again. -/
theorem cleaned_around {f : Fence} (hf : f.IsPlain) {before inner after : Text}
    (hbefore : IsWhite before) (hafter : IsWhite after) :
    cleaned (f.around (before ++ '\x7b' :: (inner ++ '\x7d' :: after)))
      = '\x7b' :: (removeFences inner ++ ['\x7d']) := by
  have haround : f.around (before ++ '\x7b' :: (inner ++ '\x7d' :: after))
      = f.before ++ (fenceMark ++ (f.word ++ (f.opening ++ before) ++
          '\x7b' :: (inner ++ '\x7d' :: (after ++ f.closing ++ (fenceMark ++ f.after))))) := by
    simp [Fence.around]
  have hopening : IsWhite (afterMark (f.word ++ (f.opening ++ before))) :=
    (hf.opening.append hbefore).suffix (f.afterMark_word_append _)
  have hclosing : IsWhite (removeFences (after ++ f.closing ++ (fenceMark ++ f.after))) := by
    have hrest := hf.after.suffix (afterMark_suffix f.after)
    rw [removeFences_append (hafter.append hf.closing).backquote_not_mem, removeFences_mark,
      hrest.removeFences_eq_self]
    exact (hafter.append hf.closing).append hrest
  rw [haround, cleaned, removeFences_append hf.before.backquote_not_mem,
    trim_spaces_append hf.before, removeFences_mark, afterMark_append (by simp), ← cleaned,
    cleaned_braces hopening hclosing]

/-- The text of an object is read from a reply with or without a fence alike.  No text is changed by
removing marks if there are none in it, and every other text is.  An object without marks in its
text gives the description that its fields give. -/
theorem description_of_object {t : Text} {fields : List (Text × Json)}
    (h : Json.read t = .ok (.obj fields)) :
    (∀ f : Fence, f.IsPlain → description (f.around t) = description t) ∧
      (removeFences t = t ↔ ¬ fenceMark <:+: t) ∧
      (¬ fenceMark <:+: t →
        description t = (Except.mapError .notIterable) <$> Description.ofFields fields) := by
  obtain ⟨before, u, after, ht, htext, hbefore, hafter⟩ := Json.exists_of_read h
  obtain ⟨inner, rfl⟩ := htext.braced fields rfl
  obtain rfl : t = before ++ '\x7b' :: (inner ++ '\x7d' :: after) := by
    rw [ht]
    simp
  have hwhite := isWhite_of_isSpaces hbefore
  have hwhite' := isWhite_of_isSpaces hafter
  have hcleaned : cleaned (before ++ '\x7b' :: (inner ++ '\x7d' :: after))
      = '\x7b' :: (removeFences inner ++ ['\x7d']) :=
    cleaned_braces hwhite (hwhite'.removeFences_eq_self.symm ▸ hwhite')
  refine ⟨fun f hf => ?_, removeFences_eq_self_iff _, fun hmark => ?_⟩
  · rw [description, ← cleaned, cleaned_around hf hwhite hwhite', ← hcleaned]
    rfl
  · have hinner : removeFences inner = inner := by
      refine (removeFences_eq_self_iff inner).mpr fun h => hmark (h.trans ?_)
      exact ⟨before ++ ['\x7b'], '\x7d' :: after, by simp⟩
    -- without marks the text between the braces is read, as it is with the white space around it
    have hread : Json.read ('\x7b' :: (inner ++ ['\x7d'])) = .ok (.obj fields) := by
      have hspaces : Json.IsSpaces [] := fun c hc => absurd hc List.not_mem_nil
      have hread := Json.read_append htext hspaces hspaces (by simp; decide)
      rwa [List.nil_append, List.append_nil] at hread
    rw [description, ← cleaned, hcleaned, hinner, hread]

/-- An object in a fence with a word. -/
theorem description_of_object_fenced :
    let text : Text := " \x7b\"description\": \"A module\"\x7d\n"
    let fields : List (Text × Json) := [("description", .str "A module")]
    let fence : Fence := ⟨"\n", true, " \n", [], "\n"⟩
    Json.read text = .ok (.obj fields) ∧ fence.IsPlain ∧ ¬ fenceMark <:+: text ∧
      description (fence.around text) = pure (.ok ⟨"A module", [], []⟩) := by
  intro text fields fence
  have hread : Json.read " \x7b\"description\": \"A module\"\x7d\n" = .ok (.obj fields) := by cbv
  have hplain : fence.IsPlain :=
    ⟨by unfold IsWhite; decide, by unfold IsWhite; decide, fun c hc => absurd hc List.not_mem_nil,
      by unfold IsWhite; decide⟩
  have hmark : ¬ fenceMark <:+: text := by decide
  obtain ⟨hfence, -, hfields⟩ := description_of_object hread
  exact ⟨hread, hplain, hmark, (hfence fence hplain).trans ((hfields hmark).trans rfl)⟩

/-- A mark in a text of the object is taken for a part of a fence. -/
example : (match (description
      "\x7b\"description\": \"Uses \x60\x60\x60hcl\x60\x60\x60 blocks\"\x7d").value with
      | .ok d => d.summary
      | .error _ => []) = ("Uses hclblocks" : Text) := by
  decide +kernel

end ModuleDocs.Reply
