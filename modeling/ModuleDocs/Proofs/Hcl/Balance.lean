import ModuleDocs.Hcl.Block
import ModuleDocs.Proofs.Text.Compound

/-! # Balanced bodies

    What stands between the braces of a declaration is balanced when, of the
    braces that count in the chosen mode, no closing one comes before its
    opening one and none is left open, and when the text does not end inside
    a string or a comment.  A balanced body is read back exactly: the block
    that starts at the brace before it ends at the brace after it, whatever
    follows.  And only balanced bodies are closed: what a walk has read when
    it comes to the closing brace is one.

    The walk over a block looks one character ahead.  That is why the region
    after a text is compared for the text alone and for the text in its
    place: only a slash or a star that follows could make them differ. -/

namespace ModuleDocs.Hcl

/-! ## The characters that count -/

namespace BraceMode

/-- The characters of a text that stand in code, the text beginning in region `s`. -/
def inCode (m : BraceMode) (s : Region) : Text → Text
  | [] => []
  | c :: t => if s = .code then c :: m.inCode (m.next s c t) t else m.inCode (m.next s c t) t

/-- The region in which a text ends that begins in region `s`. -/
def regionAfter (m : BraceMode) (s : Region) : Text → Region
  | [] => s
  | c :: t => m.regionAfter (m.next s c t) t

@[simp] theorem inCode_plain (t : Text) : plain.inCode .code t = t := by
  induction t with
  | nil => rfl
  | cons c t ih => rw [inCode, if_pos rfl]; exact congrArg (c :: ·) ih

@[simp] theorem regionAfter_plain (t : Text) : plain.regionAfter .code t = .code := by
  induction t with
  | nil => rfl
  | cons c t ih => exact ih

/-- A character that cannot go on with a comment mark does not change the region before it. -/
theorem next_append_cons (m : BraceMode) (s : Region) (d : Char) {c : Char} (hslash : c ≠ '/')
    (hstar : c ≠ '*') (t rest : Text) : m.next s d (t ++ c :: rest) = m.next s d t := by
  cases t with
  | cons e t => cases m <;> rfl
  | nil =>
      cases m with
      | plain => rfl
      | quoteAware => cases s <;> simp [next, Region.next, hslash, hstar]

end BraceMode

/-! ## Balanced bodies are read back -/

/-- A body whose braces balance, as they count in a mode, and that ends in code. -/
structure Balanced (m : BraceMode) (body : Text) : Prop where
  covered : ∀ p, p <+: m.inCode .code body → p.count '\x7d' ≤ p.count '\x7b'
  even : (m.inCode .code body).count '\x7d' = (m.inCode .code body).count '\x7b'
  ends : m.regionAfter .code body = .code

instance (m : BraceMode) (body : Text) : Decidable (Balanced m body) :=
  decidable_of_iff
    ((∀ p, p <+: m.inCode .code body → p.count '\x7d' ≤ p.count '\x7b') ∧
      (m.inCode .code body).count '\x7d' = (m.inCode .code body).count '\x7b' ∧
      m.regionAfter .code body = .code)
    ⟨fun h => ⟨h.1, h.2.1, h.2.2⟩, fun h => ⟨h.covered, h.even, h.ends⟩⟩

/-- A body, begun in region `s`, that closes `inner` further braces, as they count in a mode, and
ends in code. -/
structure Closes (m : BraceMode) (s : Region) (inner : Nat) (body : Text) : Prop where
  covered : ∀ p, p <+: m.inCode s body → p.count '\x7d' ≤ p.count '\x7b' + inner
  even : (m.inCode s body).count '\x7d' = (m.inCode s body).count '\x7b' + inner
  ends : m.regionAfter s body = .code

theorem closes_iff_balanced {m : BraceMode} {body : Text} :
    Closes m .code 0 body ↔ Balanced m body :=
  ⟨fun h => ⟨h.covered, h.even, h.ends⟩, fun h => ⟨h.covered, h.even, h.ends⟩⟩

theorem count_cons_eq_add (c d : Char) (t : Text) :
    (c :: t).count d = [c].count d + t.count d := by
  rw [← List.singleton_append, List.count_append]

namespace Closes

variable {m : BraceMode} {s : Region} {c : Char} {before inner : Nat} {body : Text}

/-- A character of code changes the number of braces that are to be closed. -/
theorem cons_code_iff (hc : [c].count '\x7d' + inner = [c].count '\x7b' + before) :
    Closes m .code before (c :: body) ↔ Closes m (m.next .code c body) inner body := by
  have hcons : m.inCode .code (c :: body) = c :: m.inCode (m.next .code c body) body := by
    rw [BraceMode.inCode, if_pos rfl]
  -- a first part of the body is empty or the character and a first part of the rest
  have hcount : ∀ q : Text, (c :: q).count '\x7d' ≤ (c :: q).count '\x7b' + before ↔
      q.count '\x7d' ≤ q.count '\x7b' + inner := by
    intro q
    rw [count_cons_eq_add c '\x7d' q, count_cons_eq_add c '\x7b' q]
    omega
  constructor
  · intro h
    refine ⟨fun q hq => (hcount q).mp (h.covered _ ?_), ?_, h.ends⟩
    · rw [hcons]
      exact (List.prefix_cons_inj c).mpr hq
    · have heven := h.even
      rw [hcons, count_cons_eq_add c '\x7d', count_cons_eq_add c '\x7b'] at heven
      omega
  · intro h
    refine ⟨fun p hp => ?_, ?_, h.ends⟩
    · rw [hcons] at hp
      rcases List.prefix_cons_iff.mp hp with rfl | ⟨q, rfl, hq⟩
      · exact Nat.zero_le _
      · exact (hcount q).mpr (h.covered q hq)
    · have heven := h.even
      rw [hcons, count_cons_eq_add c '\x7d', count_cons_eq_add c '\x7b']
      omega

/-- A character outside of code changes nothing. -/
theorem cons_hidden_iff (hs : s ≠ .code) :
    Closes m s inner (c :: body) ↔ Closes m (m.next s c body) inner body := by
  have hcons : m.inCode s (c :: body) = m.inCode (m.next s c body) body := by
    rw [BraceMode.inCode, if_neg hs]
  constructor
  · rintro ⟨hcovered, heven, hends⟩
    rw [hcons] at hcovered heven
    exact ⟨hcovered, heven, hends⟩
  · rintro ⟨hcovered, heven, hends⟩
    rw [← hcons] at hcovered heven
    exact ⟨hcovered, heven, hends⟩

/-- With no further brace to close there is none too many at the start. -/
theorem ne_closing (h : Closes m .code 0 (c :: body)) : c ≠ '\x7d' := by
  rintro rfl
  have hone := h.covered ['\x7d'] (by
    rw [BraceMode.inCode, if_pos rfl]
    exact (List.prefix_cons_inj _).mpr List.nil_prefix)
  exact absurd hone (by decide)

end Closes

namespace Block

/-- One step of the walk to the closing brace. -/
theorem close_cons (m : BraceMode) (s : Region) (inner : Nat) (c : Char) (t : Text) :
    close m s inner (c :: t) =
      if s = .code ∧ c = '\x7b' then (close m (m.next s c t) (inner + 1) t).cons c
      else if s = .code ∧ c = '\x7d' then
        match inner with
        | 0 => ⟨[c], true⟩
        | inner + 1 => (close m (m.next s c t) inner t).cons c
      else (close m (m.next s c t) inner t).cons c := by
  cases inner <;> rfl

/-- With `inner` further braces open, a text that closes them all is followed up to the next closing
brace. -/
theorem close_append_closing {m : BraceMode} {s : Region} {inner : Nat} {t : Text}
    (h : Closes m s inner t) (rest : Text) :
    close m s inner (t ++ '\x7d' :: rest) = ⟨t ++ ['\x7d'], true⟩ := by
  -- `inner` and the region change along the text, so the induction leaves both open
  induction t generalizing s inner with
  | nil =>
      have hs : s = .code := h.ends
      have hinner : inner = 0 := by simpa [BraceMode.inCode] using h.even.symm
      subst hs hinner
      simp [close]
  | cons c t ih =>
      have hnext : m.next s c (t ++ '\x7d' :: rest) = m.next s c t :=
        m.next_append_cons s c (by decide) (by decide) t rest
      rw [List.cons_append, close_cons, hnext]
      by_cases hs : s = .code
      · subst hs
        by_cases hopen : c = '\x7b'
        · subst hopen
          rw [if_pos ⟨rfl, rfl⟩, ih ((Closes.cons_code_iff (by simp [Nat.add_comm])).mp h)]
          rfl
        · rw [if_neg (fun h => hopen h.2)]
          by_cases hclose : c = '\x7d'
          · subst hclose
            rw [if_pos ⟨rfl, rfl⟩]
            cases inner with
            | zero => exact absurd rfl h.ne_closing
            | succ inner =>
                exact congrArg (Block.cons '\x7d')
                  (ih ((Closes.cons_code_iff (by simp [Nat.add_comm])).mp h))
          · rw [if_neg (fun h => hclose h.2),
              ih ((Closes.cons_code_iff (by simp [hopen, hclose])).mp h)]
            rfl
      · rw [if_neg (fun h => hs h.1), if_neg (fun h => hs h.1),
          ih ((Closes.cons_hidden_iff hs).mp h)]
        rfl

/-- A closed walk has read a text that closes the further braces, and a closing brace behind it. -/
theorem exists_closes_of_closed {m : BraceMode} {s : Region} {inner : Nat} {t : Text}
    (h : (close m s inner t).closed = true) :
    ∃ body rest, t = body ++ '\x7d' :: rest ∧ Closes m s inner body := by
  induction t generalizing s inner with
  | nil => exact nomatch h
  | cons c t ih =>
      -- the region behind `c` is the same when the text stops before the closing brace
      have hstep : ∀ {inner : Nat}, (close m (m.next s c t) inner t).closed = true →
          ∃ body rest, t = body ++ '\x7d' :: rest ∧ Closes m (m.next s c body) inner body := by
        intro inner hclosed
        obtain ⟨body, rest, rfl, hbody⟩ := ih hclosed
        rw [m.next_append_cons s c (by decide) (by decide)] at hbody
        exact ⟨body, rest, rfl, hbody⟩
      rw [close_cons] at h
      split at h
      · next hopening =>
          obtain ⟨rfl, rfl⟩ := hopening
          obtain ⟨body, rest, rfl, hbody⟩ := hstep h
          exact ⟨'\x7b' :: body, rest, rfl,
            (Closes.cons_code_iff (by simp [Nat.add_comm])).mpr hbody⟩
      · next hopening =>
          split at h
          · next hclosing =>
              obtain ⟨rfl, rfl⟩ := hclosing
              cases inner with
              | zero => exact ⟨[], t, rfl, fun p hp => by simp [List.prefix_nil.mp hp], rfl, rfl⟩
              | succ inner =>
                  obtain ⟨body, rest, rfl, hbody⟩ := hstep h
                  exact ⟨'\x7d' :: body, rest, rfl,
                    (Closes.cons_code_iff (by simp [Nat.add_comm])).mpr hbody⟩
          · next hclosing =>
              obtain ⟨body, rest, rfl, hbody⟩ := hstep h
              refine ⟨c :: body, rest, rfl, ?_⟩
              by_cases hs : s = .code
              · subst hs
                have hopen : c ≠ '\x7b' := fun hc => hopening ⟨rfl, hc⟩
                have hclose : c ≠ '\x7d' := fun hc => hclosing ⟨rfl, hc⟩
                exact (Closes.cons_code_iff (by simp [hopen, hclose])).mpr hbody
              · exact (Closes.cons_hidden_iff hs).mpr hbody

/-- The block around a balanced body is read to its closing brace. -/
theorem first_of_balanced {m : BraceMode} {body : Text} (h : Balanced m body) (rest : Text) :
    first m .code ('\x7b' :: body ++ '\x7d' :: rest) = ⟨'\x7b' :: body ++ ['\x7d'], true⟩ := by
  have hnext : m.next .code '\x7b' (body ++ '\x7d' :: rest) = .code := by
    cases m <;> simp [BraceMode.next, Region.next]
  rw [List.cons_append, first, if_pos ⟨rfl, rfl⟩, hnext,
    close_append_closing (closes_iff_balanced.mpr h)]
  rfl

/-- Where a balanced body stands between braces, exactly that block is extracted, and nothing is
logged. -/
theorem extract_of_balanced {m : BraceMode} {body text rest : Text} {start : Nat}
    (h : Balanced m body) (hstart : text.drop start = '\x7b' :: body ++ '\x7d' :: rest) :
    extract m text start = pure ('\x7b' :: body ++ ['\x7d']) := by
  have hb : startingAt m text start = ⟨'\x7b' :: body ++ ['\x7d'], true⟩ := by
    rw [startingAt, hstart, first_of_balanced h]
  rw [extract, hb]
  simp

/-- A balanced body between braces is a balanced block. -/
theorem isBalanced_of_balanced {m : BraceMode} {body : Text} (h : Balanced m body) :
    isBalanced m ('\x7b' :: body ++ ['\x7d']) = true := by
  have hb : startingAt m ('\x7b' :: body ++ ['\x7d']) 0 = ⟨'\x7b' :: body ++ ['\x7d'], true⟩ :=
    first_of_balanced h []
  rw [isBalanced, hb]
  simp

end Block

/-! ## Bodies made of pieces -/

/-- An opening or a closing brace. -/
def isBrace (c : Char) : Bool := c = '\x7b' || c = '\x7d'

/-- A piece of text that begins and ends in code, whatever follows it, with the braces that count in
it. -/
structure Passes (m : BraceMode) (piece braces : Text) : Prop where
  code : ∀ rest, (m.inCode .code (piece ++ rest)).filter isBrace
    = braces ++ (m.inCode .code rest).filter isBrace
  region : ∀ rest, m.regionAfter .code (piece ++ rest) = m.regionAfter .code rest

/-- Pieces one after another make a piece. -/
theorem Passes.append {m : BraceMode} {u v bu bv : Text} (hu : Passes m u bu) (hv : Passes m v bv) :
    Passes m (u ++ v) (bu ++ bv) where
  code := by
    intro rest
    rw [List.append_assoc, hu.code, hv.code, List.append_assoc]
  region := by
    intro rest
    rw [List.append_assoc, hu.region, hv.region]

/-- A text that opens neither a string nor a comment is a piece. -/
theorem passes_code (m : BraceMode) {t : Text} (ht : ∀ c ∈ t, c ≠ '"' ∧ c ≠ '#' ∧ c ≠ '/') :
    Passes m t (t.filter isBrace) := by
  have hnext : ∀ c ∈ t, ∀ rest, m.next .code c rest = .code := by
    intro c hc rest
    obtain ⟨hquote, hhash, hslash⟩ := ht c hc
    cases m with
    | plain => rfl
    | quoteAware => simp [BraceMode.next, Region.next, hquote, hhash, hslash]
  clear ht
  induction t with
  | nil => exact ⟨fun _ => rfl, fun _ => rfl⟩
  | cons c t ih =>
      obtain ⟨hcode, hregion⟩ := ih fun d hd => hnext d (List.mem_cons_of_mem c hd)
      have hc := hnext c List.mem_cons_self
      constructor
      · intro rest
        rw [List.cons_append, BraceMode.inCode, if_pos rfl, hc, List.filter_cons, List.filter_cons,
          hcode]
        split <;> rfl
      · intro rest
        rw [List.cons_append, BraceMode.regionAfter, hc, hregion]

/-- A text that a walk enters in region `s` and leaves in code, without meeting code. -/
structure LeadsOut (m : BraceMode) (s : Region) (t : Text) : Prop where
  code : ∀ rest, m.inCode s (t ++ rest) = m.inCode .code rest
  region : ∀ rest, m.regionAfter s (t ++ rest) = m.regionAfter .code rest

theorem leadsOut_nil (m : BraceMode) : LeadsOut m .code [] := ⟨fun _ => rfl, fun _ => rfl⟩

/-- A character outside of code is crossed to the region behind it. -/
theorem LeadsOut.cons {m : BraceMode} {s s' : Region} {c : Char} {t : Text} (h : LeadsOut m s' t)
    (hs : s ≠ .code) (hnext : ∀ rest, m.next s c (t ++ rest) = s') : LeadsOut m s (c :: t) where
  code := by
    intro rest
    rw [List.cons_append, BraceMode.inCode, if_neg hs, hnext, h.code]
  region := by
    intro rest
    rw [List.cons_append, BraceMode.regionAfter, hnext, h.region]

/-- A text in which a region goes on, up to a character that ends it. -/
theorem leadsOut_concat {m : BraceMode} {s : Region} {t : Text} {d : Char} (hs : s ≠ .code)
    (hstay : ∀ c ∈ t, ∀ rest, m.next s c rest = s) (hend : ∀ rest, m.next s d rest = .code) :
    LeadsOut m s (t ++ [d]) := by
  induction t with
  | nil => exact (leadsOut_nil m).cons hs hend
  | cons c t ih =>
      obtain ⟨hc, ht⟩ := List.forall_mem_cons.mp hstay
      exact (ih ht).cons hs fun rest => hc _

/-- A character that opens a region makes a piece with the text that leads out of it. -/
theorem LeadsOut.passes {m : BraceMode} {s : Region} {c : Char} {t : Text} (h : LeadsOut m s t)
    (hbrace : isBrace c = false) (hopen : ∀ rest, m.next .code c rest = s) :
    Passes m (c :: t) [] where
  code := by
    intro rest
    have hnone : ¬ isBrace c = true := by simp [hbrace]
    rw [List.cons_append, BraceMode.inCode, if_pos rfl, hopen, h.code,
      List.filter_cons_of_neg hnone, List.nil_append]
  region := by
    intro rest
    rw [List.cons_append, BraceMode.regionAfter, hopen, h.region]

/-- A string without escapes and braces is a piece in which no brace counts. -/
theorem passes_string (m : BraceMode) {t : Text}
    (ht : ∀ c ∈ t, c ≠ '"' ∧ c ≠ '\\' ∧ isBrace c = false) : Passes m ('"' :: t ++ ['"']) [] := by
  cases m with
  | plain =>
      have hnone : ∀ c ∈ '"' :: t ++ ['"'], isBrace c = false := by
        intro c hc
        rcases List.mem_append.mp hc with hc | hc
        · rcases List.mem_cons.mp hc with rfl | hc
          · decide
          · exact (ht c hc).2.2
        · obtain rfl := List.mem_singleton.mp hc
          decide
      constructor
      · intro rest
        rw [BraceMode.inCode_plain, BraceMode.inCode_plain, List.filter_append,
          List.filter_eq_nil_iff.mpr fun c hc => by simp [hnone c hc]]
      · intro rest
        rw [BraceMode.regionAfter_plain, BraceMode.regionAfter_plain]
  | quoteAware =>
      -- inside the string the walk stays quoted up to the closing quote
      have hstay : ∀ c ∈ t, ∀ rest, BraceMode.quoteAware.next .quoted c rest = .quoted := by
        intro c hc rest
        obtain ⟨hquote, hslash, -⟩ := ht c hc
        simp [BraceMode.next, Region.next, hquote, hslash]
      have hinside : LeadsOut .quoteAware .quoted (t ++ ['"']) :=
        leadsOut_concat (by decide) hstay fun _ => rfl
      exact hinside.passes (by decide) fun _ => rfl

/-- A piece of text whose braces balance. -/
def Nested (m : BraceMode) (piece : Text) : Prop :=
  ∃ braces, Passes m piece braces ∧
    (∀ p, p <+: braces → p.count '\x7d' ≤ p.count '\x7b') ∧
    braces.count '\x7d' = braces.count '\x7b'

/-- Pieces one after another balance when each of them does. -/
theorem Nested.append {m : BraceMode} {u v : Text} (hu : Nested m u) (hv : Nested m v) :
    Nested m (u ++ v) := by
  obtain ⟨bu, hpu, hcu, heu⟩ := hu
  obtain ⟨bv, hpv, hcv, hev⟩ := hv
  refine ⟨bu ++ bv, hpu.append hpv, ?_, ?_⟩
  · intro p hp
    rcases List.prefix_or_prefix_of_prefix hp (List.prefix_append bu bv) with hshort | ⟨q, rfl⟩
    · exact hcu p hshort
    · -- past the first piece, which is even, the second one decides
      have hq := hcv q ((List.prefix_append_right_inj bu).mp hp)
      rw [List.count_append, List.count_append]
      omega
  · rw [List.count_append, List.count_append]
    omega

/-- A balanced piece between braces is one. -/
theorem Nested.braces {m : BraceMode} {t : Text} (h : Nested m t) :
    Nested m ('\x7b' :: t ++ ['\x7d']) := by
  obtain ⟨b, hp, hc, he⟩ := h
  have hopen : Passes m ['\x7b'] ['\x7b'] := passes_code m (by decide)
  have hclose : Passes m ['\x7d'] ['\x7d'] := passes_code m (by decide)
  refine ⟨'\x7b' :: (b ++ ['\x7d']), (hopen.append hp).append hclose, ?_, ?_⟩
  · intro p hpre
    rcases List.prefix_cons_iff.mp hpre with rfl | ⟨q, rfl, hq⟩
    · exact Nat.le_refl _
    · rw [List.count_cons_of_ne (by decide), List.count_cons_self]
      rcases List.prefix_concat_iff.mp hq with rfl | hq
      · rw [List.count_append, List.count_append, he]
        simp
      · have := hc q hq
        omega
  · rw [List.count_cons_of_ne (by decide), List.count_cons_self, List.count_append,
      List.count_append, he]
    simp

/-- A character that neither opens a string or a comment nor is a brace. -/
def isCalm (c : Char) : Bool := c ∉ ['"', '#', '/', '\x7b', '\x7d']

/-- Calm text is a piece in which no brace counts. -/
theorem passes_calm (m : BraceMode) {t : Text} (ht : ∀ c ∈ t, isCalm c = true) : Passes m t [] := by
  have hcode : Passes m t (t.filter isBrace) :=
    passes_code m fun c hc => ⟨Text.ne_of_class (ht c hc) (by decide),
      Text.ne_of_class (ht c hc) (by decide), Text.ne_of_class (ht c hc) (by decide)⟩
  have hnone : t.filter isBrace = [] := by
    refine List.filter_eq_nil_iff.mpr fun c hc => ?_
    have hopen : c ≠ '\x7b' := Text.ne_of_class (ht c hc) (by decide)
    have hclose : c ≠ '\x7d' := Text.ne_of_class (ht c hc) (by decide)
    simp [isBrace, hopen, hclose]
  rwa [hnone] at hcode

theorem nested_calm (m : BraceMode) {t : Text} (ht : ∀ c ∈ t, isCalm c = true) : Nested m t :=
  ⟨[], passes_calm m ht, fun p hp => by simp [List.prefix_nil.mp hp], rfl⟩

theorem nested_string (m : BraceMode) {t : Text}
    (ht : ∀ c ∈ t, c ≠ '"' ∧ c ≠ '\\' ∧ isBrace c = false) : Nested m ('"' :: t ++ ['"']) :=
  ⟨[], passes_string m ht, fun p hp => by simp [List.prefix_nil.mp hp], rfl⟩

/-- A balanced piece is a balanced body. -/
theorem Nested.balanced {m : BraceMode} {t : Text} (h : Nested m t) : Balanced m t := by
  obtain ⟨braces, hpasses, hcovered, heven⟩ := h
  have hbraces : (m.inCode .code t).filter isBrace = braces := by
    have hcode := hpasses.code []
    rw [List.append_nil] at hcode
    rw [hcode]
    exact List.append_nil braces
  -- only braces are counted, so the counts may be taken in what the piece says of its braces
  have hopen : ∀ l : Text, l.count '\x7b' = (l.filter isBrace).count '\x7b' :=
    fun l => (List.count_filter (by decide)).symm
  have hclose : ∀ l : Text, l.count '\x7d' = (l.filter isBrace).count '\x7d' :=
    fun l => (List.count_filter (by decide)).symm
  refine ⟨?_, ?_, ?_⟩
  · intro p hp
    rw [hopen, hclose]
    refine hcovered _ ?_
    rw [← hbraces]
    exact hp.filter isBrace
  · rw [hopen, hclose, hbraces, heven]
  · have hregion := hpasses.region []
    rw [List.append_nil] at hregion
    exact hregion

end ModuleDocs.Hcl
