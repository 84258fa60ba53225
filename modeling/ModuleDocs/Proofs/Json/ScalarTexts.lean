import ModuleDocs.Json.Reader
import ModuleDocs.Proofs.Text.Compound

/-! # The texts of strings, numbers and words

    The reader goes through a text from the front and hands on what it did not
    use.  What it used it would use again: whatever else stood behind the text
    of a string or a word, the same would be read and the rest handed on, with
    any fuel that the text itself needs.  A number asks for more, since digits
    behind it would belong to it. -/

namespace ModuleDocs.Json

open Text

/-! ## Taking a text -/

/-- Whether a text does not go on with a number that stands before it. -/
def EndsNumber (w : Text) : Prop := ∀ c ∈ w.head?, c.isDigit = false ∧ c ∉ ['.', 'e', 'E']

/-- Whether a reader takes the text `u` for the value `a`, whatever text follows that does not go on
with a number. -/
structure Takes {α : Type} (reader : Nat → Text → Except Stop (α × Text)) (u : Text) (a : α) :
    Prop where
  nonempty : u ≠ []
  reads : ∀ fuel w, u.length ≤ fuel → EndsNumber w → reader fuel (u ++ w) = .ok (a, w)

/-- A reader that takes a piece of text and goes on as another takes the piece and what the other
takes. -/
theorem Takes.step {α : Type} {reader next : Nat → Text → Except Stop (α × Text)} {p u : Text}
    {a : α} (h : Takes next u a) (hp : p ≠ [])
    (hstep : ∀ fuel w, reader (fuel + 1) (p ++ (u ++ w)) = next fuel (u ++ w)) :
    Takes reader (p ++ u) a := by
  refine ⟨List.append_ne_nil_of_left_ne_nil hp u, fun fuel w hfuel hw => ?_⟩
  have hlength := List.length_pos_iff.mpr hp
  rw [List.length_append] at hfuel
  obtain ⟨fuel, rfl⟩ : ∃ n, fuel = n + 1 := ⟨fuel - 1, by omega⟩
  rw [List.append_assoc, hstep, h.reads fuel w (by omega) hw]

/-! ## Strings -/

theorem unitEscape?_append {digits r : Text} (hdigits : digits.length = 4) (hr : r ≠ []) :
    unitEscape? (digits ++ r) = (hexNumber? digits).map (·, r) := by
  rw [unitEscape?, List.drop_left' hdigits, List.take_left' hdigits, if_neg hr]

/-- What is read of a `\u` escape are four digits, and more text follows them. -/
theorem exists_of_unitEscape? {t r : Text} {n : Nat} (h : unitEscape? t = some (n, r)) :
    ∃ digits, digits.length = 4 ∧ t = digits ++ r ∧ r ≠ [] ∧ hexNumber? digits = some n := by
  rw [unitEscape?] at h
  split at h
  · exact nomatch h
  · next hmore =>
      obtain ⟨m, hm, heq⟩ := Option.map_eq_some_iff.mp h
      obtain ⟨rfl, rfl⟩ := Prod.mk.inj heq
      have hlong : 4 < t.length := by
        have := mt List.drop_eq_nil_of_le hmore
        omega
      refine ⟨t.take 4, ?_, (List.take_append_drop 4 t).symm, hmore, hm⟩
      rw [List.length_take]
      omega

/-- Four digits after `\u` and more text after them are a low half when their number is one. -/
theorem lowHalf_append {digits r : Text} {n : Nat} (hdigits : digits.length = 4) (hr : r ≠ [])
    (hn : hexNumber? digits = some n) :
    lowHalf ('\\' :: 'u' :: (digits ++ r))
      = .ok (if 0xDC00 ≤ n ∧ n ≤ 0xDFFF then some (n, r) else none) := by
  simp only [lowHalf, List.drop_left' hdigits, List.take_left' hdigits, if_neg hr, hn]
  split <;> rfl

/-- What is read of a low half are `\u` and four digits, and more text follows them. -/
theorem exists_of_lowHalf {t r : Text} {n : Nat} (h : lowHalf t = .ok (some (n, r))) :
    ∃ digits, digits.length = 4 ∧ t = '\\' :: 'u' :: (digits ++ r) ∧ r ≠ [] ∧
      hexNumber? digits = some n ∧ 0xDC00 ≤ n ∧ n ≤ 0xDFFF := by
  unfold lowHalf at h
  split at h
  · next t =>
      split at h
      · exact nomatch h
      · next hmore =>
          cases hm : hexNumber? (t.take 4) with
          | none =>
              rw [hm] at h
              exact nomatch h
          | some m =>
              have hescape : unitEscape? t = some (m, t.drop 4) := by
                rw [unitEscape?, if_neg hmore, hm, Option.map_some]
              obtain ⟨digits, hdigits, ht, -, hdigits'⟩ := exists_of_unitEscape? hescape
              rw [hm] at h
              simp only at h
              split at h
              · next hlow =>
                  obtain ⟨rfl, rfl⟩ := Prod.mk.inj (Option.some.inj (Except.ok.inj h))
                  refine ⟨digits, hdigits, ?_, hmore, hdigits', hlow⟩
                  rw [← ht]
              · exact nomatch h
  · exact nomatch h

/-- Whether a text is read as a string to its end, from what is read before it on. -/
def Completes (acc u s : Text) : Prop := ∀ opened, Takes (readString opened · acc) u s

/-- An escape in what is read of a string to its end is whole. -/
theorem Completes.exists_unitEscape {acc u s : Text} (h : Completes acc ('\\' :: 'u' :: u) s) :
    ∃ digits rest n, digits.length = 4 ∧ u = digits ++ rest ∧ rest ≠ [] ∧
      hexNumber? digits = some n := by
  have hends : EndsNumber [] := nofun
  have hread := (h 0).reads _ [] (Nat.le_refl _) hends
  rw [List.append_nil, List.length_cons, readString] at hread
  cases hescape : unitEscape? u with
  | none =>
      rw [hescape] at hread
      exact nomatch hread
  | some found =>
      obtain ⟨digits, hdigits, hu, hmore, hn⟩ := exists_of_unitEscape? hescape
      exact ⟨digits, found.2, found.1, hdigits, hu, hmore, hn⟩

/-- A text that is read to its end does not begin with a low half, if it does not with the text that
follows it somewhere. -/
theorem Completes.lowHalf_eq_none {acc u s r : Text} (h : Completes acc u s)
    (hnone : lowHalf (u ++ r) = .ok none) (w : Text) : lowHalf (u ++ w) = .ok none := by
  match u with
  | [] => exact absurd rfl (h 0).nonempty
  | [c] =>
      have hc : c ≠ '\\' := by
        rintro rfl
        exact nomatch (h 0).reads 1 [] (Nat.le_refl _) nofun
      simp [lowHalf, hc]
  | c :: d :: u =>
      by_cases hpair : c = '\\' ∧ d = 'u'
      · obtain ⟨rfl, rfl⟩ := hpair
        obtain ⟨digits, rest, n, hdigits, rfl, hmore, hn⟩ := h.exists_unitEscape
        have hlow : ∀ w, lowHalf ('\\' :: 'u' :: (digits ++ rest ++ w))
            = .ok (if 0xDC00 ≤ n ∧ n ≤ 0xDFFF then some (n, rest ++ w) else none) := fun w => by
          rw [List.append_assoc]
          exact lowHalf_append hdigits (List.append_ne_nil_of_left_ne_nil hmore w) hn
        have hno : ¬ (0xDC00 ≤ n ∧ n ≤ 0xDFFF) := by
          intro hrange
          rw [List.cons_append, List.cons_append, hlow, if_pos hrange] at hnone
          exact nomatch hnone
        rw [List.cons_append, List.cons_append, hlow, if_neg hno]
      · unfold lowHalf
        split
        · next heq =>
            obtain ⟨hc, hrest⟩ := List.cons.inj heq
            exact absurd ⟨hc, (List.cons.inj hrest).1⟩ hpair
        · rfl

/-- What is read of a string is read to its end, whatever text follows it. -/
theorem exists_completes {opened fuel : Nat} {acc t s r : Text}
    (h : readString opened fuel acc t = .ok (s, r)) : ∃ u, t = u ++ r ∧ Completes acc u s := by
  fun_induction readString opened fuel acc t with
  -- the closing quote
  | case3 acc fuel r' =>
      obtain ⟨rfl, rfl⟩ := Prod.mk.inj (Except.ok.inj h)
      refine ⟨['"'], rfl, fun opened => ⟨List.cons_ne_nil _ _, fun fuel w hfuel _ => ?_⟩⟩
      obtain ⟨fuel, rfl⟩ : ∃ n, fuel = n + 1 := ⟨fuel - 1, by simp at hfuel; omega⟩
      rfl
  -- two escapes that make a pair
  | case7 acc fuel t n t' hescape hhigh low t'' hlow c ih =>
      obtain ⟨digits, hdigits, rfl, hmore, hn⟩ := exists_of_unitEscape? hescape
      obtain ⟨digits', hdigits', rfl, hmore', hlow', hrange⟩ := exists_of_lowHalf hlow
      obtain ⟨u, rfl, hu⟩ := ih h
      refine ⟨'\\' :: 'u' :: digits ++ ('\\' :: 'u' :: digits' ++ u), by simp, fun opened => ?_⟩
      rw [← List.append_assoc]
      refine (hu opened).step (by simp) fun fuel w => ?_
      have hne : u ++ w ≠ [] := List.append_ne_nil_of_left_ne_nil (hu opened).nonempty w
      have hlow := lowHalf_append hdigits' hne hlow'
      rw [if_pos hrange] at hlow
      simp only [List.cons_append, List.append_assoc, readString,
        unitEscape?_append hdigits (List.cons_ne_nil _ _), hn, Option.map_some, if_pos hhigh, hlow]
      rfl
  -- the first half of a pair on its own; what follows must not become the second half
  | case8 acc fuel t n t' hescape hhigh hlow ih =>
      obtain ⟨digits, hdigits, rfl, hmore, hn⟩ := exists_of_unitEscape? hescape
      obtain ⟨u, rfl, hu⟩ := ih h
      refine ⟨'\\' :: 'u' :: digits ++ u, by simp, fun opened => ?_⟩
      refine (hu opened).step (by simp) fun fuel w => ?_
      have hne : u ++ w ≠ [] := List.append_ne_nil_of_left_ne_nil (hu opened).nonempty w
      simp only [List.cons_append, readString, unitEscape?_append hdigits hne, hn, Option.map_some,
        if_pos hhigh, hu.lowHalf_eq_none hlow w]
  -- an escape that is a character of its own
  | case9 acc fuel t n t' hescape hhigh ih =>
      obtain ⟨digits, hdigits, rfl, hmore, hn⟩ := exists_of_unitEscape? hescape
      obtain ⟨u, rfl, hu⟩ := ih h
      refine ⟨'\\' :: 'u' :: digits ++ u, by simp, fun opened => ?_⟩
      refine (hu opened).step (by simp) fun fuel w => ?_
      have hne : u ++ w ≠ [] := List.append_ne_nil_of_left_ne_nil (hu opened).nonempty w
      simp only [List.cons_append, readString, unitEscape?_append hdigits hne, hn, Option.map_some,
        if_neg hhigh]
  -- an escape of one letter
  | case10 acc fuel c t hc d hescape ih =>
      obtain ⟨u, rfl, hu⟩ := ih h
      refine ⟨['\\', c] ++ u, rfl, fun opened => ?_⟩
      refine (hu opened).step (by simp) fun fuel w => ?_
      simp [readString, hescape]
  -- a character that stands for itself
  | case13 acc fuel c t hquote hone _ hmore hc ih =>
      have hslash : c ≠ '\\' := by
        cases t with
        | nil => exact fun heq => hone heq rfl
        | cons d t => exact fun heq => hmore d t heq rfl
      obtain ⟨u, rfl, hu⟩ := ih h
      refine ⟨[c] ++ u, rfl, fun opened => ?_⟩
      refine (hu opened).step (by simp) fun fuel w => ?_
      simp [readString, hslash, hc]
  | _ => exact nomatch h

/-! ## Numbers -/

/-- Digits are taken as far as they go. -/
theorem span_digits {digits w : Text} (hdigits : ∀ d ∈ digits, d.isDigit = true)
    (hw : ∀ c ∈ w.head?, c.isDigit = false) :
    (digits ++ w).takeWhile Char.isDigit = digits ∧ (digits ++ w).dropWhile Char.isDigit = w := by
  rw [List.takeWhile_append_of_pos hdigits, List.dropWhile_append_of_pos hdigits,
    dropWhile_eq_self hw]
  cases w with
  | nil => exact ⟨List.append_nil digits, rfl⟩
  | cons c w =>
      rw [List.takeWhile_cons_of_neg (by simp [hw c rfl]), List.append_nil]
      exact ⟨rfl, rfl⟩

/-- The digits that a text begins with, and the rest. -/
theorem takeWhile_digits (t : Text) :
    (∀ d ∈ t.takeWhile Char.isDigit, d.isDigit = true) ∧
      t = t.takeWhile Char.isDigit ++ t.dropWhile Char.isDigit :=
  ⟨fun _ hd => List.mem_takeWhile_imp hd, List.takeWhile_append_dropWhile.symm⟩

/-- The digits before the point are read, whatever follows them. -/
theorem exists_of_readWhole {t digits r : Text} (h : readWhole t = some (digits, r)) :
    digits ≠ [] ∧ (∀ d ∈ digits, d.isDigit = true) ∧ t = digits ++ r ∧
      ∀ w, (∀ c ∈ w.head?, c.isDigit = false) → readWhole (digits ++ w) = some (digits, w) := by
  unfold readWhole at h
  split at h
  · obtain ⟨rfl, rfl⟩ := Prod.mk.inj (Option.some.inj h)
    exact ⟨List.cons_ne_nil _ _, by decide, rfl, fun _ _ => rfl⟩
  · next hzero =>
      obtain ⟨hdigits, ht⟩ := takeWhile_digits t
      dsimp only at h
      split at h
      · exact nomatch h
      · next hne =>
          obtain ⟨rfl, rfl⟩ := Prod.mk.inj (Option.some.inj h)
          refine ⟨hne, hdigits, ht, fun w hw => ?_⟩
          obtain ⟨htake, hdrop⟩ := span_digits hdigits hw
          unfold readWhole
          split
          · next heq =>
              -- the digits are not empty, so a zero would be the first of them
              obtain ⟨d, digits, hcons⟩ := List.exists_cons_of_ne_nil hne
              rw [hcons] at heq ht
              obtain rfl := (List.cons.inj heq).1
              exact absurd ht (hzero _)
          · simp only [htake, hdrop, if_neg hne]

theorem readFraction_eq_none {t : Text} (h : ∀ c ∈ t.head?, c ≠ '.') : readFraction t = none := by
  unfold readFraction
  split
  · exact absurd rfl (h _ rfl)
  · rfl

/-- The point and the digits after it are read, whatever follows them. -/
theorem exists_of_readFraction {t r digits : Text} (h : readFraction t = some (digits, r)) :
    t = '.' :: digits ++ r ∧
      ∀ w, (∀ c ∈ w.head?, c.isDigit = false) →
        readFraction ('.' :: digits ++ w) = some (digits, w) := by
  unfold readFraction at h
  split at h
  · next t =>
      obtain ⟨hdigits, ht⟩ := takeWhile_digits t
      dsimp only at h
      split at h
      · exact nomatch h
      · next hne =>
          obtain ⟨rfl, rfl⟩ := Prod.mk.inj (Option.some.inj h)
          refine ⟨congrArg ('.' :: ·) ht, fun w hw => ?_⟩
          obtain ⟨htake, hdrop⟩ := span_digits hdigits hw
          simp only [List.cons_append, readFraction, htake, hdrop, if_neg hne]
  · exact nomatch h

/-- Whether a text begins with a minus sign, and the text after its sign if it begins with one. -/
def signed : Text → Bool × Text
  | '-' :: t => (true, t)
  | '+' :: t => (false, t)
  | t => (false, t)

/-- A sign is taken, whatever digits follow it. -/
theorem exists_of_signed (t : Text) :
    ∃ sign, t = sign ++ (signed t).2 ∧
      ∀ d s, d.isDigit = true → signed (sign ++ d :: s) = ((signed t).1, d :: s) := by
  unfold signed
  split
  · next t => exact ⟨['-'], rfl, fun _ _ _ => rfl⟩
  · next t => exact ⟨['+'], rfl, fun _ _ _ => rfl⟩
  · refine ⟨[], rfl, fun d s hd => ?_⟩
    have hminus : d ≠ '-' := ne_of_class hd (by decide)
    have hplus : d ≠ '+' := ne_of_class hd (by decide)
    split
    · next heq => exact absurd (List.cons.inj heq).1 hminus
    · next heq => exact absurd (List.cons.inj heq).1 hplus
    · rfl

/-- An exponent is its letter, a sign or none, and digits. -/
theorem readExponent_cons (c : Char) (t : Text) :
    readExponent (c :: t)
      = if c = 'e' || c = 'E' then
          let digits := (signed t).2.takeWhile Char.isDigit
          if digits = [] then none
          else
            let n : Int := decimalNumber digits
            some (if (signed t).1 then -n else n, (signed t).2.dropWhile Char.isDigit)
        else none := rfl

/-- A text that does not begin with the letter of exponents has no exponent. -/
theorem readExponent_eq_none {t : Text} (h : ∀ c ∈ t.head?, c ≠ 'e' ∧ c ≠ 'E') :
    readExponent t = none := by
  cases t with
  | nil => rfl
  | cons c t =>
      obtain ⟨hlower, hupper⟩ := h c rfl
      rw [readExponent_cons, if_neg (by simp [hlower, hupper])]

/-- What is read of an exponent is read, whatever follows it. -/
theorem exists_of_readExponent {t r : Text} {n : Int} (h : readExponent t = some (n, r)) :
    ∃ u, t = u ++ r ∧ (∀ c ∈ u.head?, c = 'e' ∨ c = 'E') ∧
      ∀ w, (∀ c ∈ w.head?, c.isDigit = false) → readExponent (u ++ w) = some (n, w) := by
  cases t with
  | nil => exact nomatch h
  | cons c t =>
      rw [readExponent_cons] at h
      split at h
      · next hletter =>
          dsimp only at h
          obtain ⟨sign, ht, hsign⟩ := exists_of_signed t
          obtain ⟨hdigits, hrest⟩ := takeWhile_digits (signed t).2
          generalize (signed t).2.takeWhile Char.isDigit = digits at h hdigits hrest
          split at h
          · exact nomatch h
          · next hne =>
              obtain ⟨rfl, rfl⟩ := Prod.mk.inj (Option.some.inj h)
              have hc : c = 'e' ∨ c = 'E' := by simpa using hletter
              refine ⟨c :: (sign ++ digits), ?_, by simpa using hc, fun w hw => ?_⟩
              · rw [List.cons_append, List.append_assoc, ← hrest, ← ht]
              · obtain ⟨htake, hdrop⟩ := span_digits hdigits hw
                have hsigned : signed (sign ++ (digits ++ w)) = ((signed t).1, digits ++ w) := by
                  obtain ⟨d, digits, rfl⟩ := List.exists_cons_of_ne_nil hne
                  exact hsign d _ (hdigits d List.mem_cons_self)
                rw [List.cons_append, List.append_assoc, readExponent_cons, if_pos hletter, hsigned]
                simp only [htake, hdrop, if_neg hne]
      · exact nomatch h

/-! ## Optional parts of numbers -/

/-- The text after an optional part of a number. -/
def afterPart {α : Type} (part : Text → Option (α × Text)) (t : Text) : Text :=
  ((part t).map (·.2)).getD t

/-- Whether an optional part is there, and what it gives, does not depend on what follows, as long
as that does not go on with the number. -/
theorem exists_optional {α : Type} {part : Text → Option (α × Text)} (first : Char → Prop)
    (hsome : ∀ t a r, part t = some (a, r) → ∃ u, t = u ++ r ∧ (∀ c ∈ u.head?, first c) ∧
      ∀ w, (∀ c ∈ w.head?, c.isDigit = false) → part (u ++ w) = some (a, w))
    (hnone : ∀ t, (∀ c ∈ t.head?, ¬ first c) → part t = none) (t : Text) :
    ∃ u, t = u ++ afterPart part t ∧ (∀ c ∈ u.head?, first c) ∧
      ∀ w, (∀ c ∈ w.head?, c.isDigit = false ∧ ¬ first c) →
        (part (u ++ w)).map (·.1) = (part t).map (·.1) ∧ afterPart part (u ++ w) = w := by
  cases h : part t with
  | none =>
      refine ⟨[], by rw [afterPart, h]; rfl, nofun, fun w hw => ?_⟩
      have hw : part w = none := hnone w fun c hc => (hw c hc).2
      rw [List.nil_append, afterPart, hw]
      exact ⟨rfl, rfl⟩
  | some found =>
      obtain ⟨u, rfl, hfirst, hreads⟩ := hsome t found.1 found.2 h
      refine ⟨u, by rw [afterPart, h]; rfl, hfirst, fun w hw => ?_⟩
      have hw : part (u ++ w) = some (found.1, w) := hreads w fun c hc => (hw c hc).1
      rw [afterPart, hw]
      exact ⟨rfl, rfl⟩

/-- The number of its parts: an integer when there is neither fraction nor exponent. -/
def numberOf (negative : Bool) (whole : Text) : Option Text → Option Int → Except Stop Json
  | none, none =>
    if digitLimit < whole.length then .error (.integerTooLong whole.length)
    else
      let n : Int := decimalNumber whole
      .ok (.int (if negative then -n else n))
  | fraction, exponent =>
    let places := fraction.getD []
    let power := exponent.getD 0
    .ok (.float (.ofDecimal negative (decimalNumber (whole ++ places)) (power - places.length)))

/-- A number is read part by part. -/
theorem readNumber_eq (negative : Bool) (t : Text) :
    readNumber negative t = (readWhole t).map fun (whole, s) =>
      let s' := afterPart readFraction s
      (numberOf negative whole ((readFraction s).map (·.1)) ((readExponent s').map (·.1))).map
        (·, afterPart readExponent s') := by
  unfold readNumber afterPart
  congr 1
  funext ⟨whole, s⟩
  dsimp only
  generalize ((readFraction s).map (·.2)).getD s = s'
  cases readFraction s with
  | some fraction => cases readExponent s' <;> rfl
  | none =>
      cases readExponent s' with
      | some exponent => rfl
      | none =>
          dsimp only [Option.isNone_none, Option.map_none, numberOf]
          split
          · split <;> rfl
          · contradiction

/-- A number is no object. -/
theorem numberOf_ne_obj {negative : Bool} {whole : Text} {fraction : Option Text}
    {exponent : Option Int} {v : Json} (h : numberOf negative whole fraction exponent = .ok v)
    (fields : List (Text × Json)) : v ≠ .obj fields := by
  rintro rfl
  unfold numberOf at h
  split at h
  · split at h <;> exact nomatch h
  · exact nomatch h

theorem head_append {P : Char → Prop} {a b : Text} (ha : ∀ c ∈ a.head?, P c)
    (hb : ∀ c ∈ b.head?, P c) : ∀ c ∈ (a ++ b).head?, P c := by
  cases a with
  | nil => exact hb
  | cons c a => exact ha

/-- What is read of a number is read, whatever follows that does not go on with it. -/
theorem exists_of_readNumber {negative : Bool} {t r : Text} {v : Json}
    (h : readNumber negative t = some (.ok (v, r))) :
    ∃ u, t = u ++ r ∧ (∃ d ∈ u.head?, d.isDigit = true) ∧ (∀ fields, v ≠ .obj fields) ∧
      ∀ w, EndsNumber w → readNumber negative (u ++ w) = some (.ok (v, w)) := by
  rw [readNumber_eq] at h
  obtain ⟨⟨whole, s⟩, hwhole, hnumber⟩ := Option.map_eq_some_iff.mp h
  dsimp only at hnumber
  obtain ⟨hne, hdigits, rfl, hwholes⟩ := exists_of_readWhole hwhole
  obtain ⟨places, hs, hpoint, hplaces⟩ := @exists_optional Text readFraction (· = '.')
    (fun t digits r h =>
      ⟨'.' :: digits, (exists_of_readFraction h).1, by simp, (exists_of_readFraction h).2⟩)
    (fun t h => readFraction_eq_none h) s
  generalize afterPart readFraction s = s' at hnumber hs
  obtain ⟨power, hs', hletter, hpowers⟩ := exists_optional (fun c => c = 'e' ∨ c = 'E')
    (fun t n r h => exists_of_readExponent h)
    (fun t h => readExponent_eq_none fun c hc => not_or.mp (h c hc)) s'
  cases hv : numberOf negative whole ((readFraction s).map (·.1)) ((readExponent s').map (·.1)) with
  | error stop =>
      rw [hv] at hnumber
      exact nomatch hnumber
  | ok v' =>
      rw [hv] at hnumber
      obtain ⟨rfl, rfl⟩ := Prod.mk.inj (Except.ok.inj hnumber)
      refine ⟨whole ++ (places ++ power), ?_, ?_, numberOf_ne_obj hv, fun w hw => ?_⟩
      · rw [List.append_assoc, List.append_assoc, ← hs', ← hs]
      · obtain ⟨d, whole, rfl⟩ := List.exists_cons_of_ne_nil hne
        exact ⟨d, rfl, hdigits d List.mem_cons_self⟩
      -- each part ends because the next one, or what follows the number, begins with another sign
      · have hpower : ∀ c ∈ (power ++ w).head?, c.isDigit = false ∧ c ≠ '.' := by
          refine head_append (fun c hc => ?_) fun c hc => ?_
          · rcases hletter c hc with rfl | rfl <;> decide
          · exact ⟨(hw c hc).1, fun h => (hw c hc).2 (by simp [h])⟩
        have hplace : ∀ c ∈ (places ++ (power ++ w)).head?, c.isDigit = false := by
          refine head_append (fun c hc => ?_) fun c hc => (hpower c hc).1
          rw [hpoint c hc]
          rfl
        obtain ⟨hfraction, hafter⟩ := hplaces (power ++ w) hpower
        obtain ⟨hexponent, hafter'⟩ := hpowers w fun c hc =>
          ⟨(hw c hc).1, fun h => (hw c hc).2 (by rcases h with rfl | rfl <;> decide)⟩
        rw [readNumber_eq, List.append_assoc, List.append_assoc, hwholes _ hplace, Option.map_some]
        dsimp only
        rw [hafter, hfraction, hexponent, hafter', hv]
        rfl

/-! ## Words -/

/-- What is read of a word is the word, and it is read whatever follows it. -/
theorem exists_of_readWord {t r : Text} {v : Json} (h : readWord t = some (v, r)) :
    ∃ u, u ≠ [] ∧ t = u ++ r ∧ (∀ fields, v ≠ .obj fields) ∧
      ∀ w, readWord (u ++ w) = some (v, w) := by
  obtain ⟨⟨word, v'⟩, hword, h⟩ := List.exists_of_findSome?_eq_some h
  obtain ⟨r', hr, heq⟩ := Option.map_eq_some_iff.mp h
  obtain ⟨rfl, rfl⟩ := Prod.mk.inj heq
  refine ⟨word, ?_, dropPrefix?_eq_some_iff.mp hr, ?_, ?_⟩
  · fin_cases hword <;> decide
  · fin_cases hword <;> nofun
  · -- the words differ in their first characters, so no other one is found before
    fin_cases hword <;> exact fun w => rfl

theorem readWord_eq_none {d : Char} (hd : d.isDigit = true) (t : Text) :
    readWord (d :: t) = none ∧ readWord ('-' :: d :: t) = none := by
  have hne : ∀ {c : Char}, c.isDigit = false → c ≠ d := fun hc => (ne_of_class hd hc).symm
  constructor
  · simp [readWord, words, dropPrefix?, hne]
  · simp [readWord, words, dropPrefix?, hne]

/-! ## Scalars -/

/-- What is read of a scalar is read, whatever follows that does not go on with a number. -/
theorem exists_of_readScalar {t r : Text} {v : Json} (h : readScalar t = .ok (v, r)) :
    ∃ u, u ≠ [] ∧ t = u ++ r ∧ (∀ fields, v ≠ .obj fields) ∧
      ∀ w, EndsNumber w → readScalar (u ++ w) = .ok (v, w) := by
  unfold readScalar at h
  cases hword : readWord t with
  | some found =>
      rw [hword] at h
      obtain rfl := Except.ok.inj h
      obtain ⟨u, hne, rfl, hobj, hreads⟩ := exists_of_readWord hword
      refine ⟨u, hne, rfl, hobj, fun w _ => ?_⟩
      unfold readScalar
      rw [hreads]
  | none =>
      rw [hword] at h
      dsimp only at h
      split at h
      · next found hfound =>
          split at hfound
          · next t =>
              obtain ⟨u, rfl, ⟨d, hhead, hd⟩, hobj, hreads⟩ := exists_of_readNumber (h ▸ hfound)
              obtain ⟨u, rfl⟩ := List.head?_eq_some_iff.mp hhead
              refine ⟨'-' :: d :: u, List.cons_ne_nil _ _, rfl, hobj, fun w hw => ?_⟩
              have hnone := (readWord_eq_none hd (u ++ w)).2
              have hnumber : readNumber true (d :: (u ++ w)) = some (.ok (v, w)) := hreads w hw
              simp only [List.cons_append, readScalar, hnone, hnumber]
          · next hminus =>
              obtain ⟨u, rfl, ⟨d, hhead, hd⟩, hobj, hreads⟩ := exists_of_readNumber (h ▸ hfound)
              obtain ⟨u, rfl⟩ := List.head?_eq_some_iff.mp hhead
              refine ⟨d :: u, List.cons_ne_nil _ _, rfl, hobj, fun w hw => ?_⟩
              have hnone := (readWord_eq_none hd (u ++ w)).1
              have hnumber : readNumber false (d :: (u ++ w)) = some (.ok (v, w)) := hreads w hw
              have hminus : d ≠ '-' := ne_of_class hd (by decide)
              simp [readScalar, hnone, hnumber, hminus]
      · exact nomatch h

end ModuleDocs.Json
