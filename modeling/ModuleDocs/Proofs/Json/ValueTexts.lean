import ModuleDocs.Proofs.Json.ScalarTexts

/-! # The texts of values

    What the reader uses of a text it would use again, whatever else stood
    behind it: a value has a text of its own.  Lists and objects hold the texts
    of their items and fields, with white space and marks between them, and
    white space and marks end a number.

    A text that is read as a whole is the text of its value with white space
    around it, and to change the white space does not change what is read. -/

namespace ModuleDocs.Json

open Text

/-! ## White space -/

/-- Whether a text is white space of JSON. -/
def IsSpaces (t : Text) : Prop := ∀ c ∈ t, isJsonSpace c = true

/-- White space does not go on with a number. -/
theorem not_numeric_of_isJsonSpace {c : Char} (hc : isJsonSpace c = true) :
    c.isDigit = false ∧ c ∉ ['.', 'e', 'E'] := by
  simp only [isJsonSpace, Bool.or_eq_true, decide_eq_true_eq] at hc
  rcases hc with ((rfl | rfl) | rfl) | rfl <;> decide

theorem skipSpace_append {spaces w : Text} (hspaces : IsSpaces spaces)
    (hw : ∀ c ∈ w.head?, isJsonSpace c = false) : skipSpace (spaces ++ w) = w := by
  rw [skipSpace, List.dropWhile_append_of_pos hspaces, dropWhile_eq_self hw]

theorem skipSpace_mark {spaces : Text} (hspaces : IsSpaces spaces) {c : Char}
    (hc : isJsonSpace c = false) (w : Text) : skipSpace (spaces ++ c :: w) = c :: w :=
  dropWhile_eq_right hspaces hc w

theorem skipSpace_text {spaces u : Text} (hspaces : IsSpaces spaces) (hne : u ≠ [])
    (hhead : ∀ c ∈ u.head?, isJsonSpace c = false) (w : Text) :
    skipSpace (spaces ++ (u ++ w)) = u ++ w := by
  obtain ⟨c, u, rfl⟩ := List.exists_cons_of_ne_nil hne
  exact skipSpace_append hspaces hhead

/-- A text is the white space it begins with and a text that does not begin with white space. -/
theorem exists_skipSpace (t : Text) :
    ∃ spaces, t = spaces ++ skipSpace t ∧ IsSpaces spaces ∧
      ∀ c ∈ (skipSpace t).head?, isJsonSpace c = false := by
  refine ⟨t.takeWhile isJsonSpace, List.takeWhile_append_dropWhile.symm,
    fun _ hc => List.mem_takeWhile_imp hc, fun c hc => ?_⟩
  have := List.head?_dropWhile_not isJsonSpace t
  rw [← skipSpace, Option.mem_def.mp hc] at this
  simpa using this

theorem endsNumber_append {spaces w : Text} (hspaces : IsSpaces spaces) {c : Char}
    (hc : c ∈ [']', '\x7d', ',', ':']) : EndsNumber (spaces ++ c :: w) := by
  refine head_append (fun d hd => ?_) fun d hd => ?_
  · exact not_numeric_of_isJsonSpace (hspaces d (List.mem_of_mem_head? hd))
  · obtain rfl : c = d := Option.some.inj hd
    fin_cases hc <;> decide

/-! ## Values -/

/-- Whether a text is that of a value with room for some containers; the text of an object stands in
braces. -/
structure IsText (room : Nat) (u : Text) (v : Json) : Prop where
  takes : Takes (readValue · room) u v
  braced : ∀ fields, v = .obj fields → ∃ inner, u = '\x7b' :: (inner ++ ['\x7d'])

/-- The fuel of a text that is not empty is not used up. -/
theorem exists_fuel {u : Text} (hne : u ≠ []) {fuel : Nat} (h : u.length ≤ fuel) :
    ∃ n, fuel = n + 1 ∧ u.length ≤ n + 1 := by
  have hpos := List.length_pos_iff.mpr hne
  exact ⟨fuel - 1, by omega, by omega⟩

variable {room : Nat} {u spaces : Text}

/-- A string is a value. -/
theorem isText_string {s : Text} (h : Completes [] u s) : IsText room ('"' :: u) (.str s) := by
  refine ⟨⟨List.cons_ne_nil _ _, fun fuel w hfuel hw => ?_⟩, nofun⟩
  obtain ⟨fuel, rfl, -⟩ := exists_fuel (List.cons_ne_nil _ _) hfuel
  have hlength : u.length ≤ (u ++ w).length + 1 := by
    rw [List.length_append]
    omega
  rw [List.cons_append, readValue_quote, (h _).reads _ w hlength hw]
  rfl

/-- A scalar is a value, unless it begins like another value. -/
theorem isText_scalar {v : Json} (hne : u ≠ []) (hobj : ∀ fields, v ≠ .obj fields)
    (hhead : ∀ c ∈ u.head?, c ∉ ['"', '[', '\x7b'])
    (h : ∀ w, EndsNumber w → readScalar (u ++ w) = .ok (v, w)) : IsText room u v := by
  refine ⟨⟨hne, fun fuel w hfuel hw => ?_⟩, fun fields hv => absurd hv (hobj fields)⟩
  obtain ⟨fuel, rfl, -⟩ := exists_fuel hne hfuel
  obtain ⟨c, u, rfl⟩ := List.exists_cons_of_ne_nil hne
  have hc := hhead c rfl
  simp only [List.mem_cons, List.not_mem_nil, or_false, not_or] at hc
  have hscalar : readScalar (c :: (u ++ w)) = .ok (v, w) := h w hw
  simp [readValue, hc, hscalar]

/-- Brackets with white space between them are the empty list. -/
theorem isText_noItems (hspaces : IsSpaces spaces) :
    IsText (room + 1) ('[' :: (spaces ++ [']'])) (.arr []) := by
  refine ⟨⟨List.cons_ne_nil _ _, fun fuel w hfuel hw => ?_⟩, nofun⟩
  obtain ⟨fuel, rfl, -⟩ := exists_fuel (List.cons_ne_nil _ _) hfuel
  have hskip := skipSpace_mark hspaces (by decide : isJsonSpace ']' = false) w
  simp [readValue, hskip]

/-- Braces with white space between them are the empty object. -/
theorem isText_noFields (hspaces : IsSpaces spaces) :
    IsText (room + 1) ('\x7b' :: (spaces ++ ['\x7d'])) (.obj []) := by
  refine ⟨⟨List.cons_ne_nil _ _, fun fuel w hfuel hw => ?_⟩, fun _ _ => ⟨spaces, rfl⟩⟩
  obtain ⟨fuel, rfl, -⟩ := exists_fuel (List.cons_ne_nil _ _) hfuel
  have hskip := skipSpace_mark hspaces (by decide : isJsonSpace '\x7d' = false) w
  simp [readValue, hskip]

/-- A bracket, white space and items are a list. -/
theorem isText_items {items : List Json} (hspaces : IsSpaces spaces)
    (hhead : ∀ c ∈ u.head?, isJsonSpace c = false ∧ c ≠ ']')
    (h : Takes (readItems · room) u items) :
    IsText (room + 1) ('[' :: (spaces ++ u)) (.arr items) := by
  refine ⟨⟨List.cons_ne_nil _ _, fun fuel w hfuel hw => ?_⟩, nofun⟩
  obtain ⟨fuel, rfl, hfuel⟩ := exists_fuel (List.cons_ne_nil _ _) hfuel
  obtain ⟨c, u, rfl⟩ := List.exists_cons_of_ne_nil h.nonempty
  have hskip : skipSpace (spaces ++ c :: (u ++ w)) = c :: (u ++ w) :=
    skipSpace_append hspaces fun d hd => (hhead d hd).1
  have hread : readItems fuel room (c :: (u ++ w)) = .ok (items, w) := by
    refine h.reads fuel w ?_ hw
    simp only [List.length_cons, List.length_append] at hfuel ⊢
    omega
  simp [readValue, hskip, hread, (hhead c rfl).2]

/-- A brace, white space and fields are an object. -/
theorem isText_fields {fields : List (Text × Json)} (hspaces : IsSpaces spaces)
    (hhead : ∀ c ∈ u.head?, isJsonSpace c = false ∧ c ≠ '\x7d')
    (h : Takes (readFields · room) (u ++ ['\x7d']) fields) (hne : u ≠ []) :
    IsText (room + 1) ('\x7b' :: (spaces ++ (u ++ ['\x7d']))) (.obj (objectOf fields)) := by
  refine ⟨⟨List.cons_ne_nil _ _, fun fuel w hfuel hw => ?_⟩,
    fun _ _ => ⟨spaces ++ u, by rw [List.append_assoc]⟩⟩
  obtain ⟨fuel, rfl, hfuel⟩ := exists_fuel (List.cons_ne_nil _ _) hfuel
  obtain ⟨c, u, rfl⟩ := List.exists_cons_of_ne_nil hne
  have hskip : skipSpace (spaces ++ c :: (u ++ '\x7d' :: w)) = c :: (u ++ '\x7d' :: w) :=
    skipSpace_append hspaces fun d hd => (hhead d hd).1
  have hread : readFields fuel room (c :: (u ++ '\x7d' :: w)) = .ok (fields, w) := by
    have := h.reads fuel w (by
      simp only [List.length_cons, List.length_append] at hfuel ⊢
      omega) hw
    simpa using this
  simp [readValue, hskip, hread, (hhead c rfl).2]

/-! ## Items and fields -/

/-- The last item, white space and the closing bracket. -/
theorem takes_lastItem {v : Json} (h : IsText room u v) (hspaces : IsSpaces spaces) :
    Takes (readItems · room) (u ++ (spaces ++ [']'])) [v] := by
  refine ⟨by simp, fun fuel w hfuel hw => ?_⟩
  obtain ⟨fuel, rfl, hfuel⟩ := exists_fuel (by simp) hfuel
  have hends : EndsNumber (spaces ++ ']' :: w) := endsNumber_append hspaces (by simp)
  have hskip := skipSpace_mark hspaces (by decide : isJsonSpace ']' = false) w
  have hread : readValue fuel room (u ++ (spaces ++ ']' :: w)) = .ok (v, spaces ++ ']' :: w) := by
    refine h.takes.reads fuel _ ?_ hends
    simp only [List.length_append, List.length_singleton] at hfuel
    omega
  simp [readItems, hread, hskip]

/-- An item, a comma with white space around it, and the other items. -/
theorem takes_moreItems {v : Json} {items : List Json} {spaces' u' : Text} (h : IsText room u v)
    (hspaces : IsSpaces spaces) (hspaces' : IsSpaces spaces')
    (hhead : ∀ c ∈ u'.head?, isJsonSpace c = false) (h' : Takes (readItems · room) u' items) :
    Takes (readItems · room) (u ++ (spaces ++ ',' :: (spaces' ++ u'))) (v :: items) := by
  refine ⟨by simp, fun fuel w hfuel hw => ?_⟩
  obtain ⟨fuel, rfl, hfuel⟩ := exists_fuel (by simp) hfuel
  simp only [List.length_append, List.length_cons] at hfuel
  have hends : EndsNumber (spaces ++ ',' :: (spaces' ++ (u' ++ w))) :=
    endsNumber_append hspaces (by simp)
  have hskip := skipSpace_mark hspaces (by decide : isJsonSpace ',' = false) (spaces' ++ (u' ++ w))
  have hskip' := skipSpace_text hspaces' h'.nonempty hhead w
  have hread := h.takes.reads fuel _ (by omega) hends
  have hread' := h'.reads fuel w (by omega) hw
  simp only [List.append_assoc, List.cons_append, readItems, hread, hskip, hskip', hread']

/-- Whether a text is that of a field: its name, a colon with white space around it, and its
value. -/
inductive IsField (room : Nat) : Text → Text × Json → Prop where
  | mk {name key before after u : Text} {v : Json} (named : Completes [] name key)
    (before_spaces : IsSpaces before) (after_spaces : IsSpaces after)
    (head : ∀ c ∈ u.head?, isJsonSpace c = false) (valued : IsText room u v) :
    IsField room ('"' :: (name ++ (before ++ ':' :: (after ++ u)))) (key, v)

/-- How an object goes on after a field: it ends, or there are more fields. -/
def afterField (fuel room : Nat) (field : Text × Json) (t : Text) :
    Except Stop (List (Text × Json) × Text) :=
  match skipSpace t with
  | '\x7d' :: r => .ok ([field], r)
  | ',' :: r =>
    match readFields fuel room (skipSpace r) with
    | .error stop => .error stop
    | .ok (fields, r) => .ok (field :: fields, r)
  | r => .error (.fault .comma r.length)

/-- A field is read, whatever follows that does not go on with a number. -/
theorem readFields_append {field : Text × Json} {w : Text} {fuel : Nat} (h : IsField room u field)
    (hfuel : u.length ≤ fuel + 1) (hw : EndsNumber w) :
    readFields (fuel + 1) room (u ++ w) = afterField fuel room field w := by
  obtain @⟨name, key, before, after, u, v, hnamed, hbefore, hafter, hhead, hvalued⟩ := h
  simp only [List.length_append, List.length_cons] at hfuel
  have hends : EndsNumber (before ++ ':' :: (after ++ (u ++ w))) :=
    endsNumber_append hbefore (by simp)
  have hname : ∀ length, name.length ≤ length →
      readString length length [] (name ++ (before ++ ':' :: (after ++ (u ++ w))))
        = .ok (key, before ++ ':' :: (after ++ (u ++ w))) :=
    fun length hlength => (hnamed _).reads length _ hlength hends
  have hskip := skipSpace_mark hbefore (by decide : isJsonSpace ':' = false) (after ++ (u ++ w))
  have hskip' := skipSpace_text hafter hvalued.takes.nonempty hhead w
  have hread := hvalued.takes.reads fuel w (by omega) hw
  simp only [List.append_assoc, List.cons_append, readFields]
  rw [hname _ (by simp; omega)]
  simp only [hskip, hskip', hread]
  rfl

/-- The last field, white space and the closing brace. -/
theorem takes_lastField {field : Text × Json} (h : IsField room u field)
    (hspaces : IsSpaces spaces) :
    Takes (readFields · room) (u ++ spaces ++ ['\x7d']) [field] := by
  refine ⟨by simp, fun fuel w hfuel hw => ?_⟩
  obtain ⟨fuel, rfl, hfuel⟩ := exists_fuel (by simp) hfuel
  simp only [List.length_append, List.length_singleton] at hfuel
  have hskip := skipSpace_mark hspaces (by decide : isJsonSpace '\x7d' = false) w
  rw [List.append_assoc, List.append_assoc, List.singleton_append,
    readFields_append h (by omega) (endsNumber_append hspaces (by simp)), afterField, hskip]
  rfl

/-- A field, a comma with white space around it, and the other fields. -/
theorem takes_moreFields {field : Text × Json} {fields : List (Text × Json)} {spaces' u' : Text}
    (h : IsField room u field) (hspaces : IsSpaces spaces) (hspaces' : IsSpaces spaces')
    (hhead : ∀ c ∈ u'.head?, isJsonSpace c = false) (h' : Takes (readFields · room) u' fields) :
    Takes (readFields · room) (u ++ (spaces ++ ',' :: (spaces' ++ u'))) (field :: fields) := by
  refine ⟨by simp, fun fuel w hfuel hw => ?_⟩
  obtain ⟨fuel, rfl, hfuel⟩ := exists_fuel (by simp) hfuel
  simp only [List.length_append, List.length_cons] at hfuel
  have hskip := skipSpace_mark hspaces (by decide : isJsonSpace ',' = false) (spaces' ++ (u' ++ w))
  have hskip' := skipSpace_text hspaces' h'.nonempty hhead w
  have hread := h'.reads fuel w (by omega) hw
  simp only [List.append_assoc, List.cons_append]
  rw [readFields_append h (by omega) (endsNumber_append hspaces (by simp)), afterField, hskip]
  simp only [hskip', hread]

/-! ## What is read -/

/-- Whether all values that are read with some fuel are read of their texts. -/
def ReadsValues (fuel : Nat) : Prop :=
  ∀ room t v r, readValue fuel room t = .ok (v, r) → ∃ u, t = u ++ r ∧ IsText room u v

/-- Whether all items that are read with some fuel are read of a text of their own. -/
def ReadsItems (fuel : Nat) : Prop :=
  ∀ room t items r, readItems fuel room t = .ok (items, r) →
    ∃ u, t = u ++ r ∧ Takes (readItems · room) u items

/-- Whether all fields that are read with some fuel are read of a text of their own, which ends in
the closing brace. -/
def ReadsFields (fuel : Nat) : Prop :=
  ∀ room t fields r, readFields fuel room t = .ok (fields, r) →
    ∃ u, t = u ++ '\x7d' :: r ∧ u ≠ [] ∧ Takes (readFields · room) (u ++ ['\x7d']) fields

/-- A list is read of its text when its items are. -/
theorem exists_text_list {fuel : Nat} (hitems : ReadsItems fuel) {room : Nat} {t r : Text}
    {v : Json} (h : readValue (fuel + 1) room ('[' :: t) = .ok (v, r)) :
    ∃ u, '[' :: t = u ++ r ∧ IsText room u v := by
  obtain ⟨spaces, ht, hspaces, hhead⟩ := exists_skipSpace t
  simp only [readValue] at h
  split at h
  · cases h
  · next room s hskip =>
      obtain ⟨rfl, rfl⟩ := Prod.mk.inj (Except.ok.inj h)
      rw [hskip] at ht
      exact ⟨'[' :: (spaces ++ [']']), by rw [ht]; simp, isText_noItems hspaces⟩
  · next room s hskip =>
      split at h
      · cases h
      · next items r hread =>
          obtain ⟨rfl, rfl⟩ := Prod.mk.inj (Except.ok.inj h)
          obtain ⟨u, hu, htakes⟩ := hitems _ _ _ _ hread
          obtain ⟨c, u, rfl⟩ := List.exists_cons_of_ne_nil htakes.nonempty
          rw [hu] at ht hhead hskip
          refine ⟨'[' :: (spaces ++ c :: u), by rw [ht]; simp, isText_items hspaces ?_ htakes⟩
          rintro d hd
          obtain rfl : c = d := Option.some.inj hd
          exact ⟨hhead c rfl, by rintro rfl; exact hskip _ rfl⟩

/-- An object is read of its text when its fields are. -/
theorem exists_text_object {fuel : Nat} (hfields : ReadsFields fuel) {room : Nat} {t r : Text}
    {v : Json} (h : readValue (fuel + 1) room ('\x7b' :: t) = .ok (v, r)) :
    ∃ u, '\x7b' :: t = u ++ r ∧ IsText room u v := by
  obtain ⟨spaces, ht, hspaces, hhead⟩ := exists_skipSpace t
  simp only [readValue] at h
  split at h
  · cases h
  · next room s hskip =>
      obtain ⟨rfl, rfl⟩ := Prod.mk.inj (Except.ok.inj h)
      rw [hskip] at ht
      exact ⟨'\x7b' :: (spaces ++ ['\x7d']), by rw [ht]; simp, isText_noFields hspaces⟩
  · next room s hskip =>
      split at h
      · cases h
      · next fields r hread =>
          obtain ⟨rfl, rfl⟩ := Prod.mk.inj (Except.ok.inj h)
          obtain ⟨u, hu, hne, htakes⟩ := hfields _ _ _ _ hread
          obtain ⟨c, u, rfl⟩ := List.exists_cons_of_ne_nil hne
          rw [hu] at ht hhead hskip
          refine ⟨'\x7b' :: (spaces ++ (c :: u ++ ['\x7d'])), by rw [ht]; simp,
            isText_fields hspaces ?_ htakes hne⟩
          rintro d hd
          obtain rfl : c = d := Option.some.inj hd
          exact ⟨hhead c rfl, by rintro rfl; exact hskip _ rfl⟩

/-- A string is read of its text. -/
theorem exists_text_string {fuel room : Nat} {t r : Text} {v : Json}
    (h : readValue (fuel + 1) room ('"' :: t) = .ok (v, r)) :
    ∃ u, '"' :: t = u ++ r ∧ IsText room u v := by
  rw [readValue_quote] at h
  cases hread : readString (t.length + 1) (t.length + 1) [] t with
  | error stop =>
      rw [hread] at h
      exact nomatch h
  | ok found =>
      rw [hread] at h
      obtain ⟨rfl, rfl⟩ := Prod.mk.inj (Except.ok.inj h)
      obtain ⟨u, rfl, hu⟩ := exists_completes hread
      exact ⟨'"' :: u, rfl, isText_string hu⟩

/-- A scalar is read of its text. -/
theorem exists_text_scalar {fuel room : Nat} {t r : Text} {v : Json}
    (hhead : ∀ c ∈ t.head?, c ∉ ['"', '[', '\x7b'])
    (h : readValue (fuel + 1) room t = .ok (v, r)) : ∃ u, t = u ++ r ∧ IsText room u v := by
  unfold readValue at h
  split at h
  · exact absurd (by simp) (hhead _ rfl)
  · exact absurd (by simp) (hhead _ rfl)
  · exact absurd (by simp) (hhead _ rfl)
  · obtain ⟨u, hne, rfl, hobj, hreads⟩ := exists_of_readScalar h
    obtain ⟨c, u, rfl⟩ := List.exists_cons_of_ne_nil hne
    exact ⟨c :: u, rfl, isText_scalar hne hobj hhead hreads⟩

/-- One step more reads values of their texts. -/
theorem readsValues_succ {fuel : Nat} (hitems : ReadsItems fuel) (hfields : ReadsFields fuel) :
    ReadsValues (fuel + 1) := by
  intro room t v r h
  by_cases hhead : ∀ c ∈ t.head?, c ∉ ['"', '[', '\x7b']
  · exact exists_text_scalar hhead h
  · simp only [not_forall, not_not] at hhead
    obtain ⟨c, hc, hmark⟩ := hhead
    obtain ⟨t, rfl⟩ := List.head?_eq_some_iff.mp hc
    fin_cases hmark
    · exact exists_text_string h
    · exact exists_text_list hitems h
    · exact exists_text_object hfields h

/-- One step more reads items of a text of their own. -/
theorem readsItems_succ {fuel : Nat} (hvalues : ReadsValues fuel) (hitems : ReadsItems fuel) :
    ReadsItems (fuel + 1) := by
  intro room t items r h
  unfold readItems at h
  split at h
  · exact nomatch h
  · next v s hread =>
      obtain ⟨u, rfl, hu⟩ := hvalues _ _ _ _ hread
      obtain ⟨spaces, hs, hspaces, -⟩ := exists_skipSpace s
      split at h
      · next hskip =>
          obtain ⟨rfl, rfl⟩ := Prod.mk.inj (Except.ok.inj h)
          rw [hskip] at hs
          exact ⟨u ++ (spaces ++ [']']), by rw [hs]; simp, takes_lastItem hu hspaces⟩
      · next s' hskip =>
          obtain ⟨spaces', hs', hspaces', hhead⟩ := exists_skipSpace s'
          split at h
          · exact nomatch h
          · next items r hread' =>
              obtain ⟨rfl, rfl⟩ := Prod.mk.inj (Except.ok.inj h)
              obtain ⟨u', hu', htakes⟩ := hitems _ _ _ _ hread'
              obtain ⟨c, u', rfl⟩ := List.exists_cons_of_ne_nil htakes.nonempty
              rw [hskip] at hs
              rw [hu'] at hs' hhead
              exact ⟨u ++ (spaces ++ ',' :: (spaces' ++ c :: u')), by rw [hs, hs']; simp,
                takes_moreItems hu hspaces hspaces' hhead htakes⟩
      · exact nomatch h

/-- What is read of fields begins with a field. -/
theorem exists_field {fuel : Nat} (hvalues : ReadsValues fuel) {room : Nat} {t r : Text}
    {fields : List (Text × Json)} (h : readFields (fuel + 1) room t = .ok (fields, r)) :
    ∃ u field s, t = u ++ s ∧ IsField room u field ∧
      afterField fuel room field s = .ok (fields, r) := by
  unfold readFields at h
  split at h
  · split at h
    · exact nomatch h
    · next key s hkey =>
        obtain ⟨name, rfl, hname⟩ := exists_completes hkey
        obtain ⟨before, hs, hbefore, -⟩ := exists_skipSpace s
        split at h
        · next s' hcolon =>
            obtain ⟨after, hs', hafter, hhead⟩ := exists_skipSpace s'
            split at h
            · exact nomatch h
            · next v rest hread =>
                obtain ⟨u, hu, hvalue⟩ := hvalues _ _ _ _ hread
                obtain ⟨c, u, rfl⟩ := List.exists_cons_of_ne_nil hvalue.takes.nonempty
                rw [hcolon] at hs
                rw [hu] at hs' hhead
                have hfield :
                    IsField room ('"' :: (name ++ (before ++ ':' :: (after ++ c :: u)))) (key, v) :=
                  .mk hname hbefore hafter hhead hvalue
                refine ⟨_, _, rest, ?_, hfield, h⟩
                rw [hs, hs']
                simp
        · exact nomatch h
  · exact nomatch h

/-- One step more reads fields of a text of their own. -/
theorem readsFields_succ {fuel : Nat} (hvalues : ReadsValues fuel) (hfields : ReadsFields fuel) :
    ReadsFields (fuel + 1) := by
  intro room t fields r h
  obtain ⟨u, field, s, rfl, hfield, h⟩ := exists_field hvalues h
  have hne : u ≠ [] := by
    cases hfield
    exact List.cons_ne_nil _ _
  obtain ⟨spaces, hs, hspaces, -⟩ := exists_skipSpace s
  unfold afterField at h
  split at h
  · next hclose =>
      obtain ⟨rfl, rfl⟩ := Prod.mk.inj (Except.ok.inj h)
      rw [hclose] at hs
      exact ⟨u ++ spaces, by rw [hs]; simp, List.append_ne_nil_of_left_ne_nil hne _,
        takes_lastField hfield hspaces⟩
  · next s' hcomma =>
      obtain ⟨spaces', hs', hspaces', hhead⟩ := exists_skipSpace s'
      split at h
      · exact nomatch h
      · next fields r hread =>
          obtain ⟨rfl, rfl⟩ := Prod.mk.inj (Except.ok.inj h)
          obtain ⟨u', hu', hne', htakes⟩ := hfields _ _ _ _ hread
          obtain ⟨c, u', rfl⟩ := List.exists_cons_of_ne_nil hne'
          rw [hcomma] at hs
          rw [hu'] at hs' hhead
          have hhead : ∀ d ∈ (c :: u' ++ ['\x7d']).head?, isJsonSpace d = false := hhead
          have hmore := takes_moreFields hfield hspaces hspaces' hhead htakes
          refine ⟨u ++ (spaces ++ ',' :: (spaces' ++ c :: u')), ?_,
            List.append_ne_nil_of_left_ne_nil hne _, by simpa using hmore⟩
          rw [hs, hs']
          simp
  · exact nomatch h

/-- Whatever is read is read of a text of its own. -/
theorem reads (fuel : Nat) : ReadsValues fuel ∧ ReadsItems fuel ∧ ReadsFields fuel := by
  induction fuel with
  | zero => exact ⟨nofun, nofun, nofun⟩
  | succ fuel ih =>
      obtain ⟨hvalues, hitems, hfields⟩ := ih
      exact ⟨readsValues_succ hitems hfields, readsItems_succ hvalues hitems,
        readsFields_succ hvalues hfields⟩

/-! ## Whole texts -/

/-- White space, the text of a value and white space are read as the value, unless a byte order mark
stands at the start. -/
theorem read_append {before u after : Text} {v : Json} (h : IsText nestingLimit u v)
    (hbefore : IsSpaces before) (hafter : IsSpaces after)
    (hhead : ∀ c ∈ u.head?, isJsonSpace c = false ∧ c ≠ '\uFEFF') :
    read (before ++ (u ++ after)) = .ok v := by
  have hfirst : ∀ c ∈ (before ++ (u ++ after)).head?, c ≠ '\uFEFF' := by
    refine head_append (fun c hc => ?_) ?_
    · exact ne_of_class (hbefore c (List.mem_of_mem_head? hc)) (by decide)
    · obtain ⟨c, u, rfl⟩ := List.exists_cons_of_ne_nil h.takes.nonempty
      exact fun d hd => (hhead d hd).2
  have hskip := skipSpace_text hbefore h.takes.nonempty (fun c hc => (hhead c hc).1) after
  have hrest : skipSpace after = [] := by
    have hnil := skipSpace_append (w := []) hafter nofun
    rwa [List.append_nil] at hnil
  have hends : EndsNumber after := fun c hc =>
    not_numeric_of_isJsonSpace (hafter c (List.mem_of_mem_head? hc))
  have hread : readValue (2 * (before ++ (u ++ after)).length + 2) nestingLimit (u ++ after)
      = .ok (v, after) := by
    refine h.takes.reads _ after ?_ hends
    simp only [List.length_append]
    omega
  have hwhole : readWhole? (before ++ (u ++ after)) = .ok v := by
    unfold readWhole?
    split
    · next heq => exact absurd rfl (hfirst _ (by rw [heq]; rfl))
    · rw [hskip, hread]
      dsimp only
      rw [hrest]
  rw [read, hwhole]

/-- A text that is read is white space, the text of the value, and white space. -/
theorem exists_of_read {t : Text} {v : Json} (h : read t = .ok v) :
    ∃ before u after, t = before ++ (u ++ after) ∧ IsText nestingLimit u v ∧
      IsSpaces before ∧ IsSpaces after := by
  unfold read readWhole? at h
  split at h
  · next v' hread =>
      obtain rfl := Except.ok.inj h
      split at hread
      · exact nomatch hread
      · split at hread
        · exact nomatch hread
        · next v' r hvalue =>
            split at hread
            · next hrest =>
                obtain rfl := Except.ok.inj hread
                obtain ⟨before, ht, hbefore, -⟩ := exists_skipSpace t
                obtain ⟨after, hr, hafter, -⟩ := exists_skipSpace r
                obtain ⟨u, hu, htext⟩ := (reads _).1 _ _ _ _ hvalue
                rw [hrest, List.append_nil] at hr
                exact ⟨before, u, after, by rw [← hr, ← hu, ← ht], htext, hbefore, hafter⟩
            · exact nomatch hread
  · exact nomatch h

end ModuleDocs.Json
