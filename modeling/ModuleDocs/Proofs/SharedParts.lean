import ModuleDocs.Components
import ModuleDocs.Proofs.Log

/-! # Parts that are shared

    Requests are served one after another by the same parts, those that fail
    among them.  A request fails and leaves the parts as they were, or clears
    them, or gives the part that is kept, or makes parts under numbers that
    were not used before; `Served` lists these cases, and nothing below opens
    the definitions again.

    What every request preserves is `Consistent`: the numbers of the parts
    that are kept have been used, and the assembler that is kept holds the
    layout that is kept.  So a part that was given is kept until its kind is
    renewed, and after that its number does not come back: two requests for a
    kind are given the same instance exactly when nothing renewed the kind
    between them. -/

namespace ModuleDocs.Components

/-- The kinds of parts. -/
inductive Kind where
  | scanner
  | describer
  | checkout
  | layout
  | assembler
deriving DecidableEq, Repr

/-- A part of any kind; an assembler shows the layout that it holds. -/
inductive Part where
  | scanner (mode : Hcl.BraceMode)
  | describer (describer : Describer)
  | checkout (checkout : Checkout)
  | layout (style : UsageStyle)
  | assembler (layout : Instance UsageStyle)
deriving DecidableEq, Repr

/-- The kind of a part. -/
def Part.kind : Part → Kind
  | scanner _ => .scanner
  | describer _ => .describer
  | checkout _ => .checkout
  | layout _ => .layout
  | assembler _ => .assembler

/-- What can be asked of the parts of a run. -/
inductive Request where
  | scanner (stated : Option Text)
  | describer (stated : Option Text)
  | checkout
  | layout
  | assembler
  | clear
deriving DecidableEq, Repr

/-- The kind of part that is asked for. -/
def Request.kind? : Request → Option Kind
  | scanner _ => some .scanner
  | describer _ => some .describer
  | checkout => some .checkout
  | layout => some .layout
  | assembler => some .assembler
  | clear => none

/-- What is stated about the part that is asked for. -/
def Request.stated? : Request → Option Text
  | scanner stated => stated
  | describer stated => stated
  | _ => none

/-- An instance of one kind as an instance of any kind. -/
def part {α : Type} (of : α → Part) (i : Instance α) : Instance Part := ⟨i.id, of i.value⟩

/-- The part of a kind that is kept. -/
def kept (c : Components) : Kind → Option (Instance Part)
  | .scanner => c.scanner.map (part .scanner)
  | .describer => c.describer.map (part .describer)
  | .checkout => c.checkout.map (part .checkout)
  | .layout => c.layout.map (part .layout)
  | .assembler => c.assembler.map (part .assembler)

/-- The parts once one more is made and kept. -/
def make (c : Components) : Part → Components
  | .scanner mode => { c with made := c.made + 1, scanner := some ⟨c.made, mode⟩ }
  | .describer describer => { c with made := c.made + 1, describer := some ⟨c.made, describer⟩ }
  | .checkout checkout => { c with made := c.made + 1, checkout := some ⟨c.made, checkout⟩ }
  | .layout style => { c with made := c.made + 1, layout := some ⟨c.made, style⟩ }
  | .assembler layout => { c with made := c.made + 1, assembler := some ⟨c.made, layout⟩ }

/-- Goes on with the parts after one was found, if it was. -/
def give {α : Type} (of : α → Part)
    (found : Logged (Except ComponentError (Instance α × Components))) :
    Action ComponentError (Option (Instance Part)) := do
  let (x, c) ← Action.ofResult id found
  set c
  pure (some (part of x))

/-- Serves a request, as a step of work with the parts; clearing gives no part. -/
def serve : Request → Action ComponentError (Option (Instance Part))
  | .scanner stated => do give .scanner (pure ((← get).getScanner stated))
  | .describer stated => do give .describer ((← get).getDescriber stated)
  | .checkout => return some (part .checkout (← Action.ofParts getCheckout))
  | .layout => return some (part .layout (← Action.ofParts getLayout))
  | .assembler => return some (part .assembler (← Action.ofParts getAssembler))
  | .clear => Action.ofParts fun c => (none, c.clear)

/-- What a request is answered. -/
def answer (r : Request) (c : Components) : Except ComponentError (Option (Instance Part)) :=
  (Action.run (serve r) c).value.1

/-- The parts after a request. -/
def next (r : Request) (c : Components) : Components := (Action.run (serve r) c).value.2

/-- The parts after a sequence of requests. -/
def after (c : Components) : List Request → Components
  | [] => c
  | r :: rs => after (next r c) rs

/-- Whether a request renews a kind: it clears all parts, or it asks for a stated part of the kind
and is given one. -/
def Renews (k : Kind) (c : Components) (r : Request) : Prop :=
  r = .clear ∨ r.kind? = some k ∧ r.stated? ≠ none ∧ ∃ x, answer r c = .ok x

/-- Whether some request of a sequence renews a kind. -/
def Renewed (k : Kind) : Components → List Request → Prop
  | _, [] => False
  | c, r :: rs => Renews k c r ∨ Renewed k (next r c) rs

/-! ## What one request does -/

/-- All that a request can do: its answer, and the parts after it. -/
inductive Served (c : Components) :
    Request → Except ComponentError (Option (Instance Part)) → Components → Prop where
  | failed {r : Request} (e : ComponentError) (hclear : r ≠ .clear) : Served c r (.error e) c
  | cleared : Served c .clear (.ok none) c.clear
  | kept {r : Request} {x : Instance Part} (hkind : r.kind? = some x.value.kind)
      (hstated : r.stated? = none) (hkept : c.kept x.value.kind = some x) :
      Served c r (.ok (some x)) c
  | made {r : Request} (p : Part) (hkind : r.kind? = some p.kind)
      (hneeded : r.stated? = none → c.kept p.kind = none)
      (hholds : ∀ layout, p = .assembler layout → c.layout = some layout) :
      Served c r (.ok (some ⟨c.made, p⟩)) (c.make p)
  /-- There was no layout for the assembler either. -/
  | madeBoth (hassembler : c.assembler = none) (hlayout : c.layout = none) :
      Served c .assembler (.ok (some ⟨c.made + 1, .assembler ⟨c.made, {}⟩⟩))
        ((c.make (.layout {})).make (.assembler ⟨c.made, {}⟩))

/-- A part that was found is the answer, and a failure leaves the parts as they were. -/
theorem value_run_give {α : Type} (of : α → Part)
    (find : Components → Logged (Except ComponentError (Instance α × Components)))
    (c : Components) :
    (Action.run (get >>= fun c => give of (find c)) c).value =
      match (find c).value with
      | .ok (x, c') => (.ok (some (part of x)), c')
      | .error e => (.error e, c) := by
  have hrun : Action.run (get >>= fun c => give of (find c)) c
      = Action.run (give of (find c)) c := rfl
  have hfind : Action.run (give of (find c)) c
      = Action.run (give of ⟨(find c).value, (find c).log⟩) c := rfl
  rw [hrun, hfind]
  rcases (find c).value with e | ⟨x, c'⟩ <;> rfl

/-- What comes of looking for a part that may be stated: a failure, the part that is kept, if none
is stated, or a new one. -/
inductive Found {α : Type} (of : α → Part) (c : Components) (stated : Option Text) :
    Except ComponentError (Instance α × Components) → Prop where
  | failed (e : ComponentError) : Found of c stated (.error e)
  | kept {x : Instance α} (hstated : stated = none)
      (hkept : c.kept (of x.value).kind = some (part of x)) : Found of c stated (.ok (x, c))
  | made (a : α) (hneeded : stated = none → c.kept (of a).kind = none) :
      Found of c stated (.ok (⟨c.made, a⟩, c.make (of a)))

/-- The scanner is found in one of these ways. -/
theorem found_scanner (stated : Option Text) (c : Components) :
    Found .scanner c stated (c.getScanner stated) := by
  obtain ⟨settings, made, scanner, describer, checkout, layout, assembler⟩ := c
  cases stated with
  | some kind =>
      unfold getScanner
      dsimp only
      cases newScanner settings (kindOf (some kind) settings.scannerType) with
      | error e => exact .failed e
      | ok mode => exact .made mode nofun
  | none =>
      cases scanner with
      | some x => exact .kept rfl rfl
      | none =>
          unfold getScanner
          dsimp only
          cases newScanner settings (kindOf none settings.scannerType) with
          | error e => exact .failed e
          | ok mode => exact .made mode fun _ => rfl

/-- The describer is found in one of these ways. -/
theorem found_describer (stated : Option Text) (c : Components) :
    Found .describer c stated (c.getDescriber stated).value := by
  obtain ⟨settings, made, scanner, describer, checkout, layout, assembler⟩ := c
  cases stated with
  | some kind =>
      unfold getDescriber
      dsimp only [Logged.value_map]
      cases (newDescriber settings (kindOf (some kind) settings.describerType)).value with
      | error e => exact .failed e
      | ok mode => exact .made mode nofun
  | none =>
      cases describer with
      | some x => exact .kept rfl rfl
      | none =>
          unfold getDescriber
          dsimp only [Logged.value_map]
          cases (newDescriber settings (kindOf none settings.describerType)).value with
          | error e => exact .failed e
          | ok mode => exact .made mode fun _ => rfl

/-- A request that is answered with what was found does what was found. -/
theorem Found.served {α : Type} {r : Request} {of : α → Part} {c : Components}
    {found : Except ComponentError (Instance α × Components)}
    (hrun : (Action.run (serve r) c).value =
      match found with
      | .ok (x, c') => (.ok (some (part of x)), c')
      | .error e => (.error e, c))
    (h : Found of c r.stated? found) {k : Kind} (hkind : r.kind? = some k)
    (hof : ∀ a, (of a).kind = k) (hk : k ≠ .assembler) :
    Served c r (answer r c) (next r c) := by
  show Served c r (Action.run (serve r) c).value.1 (Action.run (serve r) c).value.2
  rw [hrun]
  cases h with
  | failed e =>
      refine .failed e ?_
      rintro rfl
      exact nomatch hkind
  | @kept x hstated hkept =>
      exact .kept (hkind.trans (congrArg some (hof x.value).symm)) hstated hkept
  | made a hneeded =>
      refine .made (of a) (hkind.trans (congrArg some (hof a).symm)) hneeded ?_
      intro layout h
      exact absurd ((hof a).symm.trans (congrArg Part.kind h)) hk

/-- A request does one of these things. -/
theorem served (r : Request) (c : Components) : Served c r (answer r c) (next r c) := by
  cases r with
  | scanner stated =>
      exact Found.served (value_run_give .scanner (fun c => pure (c.getScanner stated)) c)
        (found_scanner stated c) rfl (fun _ => rfl) nofun
  | describer stated =>
      exact Found.served (value_run_give .describer (fun c => c.getDescriber stated) c)
        (found_describer stated c) rfl (fun _ => rfl) nofun
  | checkout =>
      obtain ⟨settings, made, scanner, describer, checkout, layout, assembler⟩ := c
      cases checkout with
      | some x => exact .kept rfl rfl rfl
      | none => exact .made (.checkout ⟨checkoutOptions settings, none⟩) rfl (fun _ => rfl) nofun
  | layout =>
      obtain ⟨settings, made, scanner, describer, checkout, layout, assembler⟩ := c
      cases layout with
      | some x => exact .kept rfl rfl rfl
      | none => exact .made (.layout {}) rfl (fun _ => rfl) nofun
  | assembler =>
      obtain ⟨settings, made, scanner, describer, checkout, layout, assembler⟩ := c
      cases assembler with
      | some x => exact .kept rfl rfl rfl
      | none =>
          cases layout with
          | some x =>
              refine .made (.assembler x) rfl (fun _ => rfl) fun layout h => ?_
              exact congrArg some (Part.assembler.inj h)
          | none => exact .madeBoth rfl rfl
  | clear => exact .cleared

/-! ## What requests preserve -/

theorem made_make (c : Components) (p : Part) : (c.make p).made = c.made + 1 := by
  cases p <;> rfl

theorem kept_make (c : Components) (p : Part) (k : Kind) :
    (c.make p).kept k = if k = p.kind then some ⟨c.made, p⟩ else c.kept k := by
  cases p <;> cases k <;> rfl

/-- Nothing can be stated about a layout. -/
theorem stated?_eq_none {r : Request} (h : r.kind? = some .layout) : r.stated? = none := by
  cases r with
  | scanner => exact nomatch h
  | describer => exact nomatch h
  | checkout => rfl
  | layout => rfl
  | assembler => rfl
  | clear => rfl

theorem kept_clear (c : Components) (k : Kind) : c.clear.kept k = none := by
  cases k <;> rfl

/-- What holds of the parts whatever was asked before. -/
structure Consistent (c : Components) : Prop where
  /-- The numbers of the parts that are kept have been used. -/
  used : ∀ k x, c.kept k = some x → x.id < c.made
  /-- The assembler that is kept holds the layout that is kept. -/
  holds : ∀ a, c.assembler = some a → c.layout = some a.value

namespace Consistent

variable {c : Components}

/-- It holds before anything is asked. -/
theorem start (s : Settings) : Consistent { settings := s } where
  used := by
    intro k x h
    cases k <;> cases h
  holds := nofun

/-- It holds after a part is made, unless the part is a second layout or an assembler that does not
hold the layout. -/
theorem make (h : Consistent c) (p : Part) (hlayout : p.kind = .layout → c.layout = none)
    (hholds : ∀ layout, p = .assembler layout → c.layout = some layout) :
    Consistent (c.make p) where
  used := by
    intro k x hx
    rw [kept_make] at hx
    rw [made_make]
    split at hx
    · obtain rfl := Option.some.inj hx
      exact Nat.lt_succ_self c.made
    · exact Nat.lt_succ_of_lt (h.used k x hx)
  holds := by
    intro a ha
    cases p with
    | layout style =>
        -- the assembler that is kept would hold a layout
        have hkept := h.holds a ha
        rw [hlayout rfl] at hkept
        exact nomatch hkept
    | assembler layout =>
        obtain rfl := Option.some.inj ha
        exact hholds layout rfl
    | scanner => exact h.holds a ha
    | describer => exact h.holds a ha
    | checkout => exact h.holds a ha

/-- It holds after a request. -/
theorem next (h : Consistent c) (r : Request) : Consistent (next r c) := by
  have hserved := served r c
  generalize answer r c = a, Components.next r c = d at hserved
  cases hserved with
  | failed => exact h
  | cleared =>
      refine ⟨?_, nofun⟩
      intro k x hx
      rw [kept_clear] at hx
      exact nomatch hx
  | kept => exact h
  | made p hkind hneeded hholds =>
      refine h.make p (fun hp => ?_) hholds
      rw [hp] at hkind hneeded
      have hnone : c.kept .layout = none := hneeded (stated?_eq_none hkind)
      exact Option.map_eq_none_iff.mp hnone
  | madeBoth hassembler hlayout =>
      refine (h.make (.layout {}) (fun _ => hlayout) nofun).make _ nofun ?_
      intro layout hp
      obtain rfl := Part.assembler.inj hp
      rfl

/-- It holds after any sequence of requests. -/
theorem after (h : Consistent c) (rs : List Request) : Consistent (after c rs) := by
  induction rs generalizing c with
  | nil => exact h
  | cons r rs ih => exact ih (h.next r)

end Consistent

/-! ## Parts that stay and parts that do not come back -/

/-- Whether a number has been used and is not that of the part of a kind that is kept. -/
def Gone (k : Kind) (n : Nat) (c : Components) : Prop :=
  n < c.made ∧ ∀ y, c.kept k = some y → y.id ≠ n

variable {c : Components} {k : Kind} {x : Instance Part} {r : Request}

/-- A number that is gone stays so when a part is made. -/
theorem Gone.make {n : Nat} (h : Gone k n c) (p : Part) : Gone k n (c.make p) := by
  obtain ⟨hused, hgone⟩ := h
  refine ⟨by rw [made_make]; exact Nat.lt_succ_of_lt hused, ?_⟩
  intro y hy
  rw [kept_make] at hy
  split at hy
  · obtain rfl := Option.some.inj hy
    exact Nat.ne_of_gt hused
  · exact hgone y hy

/-- A part is gone once another of its kind is made. -/
theorem Consistent.gone_make (h : Consistent c) (p : Part) (hx : c.kept p.kind = some x) :
    Gone p.kind x.id (c.make p) := by
  have hused : x.id < c.made := h.used p.kind x hx
  refine ⟨by rw [made_make]; exact Nat.lt_succ_of_lt hused, ?_⟩
  intro y hy
  rw [kept_make, if_pos rfl] at hy
  obtain rfl := Option.some.inj hy
  exact Nat.ne_of_gt hused

/-- A part is gone once all are cleared. -/
theorem Consistent.gone_clear (h : Consistent c) (hx : c.kept k = some x) :
    Gone k x.id c.clear := by
  refine ⟨h.used k x hx, ?_⟩
  intro y hy
  rw [kept_clear] at hy
  exact nomatch hy

/-- A number that is gone stays so, whatever is asked. -/
theorem Gone.next {n : Nat} (h : Gone k n c) (r : Request) : Gone k n (next r c) := by
  have hserved := served r c
  generalize answer r c = a, Components.next r c = d at hserved
  cases hserved with
  | failed => exact h
  | cleared =>
      refine ⟨h.1, ?_⟩
      intro y hy
      rw [kept_clear] at hy
      exact nomatch hy
  | kept => exact h
  | made p => exact h.make p
  | madeBoth => exact (h.make _).make _

/-- A number that is gone does not come back. -/
theorem Gone.after {n : Nat} (h : Gone k n c) (rs : List Request) : Gone k n (after c rs) := by
  induction rs generalizing c with
  | nil => exact h
  | cons r rs ih => exact ih (h.next r)

/-- A request that renews a kind takes away the part of the kind, and every other request leaves
it. -/
theorem kept_next (h : Consistent c) (hx : c.kept k = some x) (r : Request) :
    (¬ Renews k c r → (next r c).kept k = some x) ∧ (Renews k c r → Gone k x.id (next r c)) := by
  have hserved := served r c
  unfold Renews
  generalize answer r c = a, next r c = d at hserved ⊢
  cases hserved with
  | failed e hclear =>
      refine ⟨fun _ => hx, ?_⟩
      rintro (rfl | ⟨-, -, z, hz⟩)
      · exact absurd rfl hclear
      · exact nomatch hz
  | cleared => exact ⟨fun hrenews => absurd (.inl rfl) hrenews, fun _ => h.gone_clear hx⟩
  | kept hkind hstated =>
      refine ⟨fun _ => hx, ?_⟩
      rintro (rfl | ⟨-, hrenews, -⟩)
      · exact nomatch hkind
      · exact absurd hstated hrenews
  | made p hkind hneeded =>
      by_cases hk : k = p.kind
      · subst hk
        have hstated : r.stated? ≠ none := by
          intro hstated
          rw [hneeded hstated] at hx
          exact nomatch hx
        exact ⟨fun hrenews => absurd (.inr ⟨hkind, hstated, _, rfl⟩) hrenews,
          fun _ => h.gone_make p hx⟩
      · refine ⟨fun _ => ?_, ?_⟩
        · rw [kept_make, if_neg hk, hx]
        · rintro (rfl | ⟨hother, -⟩)
          · exact nomatch hkind
          · exact absurd (Option.some.inj (hother.symm.trans hkind)) hk
  | madeBoth hassembler hlayout =>
      refine ⟨fun _ => ?_, ?_⟩
      -- both are made only where neither was kept, so the part that is kept is another one
      · have hk : k ≠ .assembler ∧ k ≠ .layout := by
          constructor <;> rintro rfl
          · exact nomatch hx.symm.trans (congrArg (Option.map (part .assembler)) hassembler)
          · exact nomatch hx.symm.trans (congrArg (Option.map (part .layout)) hlayout)
        rw [kept_make, kept_make]
        exact (if_neg hk.1).trans ((if_neg hk.2).trans hx)
      · rintro (hclear | ⟨-, hrenews, -⟩)
        · exact nomatch hclear
        · exact absurd rfl hrenews

/-- A sequence of requests takes away the part of a kind exactly when some request renews the
kind. -/
theorem kept_after (h : Consistent c) (hx : c.kept k = some x) (rs : List Request) :
    (¬ Renewed k c rs → (after c rs).kept k = some x) ∧
      (Renewed k c rs → Gone k x.id (after c rs)) := by
  induction rs generalizing c with
  | nil => exact ⟨fun _ => hx, nofun⟩
  | cons r rs ih =>
      obtain ⟨hstays, hgoes⟩ := kept_next h hx r
      by_cases hr : Renews k c r
      · exact ⟨fun hrs => absurd (.inl hr) hrs, fun _ => (hgoes hr).after rs⟩
      · obtain ⟨hrest, hgone⟩ := ih (h.next r) (hstays hr)
        refine ⟨fun hrs => hrest fun hlater => hrs (.inr hlater), ?_⟩
        rintro (hnow | hlater)
        · exact absurd hnow hr
        · exact hgone hlater

/-- The part that a request gives is of the kind that was asked for, and it is kept. -/
theorem kept_of_answer (h : answer r c = .ok (some x)) :
    r.kind? = some x.value.kind ∧ (next r c).kept x.value.kind = some x := by
  have hserved := served r c
  rw [h] at hserved
  generalize next r c = d at hserved ⊢
  cases hserved with
  | kept hkind _ hkept => exact ⟨hkind, hkept⟩
  | made p hkind => exact ⟨hkind, by rw [kept_make, if_pos rfl]⟩
  | madeBoth => exact ⟨rfl, rfl⟩

theorem after_append (c : Components) (rs rs' : List Request) :
    after c (rs ++ rs') = after (after c rs) rs' := by
  induction rs generalizing c with
  | nil => rfl
  | cons r rs ih => exact ih (next r c)

/-- Two parts of a kind that are kept, one before and one after a sequence of requests, are the
same exactly when nothing renewed the kind. -/
theorem id_eq_iff_not_renewed (h : Consistent c) {rs : List Request} {y : Instance Part}
    (hx : c.kept k = some x) (hy : (after c rs).kept k = some y) :
    (x.id = y.id ↔ ¬ Renewed k c rs) ∧ (x.id = y.id → x = y) := by
  obtain ⟨hstays, hgoes⟩ := kept_after h hx rs
  by_cases hrenewed : Renewed k c rs
  · have hne : y.id ≠ x.id := (hgoes hrenewed).2 y hy
    exact ⟨⟨fun heq => absurd heq.symm hne, fun hnot => absurd hrenewed hnot⟩,
      fun heq => absurd heq.symm hne⟩
  · have heq : x = y := Option.some.inj ((hstays hrenewed).symm.trans hy)
    exact ⟨⟨fun _ => hrenewed, fun _ => congrArg Instance.id heq⟩, fun _ => heq⟩

/-! ## The layout that is shared -/

/-- Layouts are renewed by clearing alone. -/
theorem renewed_layout_iff (c : Components) (rs : List Request) :
    Renewed .layout c rs ↔ .clear ∈ rs := by
  induction rs generalizing c with
  | nil => exact ⟨nofun, nofun⟩
  | cons r rs ih =>
      rw [Renewed, ih, List.mem_cons]
      refine or_congr ⟨?_, fun h => .inl h.symm⟩ Iff.rfl
      rintro (rfl | ⟨hkind, hstated, -⟩)
      · rfl
      · exact absurd (stated?_eq_none hkind) hstated

/-- The layout that an instance shows: its own, or the one it holds. -/
def shown? : Instance Part → Option (Instance UsageStyle)
  | ⟨id, .layout style⟩ => some ⟨id, style⟩
  | ⟨_, .assembler layout⟩ => some layout
  | _ => none

/-- The layout that an answer shows is the one that is kept. -/
theorem kept_of_shown (h : Consistent c) {l : Instance UsageStyle}
    (hanswer : answer r c = .ok (some x)) (hl : shown? x = some l) :
    (next r c).kept .layout = some (part .layout l) := by
  obtain ⟨id, p⟩ := x
  obtain ⟨-, hkept⟩ := kept_of_answer hanswer
  cases p with
  | layout style =>
      obtain rfl := Option.some.inj hl
      exact hkept
  | assembler layout =>
      obtain rfl := Option.some.inj hl
      obtain ⟨a, ha, hpart⟩ := Option.map_eq_some_iff.mp hkept
      obtain rfl : a.value = layout := Part.assembler.inj (congrArg Instance.value hpart)
      exact congrArg (Option.map (part .layout)) ((h.next r).holds a ha)
  | scanner => exact nomatch hl
  | describer => exact nomatch hl
  | checkout => exact nomatch hl

/-- Layouts and assemblers that are given show the same layout exactly when the parts were not
cleared between them. -/
theorem shown_id_eq_iff (s : Settings) (earlier between : List Request) {first second : Request}
    {x y : Instance Part} {l m : Instance UsageStyle}
    (hx : answer first (after { settings := s } earlier) = .ok (some x))
    (hy : answer second (after { settings := s } (earlier ++ first :: between)) = .ok (some y))
    (hl : shown? x = some l) (hm : shown? y = some m) :
    (l.id = m.id ↔ .clear ∉ between) ∧ (l.id = m.id → l = m) := by
  have hfirst : Consistent (after { settings := s } earlier) := (Consistent.start s).after earlier
  have hsecond := (Consistent.start s).after (earlier ++ first :: between)
  have hkept := kept_of_shown hfirst hx hl
  have hlater := kept_of_shown hsecond hy hm
  rw [after_append] at hlater hy
  have hlast : (after (next first (after { settings := s } earlier)) (between ++ [second])).kept
      .layout = some (part .layout m) := by
    rw [after_append]
    exact hlater
  obtain ⟨hid, heq⟩ := id_eq_iff_not_renewed (hfirst.next first) hkept hlast
  -- the second request gives a part, so it is not the one that clears
  have hclear : .clear ∉ between ++ [second] ↔ .clear ∉ between := by
    have hget : Request.clear ≠ second := by
      rintro rfl
      exact nomatch (kept_of_answer hy).1
    rw [List.mem_append, List.mem_singleton, not_or]
    exact and_iff_left hget
  rw [renewed_layout_iff, hclear] at hid
  refine ⟨hid, fun h => ?_⟩
  have hpart := heq h
  obtain ⟨_, _⟩ := l
  obtain ⟨_, _⟩ := m
  cases hpart
  rfl

/-- The layout that the assembler holds is the one that is given, whichever is asked for first. -/
theorem Consistent.getLayout_getAssembler (h : Consistent c) :
    c.getAssembler.2.getLayout.1 = c.getAssembler.1.value ∧
      c.getLayout.2.getAssembler.1.value = c.getLayout.1 := by
  obtain ⟨settings, made, scanner, describer, checkout, layout, assembler⟩ := c
  cases assembler with
  | some a =>
      have hlayout : layout = some a.value := h.holds a rfl
      subst hlayout
      exact ⟨rfl, rfl⟩
  | none => cases layout <;> exact ⟨rfl, rfl⟩

/-- In every sequence of requests, two requests for a kind are given the same instance exactly when
no request after the first, up to the second, renewed the kind; a request that fails leaves all
parts as they are; and at every moment the layout in the assembler is the one that is given. -/
theorem shared_until_renewed (s : Settings) (earlier between : List Request)
    (first second : Request) :
    (∀ k x y, first.kind? = some k → second.kind? = some k →
      answer first (after { settings := s } earlier) = .ok (some x) →
      answer second (after { settings := s } (earlier ++ first :: between)) = .ok (some y) →
      (x.id = y.id ↔
        ¬ Renewed k (after { settings := s } (earlier ++ [first])) (between ++ [second])) ∧
      (x.id = y.id → x = y)) ∧
    (∀ e, answer first (after { settings := s } earlier) = .error e →
      after { settings := s } (earlier ++ [first]) = after { settings := s } earlier) ∧
    (after { settings := s } earlier).getAssembler.2.getLayout.1
      = (after { settings := s } earlier).getAssembler.1.value ∧
    (after { settings := s } earlier).getLayout.2.getAssembler.1.value
      = (after { settings := s } earlier).getLayout.1 := by
  have hfirst : Consistent (after { settings := s } earlier) := (Consistent.start s).after earlier
  have hnext : after { settings := s } (earlier ++ [first])
      = next first (after { settings := s } earlier) := after_append _ earlier [first]
  refine ⟨?_, ?_, hfirst.getLayout_getAssembler⟩
  · intro k x y hfk hsk hx hy
    obtain ⟨hxk, hkept⟩ := kept_of_answer hx
    obtain ⟨hyk, hlater⟩ := kept_of_answer hy
    obtain rfl : x.value.kind = k := Option.some.inj (hxk.symm.trans hfk)
    rw [Option.some.inj (hyk.symm.trans hsk), after_append] at hlater
    rw [hnext]
    refine id_eq_iff_not_renewed (hfirst.next first) hkept ?_
    rw [after_append]
    exact hlater
  · intro e he
    have hserved := served first (after { settings := s } earlier)
    rw [he] at hserved
    rw [hnext]
    generalize next first (after { settings := s } earlier) = d at hserved ⊢
    cases hserved
    rfl

/-- A describer that cannot be made changes nothing, and the scanner stays the same until one is
stated. -/
theorem shared_until_renewed_failed :
    after { settings := { fallBack := false } } [.assembler, .scanner none, .describer none]
      = after { settings := { fallBack := false } } [.assembler, .scanner none] ∧
    ¬ Renewed .scanner (after { settings := { fallBack := false } } [.assembler, .scanner none])
      [.describer none, .scanner none] ∧
    Renewed .scanner (after { settings := { fallBack := false } } [.assembler, .scanner none])
      [.describer none, .scanner (some "hcl_regex")] := by
  have hfailed := shared_until_renewed { fallBack := false } [.assembler, .scanner none] []
    (.describer none) .clear
  have hkept := shared_until_renewed { fallBack := false } [.assembler] [.describer none]
    (.scanner none) (.scanner none)
  have hstated := shared_until_renewed { fallBack := false } [.assembler] [.describer none]
    (.scanner none) (.scanner (some "hcl_regex"))
  refine ⟨hfailed.2.1 (.missingKey "GROQ_API_KEY" "Groq") rfl, ?_, ?_⟩
  · exact (hkept.1 .scanner ⟨2, .scanner .plain⟩ ⟨2, .scanner .plain⟩ rfl rfl rfl rfl).1.mp rfl
  · refine Classical.byContradiction fun hnot => ?_
    have hid := (hstated.1 .scanner ⟨2, .scanner .plain⟩ ⟨3, .scanner .plain⟩
      rfl rfl rfl rfl).1.mpr hnot
    exact absurd hid (by decide)

end ModuleDocs.Components
