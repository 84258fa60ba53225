import ModuleDocs.Generate.RootTable
import ModuleDocs.Proofs.Generate.Sequence
import ModuleDocs.Proofs.Readme.MarkedSections

/-! # Generating READMEs a second time

    A second generation reads what the first one wrote.  As long as the
    sections that are made anew hold no mark of the section that is carried
    over, that section is found again, so each README comes to the text that
    it has and each failure comes to the same error.  Then writing changes
    nothing: every README is written over itself.

    The same goes for the table in the root README, as long as no row holds
    the closing mark of the table. -/

namespace ModuleDocs

open Text

namespace Tree

variable {t : Tree} {l : Location} {cwd : Location} {p : Path} {bytes : List UInt8}

theorem withFile_self (h : t.node? l = some (.file bytes)) : t.withFile l bytes = t := by
  unfold withFile
  split
  · next hroom => exact put_self hroom h
  · rfl

/-- A file that was read stands where its path leads. -/
theorem file_of_read (h : t.read cwd p = .ok bytes) :
    ∃ l, t.locate cwd p = .ok l ∧ t.node? l = some (.file bytes) := by
  unfold read at h
  split at h
  · exact nomatch h
  · next l hl =>
      split at h
      · exact nomatch h
      · exact nomatch h
      · next found hfound =>
          obtain rfl := Except.ok.inj h
          exact ⟨l, hl, hfound⟩

/-- A file is written where its path leads, and there was room for it. -/
theorem eq_of_write {written : Tree} (h : t.write cwd p bytes = .ok written) :
    ∃ l, t.locate cwd p = .ok l ∧ t.HasRoom l ∧ written = t.withFile l bytes := by
  unfold write at h
  split at h
  · cases h
  · next l hl =>
      split at h
      · next hroom =>
          refine ⟨l, hl, hroom, ?_⟩
          rw [withFile, dif_pos hroom, Except.ok.inj h]
      · cases h

/-- Writing a file is writing one file of its name. -/
theorem rewritten_withFile {name : Text} (hroom : t.HasRoom (l ++ [name])) (bytes : List UInt8) :
    Rewritten name (· = l) t (t.withFile (l ++ [name]) bytes) := by
  rw [withFile, dif_pos hroom]
  refine .put (.refl t) ?_ hroom bytes
  rfl

end Tree

namespace Workspace

variable {w : Workspace} {l : Location} {p : Path} {text : Text}

/-- What was read from a file holds no carriage return. -/
theorem not_mem_of_readText {e : Encoding} (h : w.readText e p = .ok text) : '\r' ∉ text := by
  obtain ⟨bytes, -, hdecoded⟩ := Except.bind_eq_ok.mp h
  have hfile := Except.mapError_eq_ok.mp hdecoded
  unfold Text.ofFile at hfile
  cases hread : e.decode bytes with
  | error fault =>
      rw [hread] at hfile
      exact nomatch hfile
  | ok raw =>
      rw [hread] at hfile
      obtain rfl := Except.ok.inj hfile
      exact not_mem_withNewlines raw

/-- A text that was written is read with a newline for every line end. -/
theorem readText_utf8 (hl : w.tree.locate w.cwd p = .ok l)
    (h : w.tree.node? l = some (.file (utf8 text))) :
    w.readText .utf8 p = .ok (withNewlines text) := by
  have hread : w.tree.read w.cwd p = .ok (utf8 text) := by
    rw [Tree.read, hl]
    dsimp only
    rw [h]
  have hdecoded : ofFile .utf8 (utf8 text) = .ok (withNewlines text) := by
    rw [ofFile, Encoding.decode, ofUtf8_utf8]
    rfl
  rw [readText, Tree.readText, hread]
  show (ofFile .utf8 (utf8 text)).mapError TextFileError.decode = _
  rw [hdecoded]
  rfl

end Workspace

/-- The sections of the README of a directory that are made anew, as a function of what is
offered. -/
def Offer.madeSections (o : Offer) (w : Workspace) (directory : Path) :
    Except GenerateError (List Text) := do
  let context ← o.context w directory.toText
  let (description, usage) ← o.described w context
  pure (Readme.madeSections o.assembler context description usage)

namespace Generate

open ModuleDocs.Action (ComesTo)

variable {o : Offer} {w : Workspace} {d : Path} {text : Text}

/-- The sections of the README of a directory that are made anew. -/
def madeSections (w : Workspace) (directory : Path) : Action GenerateError (List Text) := do
  let context ← readModule w directory.toText
  let (description, usage) ← describe w context
  let assembler ← Action.ofParts Components.getAssembler
  pure (Readme.madeSections assembler.value.value context description usage)

/-- Making sections anew comes to them. -/
theorem comesTo_madeSections (d : Path) :
    ComesTo w.git o (madeSections w d) (o.madeSections w d) := by
  refine (comesTo_readModule d.toText).bind fun context => ?_
  refine (comesTo_describe context).bind fun found => ?_
  refine ComesTo.ofParts (Components.offer_getAssembler w.git) fun c hc => ?_
  have hassembler : c.getAssembler.1.value.value = o.assembler := hc ▸ c.getAssembler_value w.git
  rw [hassembler]
  exact ComesTo.pure _

/-! ## One module -/

/-- The old README of a directory, when there is one, holds no carriage return. -/
theorem not_mem_of_existing? {p : Path} {old : Option Text} (h : existing? w p = .ok old) :
    '\r' ∉ old.getD [] := by
  obtain ⟨found, -, hold⟩ := Except.bind_eq_ok.mp h
  cases found with
  | none =>
      obtain rfl := Except.ok.inj hold
      exact List.not_mem_nil
  | some node =>
      obtain ⟨raw, hread, hsome⟩ := Except.bind_eq_ok.mp hold
      obtain rfl := Except.ok.inj hsome
      exact Workspace.not_mem_of_readText hread

/-- A README that was found is a file. -/
theorem file_of_existing? {p : Path} (h : existing? w p = .ok (some text)) :
    ∃ l bytes, w.tree.locate w.cwd p = .ok l ∧ w.tree.node? l = some (.file bytes) := by
  obtain ⟨found, -, hfound⟩ := Except.bind_eq_ok.mp h
  cases found with
  | none => exact nomatch Except.ok.inj hfound
  | some node =>
      obtain ⟨raw, hread, -⟩ := Except.bind_eq_ok.mp hfound
      obtain ⟨bytes, hbytes, -⟩ := Except.bind_eq_ok.mp hread
      obtain ⟨l, hl, hnode⟩ := Tree.file_of_read (Except.mapError_eq_ok.mp hbytes)
      exact ⟨l, bytes, hl, hnode⟩

/-- A file that was written is found with a newline for every line end. -/
theorem existing?_utf8 {p : Path} {l : Location} (hl : w.tree.locate w.cwd p = .ok l)
    (h : w.tree.node? l = some (.file (utf8 text))) :
    existing? w p = .ok (some (withNewlines text)) := by
  have hlook : w.look p = .ok (some (.file (utf8 text))) := by
    rw [Workspace.look, Tree.look, hl]
    exact congrArg Except.ok h
  unfold existing?
  rw [hlook]
  show some <$> w.readText .utf8 p = _
  rw [Workspace.readText_utf8 hl h]
  rfl

/-- A README comes to the text that it holds already, when the sections that are made anew hold no
mark of the one that is carried over. -/
theorem content_again {dirs : Location → Prop} {t : Tree} (hd : d.IsPlain)
    (haccepts : o.checkout.options.accepts readmeName = false)
    (hcontent : o.content w d (d.child readmeName) = .ok text)
    (hmade : ∀ made, o.madeSections w d = .ok made →
      ∀ part ∈ made, Markers.tfDocs.AbsentFrom part)
    (hwritten : Tree.Rewritten readmeName dirs w.tree t)
    (hnode : t.node? (d.resolve w.cwd ++ [readmeName]) = some (.file (utf8 text))) :
    o.content { w with tree := t } d (d.child readmeName) = .ok text := by
  obtain ⟨-, hl, -⟩ := hasRoom_of_content hd hcontent
  obtain ⟨context, hcontext, hrest⟩ := Except.bind_eq_ok.mp hcontent
  obtain ⟨⟨description, usage⟩, hdescribed, hassembled⟩ := Except.bind_eq_ok.mp hrest
  obtain ⟨old, hold, htext⟩ := Except.bind_eq_ok.mp hassembled
  obtain rfl : Readme.assemble o.assembler context description usage old = text :=
    Except.ok.inj htext
  have hparts : ∀ part ∈ Readme.madeSections o.assembler context description usage,
      Markers.tfDocs.AbsentFrom part := by
    refine hmade _ ?_
    unfold Offer.madeSections
    rw [hcontext]
    show (o.described w context).bind _ = _
    rw [hdescribed]
    rfl
  -- the README is no file of the module, so the context is read again from the same files
  have hcontext' : o.context { w with tree := t } d.toText = .ok context := by
    rw [← hcontext]
    refine Eq.symm (context_congr (w := w) rfl rfl hwritten.sameDirectories hd
      (fun l _ => hwritten.agreesAt_others l) fun name hname => ?_)
    obtain rfl : name = readmeName := by simpa using hname
    exact ⟨Tree.isTooLong_of_locate hl, haccepts⟩
  have hexisting := existing?_utf8 (w := { w with tree := t })
    (hwritten.sameDirectories.locate_eq_ok hl) hnode
  unfold Offer.content
  rw [hcontext']
  show (o.described w context).bind _ = _
  rw [hdescribed]
  show o.assembled { w with tree := t } (d.child readmeName) context description usage = _
  unfold Offer.assembled
  rw [hexisting]
  show Except.ok _ = Except.ok _
  -- the section that is carried over is found again where the first README has it
  rw [Readme.assemble_again hparts (not_mem_of_existing? (Except.mapError_eq_ok.mp hold))]

/-! ## Several modules -/

/-- When every README holds what it comes to, generating them changes nothing. -/
theorem many_settled {ds : List Path} (hplain : ∀ d ∈ ds, d.IsPlain) {s : Session}
    (hsettled : ∀ d ∈ ds, ∀ text, s.outcomeOf d = .ok text →
      s.workspace.tree.node? (d.resolve s.workspace.cwd ++ [readmeName])
        = some (.file (utf8 text))) :
    ∃ components, (many false ds s).value
      = (ds.map fun d => ⟨d, false, s.outcomeOf d⟩, ⟨s.workspace, components⟩) := by
  induction ds generalizing s with
  | nil => exact ⟨s.components, rfl⟩
  | cons d ds ih =>
      obtain ⟨components, hoffer, hone⟩ := one_value false (hplain d List.mem_cons_self) s
      -- the README is written as it stands, so the next module finds the same tree
      have htree : treeAfter s.workspace.tree (d.resolve s.workspace.cwd ++ [readmeName]) false
          (s.outcomeOf d) = s.workspace.tree := by
        cases houtcome : s.outcomeOf d with
        | error e => rfl
        | ok text => exact Tree.withFile_self (hsettled d List.mem_cons_self text houtcome)
      have houtcome : ∀ e, Session.outcomeOf ⟨s.workspace, components⟩ e = s.outcomeOf e := by
        intro e
        unfold Session.outcomeOf
        rw [hoffer]
      rw [htree] at hone
      obtain ⟨components', hrest⟩ := ih (s := ⟨s.workspace, components⟩)
        (fun e he => hplain e (List.mem_cons_of_mem d he)) fun e he text htext =>
          hsettled e (List.mem_cons_of_mem d he) text (houtcome e ▸ htext)
      refine ⟨components', ?_⟩
      rw [many_cons, hone]
      show _ = (_ :: _, _)
      rw [hrest]
      simp only [houtcome]

/-! ## The table -/

variable {dryRun found : Bool} {root : Location} {generations : List Generation}

/-- Refreshing the table leaves the workspace as it is, or there is a root README with a place for
the table, and the README is written with the table in its place. -/
theorem eq_of_updateTable {w' : Workspace}
    (h : (updateTable w dryRun root generations).value = .ok (found, w')) :
    w' = w ∨ ∃ l bytes content updated,
      l = (Path.absolute root).resolve w.cwd ++ [readmeName] ∧
      w.tree.locate w.cwd ((Path.absolute root).child readmeName) = .ok l ∧
      w.tree.node? l = some (.file bytes) ∧ w.tree.HasRoom l ∧
      existing? w ((Path.absolute root).child readmeName) = .ok (some content) ∧
      Markers.modules.replace? content (TableRow.table (generations.filterMap (row? w root)))
        = some updated ∧
      found = true ∧ w' = { w with tree := w.tree.withFile l (utf8 updated) } := by
  unfold updateTable at h
  dsimp only at h
  split at h
  · cases h
  · exact .inl (Prod.mk.inj (Except.ok.inj h)).2.symm
  · next content hexisting =>
      split at h
      · exact .inl (Prod.mk.inj (Except.ok.inj h)).2.symm
      · next updated hreplace =>
          split at h
          · exact .inl (Prod.mk.inj (Except.ok.inj h)).2.symm
          -- what was read stands where it is written
          · obtain ⟨l, bytes, hl, hnode⟩ := file_of_existing? hexisting
            cases hwrite : w.tree.write w.cwd ((Path.absolute root).child readmeName)
                (utf8 updated) with
            | error e =>
                rw [Workspace.writeText, Tree.writeText, hwrite] at h
                cases h
            | ok written =>
                rw [Workspace.writeText, Tree.writeText, hwrite] at h
                obtain ⟨rfl, rfl⟩ := Prod.mk.inj (Except.ok.inj h)
                obtain ⟨l', hl', hroom, rfl⟩ := Tree.eq_of_write hwrite
                obtain rfl : l' = l := Except.ok.inj (hl'.symm.trans hl)
                have hplace := (Tree.eq_of_locate hl).trans (Path.resolve_child (by decide) w.cwd _)
                exact .inr ⟨l', bytes, content, updated, hplace, hl, hnode, hroom, hexisting,
                  hreplace, rfl, rfl⟩

/-- A table with a place is written into it. -/
theorem updateTable_eq {content updated : Text} {written : Tree}
    (hexisting : existing? w ((Path.absolute root).child readmeName) = .ok (some content))
    (hreplace : Markers.modules.replace? content
      (TableRow.table (generations.filterMap (row? w root))) = some updated)
    (hwrite : w.tree.write w.cwd ((Path.absolute root).child readmeName) (utf8 updated)
      = .ok written) :
    updateTable w false root generations = pure (.ok (true, { w with tree := written })) := by
  unfold updateTable
  simp only [hexisting, hreplace, Workspace.writeText, Tree.writeText, hwrite]
  rfl

/-- Refreshing the table a second time changes nothing, when no row holds the closing mark. -/
theorem updateTable_again {w' : Workspace}
    (hrows : ∀ row ∈ generations.filterMap (row? w root),
      contains row.line Markers.modules.closing = false)
    (h : (updateTable w false root generations).value = .ok (found, w')) :
    (updateTable w' false root generations).value = .ok (found, w') := by
  obtain rfl | ⟨l, bytes, content, updated, hplace, hl, -, hroom, hexisting, hreplace, rfl, rfl⟩ :=
    eq_of_updateTable h
  · exact h
  have hnode := Tree.node?_withFile hroom (utf8 updated)
  have hsame : Tree.SameDirectories w.tree (w.tree.withFile l (utf8 updated)) := by
    rw [hplace] at hroom ⊢
    exact (Tree.rewritten_withFile hroom _).sameDirectories
  have hl' := hsame.locate_eq_ok hl
  have hread := existing?_utf8 (w := { w with tree := w.tree.withFile l (utf8 updated) }) hl'
    ((hnode l).trans (if_pos rfl))
  have hagain := Markers.areTags_modules.replace?_again (not_mem_of_existing? hexisting)
    (TableRow.contains_table hrows) hreplace
  have hwrite : (w.tree.withFile l (utf8 updated)).write w.cwd
      ((Path.absolute root).child readmeName) (utf8 updated)
        = .ok (w.tree.withFile l (utf8 updated)) := by
    rw [Tree.write_eq hl' (hsame.hasRoom hroom), Tree.withFile_self ((hnode l).trans (if_pos rfl))]
  -- the rows are made from the generations alone
  rw [updateTable_eq (w := { w with tree := w.tree.withFile l (utf8 updated) }) hread hagain hwrite]
  rfl

end Generate

end ModuleDocs
