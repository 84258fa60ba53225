import ModuleDocs.Generate.Batch
import ModuleDocs.Proofs.Checkout.SameModule
import ModuleDocs.Proofs.Generate.Offer

/-! # What generating a README comes to

    Everything that can go wrong goes wrong before the README is written: by
    then the directory of the module is known to be there, and the old README
    was read or is known to be missing.  So writing cannot fail, a dry run
    and a real run come to the same, and a run changes either nothing or the
    README. -/

namespace ModuleDocs

open Text

/-- A sequence of steps succeeds when the first does and the rest does with its result. -/
theorem Except.bind_eq_ok {ε α β : Type} {x : Except ε α} {f : α → Except ε β} {b : β} :
    x.bind f = .ok b ↔ ∃ a, x = .ok a ∧ f a = .ok b := by
  cases x with
  | ok a =>
      constructor
      · intro h
        exact ⟨a, rfl, h⟩
      · rintro ⟨_, ha, h⟩
        exact Except.ok.inj ha ▸ h
  | error e =>
      constructor
      · intro h
        exact nomatch h
      · rintro ⟨_, ha, -⟩
        exact nomatch ha

/-- Wording an error anew changes no success. -/
theorem Except.mapError_eq_ok {ε ε' α : Type} {x : Except ε α} {f : ε → ε'} {a : α} :
    x.mapError f = .ok a ↔ x = .ok a := by
  cases x with
  | ok b =>
      constructor
      · intro h
        exact congrArg _ (Except.ok.inj h)
      · intro h
        exact congrArg _ (Except.ok.inj h)
  | error e =>
      constructor
      · intro h
        exact nomatch h
      · intro h
        exact nomatch h

theorem isFileName_readmeName : isFileName readmeName = true := by decide

theorem hasRoom_readmeName : Tree.empty.HasRoom [readmeName] := by decide +kernel

namespace Tree

/-- The tree with a file at a location, when the location has room for it. -/
def withFile (t : Tree) (l : Location) (bytes : List UInt8) : Tree :=
  if h : t.HasRoom l then t.put l (.file bytes) h else t

/-- Writing where there is room succeeds. -/
theorem write_eq {t : Tree} {cwd l : Location} {p : Path} (hl : t.locate cwd p = .ok l)
    (hroom : t.HasRoom l) (bytes : List UInt8) :
    t.write cwd p bytes = .ok (t.withFile l bytes) := by
  rw [write, hl, withFile, dif_pos hroom]
  exact dif_pos hroom

/-- Where there is room a file changes what stands at its location and nothing else. -/
theorem node?_withFile {t : Tree} {l : Location} (hroom : t.HasRoom l) (bytes : List UInt8)
    (k : Location) :
    (t.withFile l bytes).node? k = if k = l then some (.file bytes) else t.node? k := by
  rw [withFile, dif_pos hroom, node?_put]

end Tree

/-- What generating the README of a directory comes to in a session. -/
def Session.outcomeOf (s : Session) (d : Path) : Except GenerateError Text :=
  (s.components.offer s.workspace.git).content s.workspace d (d.child readmeName)

namespace Generate

variable {o : Offer} {w w' : Workspace} {d : Path}

/-! ## Where the README stands -/

/-- A directory whose module is read is there. -/
theorem locate_of_context {c : ModuleContext} (hd : d.IsPlain)
    (h : o.context w d.toText = .ok c) :
    w.tree.locate w.cwd d = .ok (d.resolve w.cwd) ∧
      w.tree.isDirectory (d.resolve w.cwd) = true := by
  obtain ⟨files, hfiles, -⟩ := Except.bind_eq_ok.mp h
  have hread := Except.mapError_eq_ok.mp hfiles
  rw [CheckoutOptions.readFiles_eq, hd.ofText_toText] at hread
  obtain ⟨found, hfound, hread⟩ := Except.bind_eq_ok.mp hread
  have hdirectory := Except.mapError_eq_ok.mp hfound
  cases found with
  | none => exact nomatch hread
  | some l =>
      obtain ⟨hway, hl⟩ := CheckoutOptions.locate_of_directoryAt? hdirectory
      obtain rfl := Tree.eq_of_locate hway
      exact ⟨hway, hl⟩

/-- When the old README was read or is missing there is room for a new one. -/
theorem hasRoom_of_existing? {l : Location} (hl : w.tree.locate w.cwd d = .ok l)
    (hd : w.tree.isDirectory l = true) {old : Option Text}
    (h : existing? w (d.child readmeName) = .ok old) :
    w.tree.locate w.cwd (d.child readmeName) = .ok (l ++ [readmeName]) ∧
      w.tree.HasRoom (l ++ [readmeName]) := by
  obtain ⟨found, hfound, hold⟩ := Except.bind_eq_ok.mp h
  have hlook : w.tree.look w.cwd (d.child readmeName) = .ok found := Except.mapError_eq_ok.mp hfound
  have hway := Tree.locate_child hl hd isFileName_readmeName
  rw [Tree.look] at hlook
  split at hway
  · rw [hway] at hlook
    cases hlook
  · rw [hway] at hlook
    obtain rfl := Except.ok.inj hlook
    refine ⟨hway, by simp, ?_, ?_, ?_⟩
    · rw [List.dropLast_concat]
      simpa [Tree.isDirectory] using hd
    · -- a directory of that name could not have been read
      intro hdirectory
      rw [hdirectory] at hold
      have hread : w.readText .utf8 (d.child readmeName)
          = .error (.file ⟨.isADirectory, (d.child readmeName).toText⟩) := by
        unfold Workspace.readText Tree.readText Tree.read
        rw [hway]
        dsimp only
        rw [hdirectory]
        rfl
      simp only [hread] at hold
      cases hold
    · intro name hname
      rw [List.getLast?_concat] at hname
      exact Option.some.inj hname ▸ isFileName_readmeName

/-- When there is a text for the README, the directory is there and has room for it. -/
theorem hasRoom_of_content {text : Text} (hd : d.IsPlain)
    (h : o.content w d (d.child readmeName) = .ok text) :
    w.tree.locate w.cwd d = .ok (d.resolve w.cwd) ∧
      w.tree.locate w.cwd (d.child readmeName) = .ok (d.resolve w.cwd ++ [readmeName]) ∧
      w.tree.HasRoom (d.resolve w.cwd ++ [readmeName]) := by
  obtain ⟨context, hcontext, h⟩ := Except.bind_eq_ok.mp h
  obtain ⟨⟨description, usage⟩, -, h⟩ := Except.bind_eq_ok.mp h
  obtain ⟨old, hold, -⟩ := Except.bind_eq_ok.mp h
  obtain ⟨hl, hdirectory⟩ := locate_of_context hd hcontext
  exact ⟨hl, hasRoom_of_existing? hl hdirectory (Except.mapError_eq_ok.mp hold)⟩

/-! ## What a README depends on -/

variable {keep : Text → Bool}

/-- The context of a module is the same where trees agree about its directory; what they do not
agree about must be no file of the module. -/
theorem context_congr (hcwd : w.cwd = w'.cwd) (hgit : w.git = w'.git)
    (hsame : Tree.SameDirectories w.tree w'.tree) (hd : d.IsPlain)
    (h : ∀ l, w.tree.locate w.cwd d = .ok l → Tree.AgreesAt keep l w.tree w'.tree)
    (hskip : ∀ name, keep name = false →
      Tree.isTooLong (d.child name) = false ∧ o.checkout.options.accepts name = false) :
    o.context w d.toText = o.context w' d.toText := by
  have hfiles : o.checkout.options.readFiles w d.toText
      = o.checkout.options.readFiles w' d.toText := by
    refine CheckoutOptions.readFiles_congr keep hcwd hsame ?_ ?_
    · rw [hd.ofText_toText]
      exact h
    · rw [hd.ofText_toText]
      exact hskip
  unfold Offer.context
  rw [hfiles, Checkout.moduleMeta_congr hcwd hgit hsame]

/-- A file that may be there is read the same where the place holds the same. -/
theorem existing?_congr (hcwd : w.cwd = w'.cwd) (hsame : Tree.SameDirectories w.tree w'.tree)
    {p : Path} (hnode : w.tree.node? (p.resolve w.cwd) = w'.tree.node? (p.resolve w.cwd)) :
    existing? w p = existing? w' p := by
  have hlook : w.look p = w'.look p := by
    unfold Workspace.look
    rw [← hcwd]
    exact hsame.look hnode
  unfold existing?
  rw [← hlook]
  cases hfound : w.look p with
  | error e => rfl
  | ok found =>
      cases found with
      | none => rfl
      | some n =>
          have htext : w.readText .utf8 p = w'.readText .utf8 p := by
            unfold Workspace.readText Tree.readText
            rw [← hcwd, hsame.read_of_look hnode hfound]
          simp only [htext]

/-- The text of a README is the same where trees agree about the directory of the module. -/
theorem content_congr (hcwd : w.cwd = w'.cwd) (hgit : w.git = w'.git) (hchat : w.chat = w'.chat)
    (hsame : Tree.SameDirectories w.tree w'.tree) (hd : d.IsPlain)
    (h : ∀ l, w.tree.locate w.cwd d = .ok l → Tree.AgreesAt (fun _ => true) l w.tree w'.tree) :
    o.content w d (d.child readmeName) = o.content w' d (d.child readmeName) := by
  have hcontext : o.context w d.toText = o.context w' d.toText :=
    context_congr hcwd hgit hsame hd h fun name hname => nomatch hname
  have hdescribed : ∀ c, o.described w c = o.described w' c := by
    intro c
    unfold Offer.described
    rw [hchat]
  unfold Offer.content
  rw [← hcontext]
  cases hc : o.context w d.toText with
  | error e => rfl
  | ok c =>
      -- the directory of a module that was read is there
      have hl := (locate_of_context hd hc).1
      have hplace : (d.child readmeName).resolve w.cwd = d.resolve w.cwd ++ [readmeName] :=
        Path.resolve_child (by decide) w.cwd d
      have hexisting : existing? w (d.child readmeName) = existing? w' (d.child readmeName) := by
        refine existing?_congr hcwd hsame ?_
        rw [hplace]
        exact (h _ hl).entries readmeName rfl
      unfold Offer.assembled
      simp only [hdescribed, hexisting]

/-! ## One module -/

/-- The tree after an outcome: the README is in its place when there is one and it is not a dry
run. -/
def treeAfter (t : Tree) (place : Location) (dryRun : Bool) : Except GenerateError Text → Tree
  | .ok text => if dryRun then t else t.withFile place (utf8 text)
  | .error _ => t

/-- Making and writing a README comes to its text and to the workspace after it: writing does not
fail once there is a text. -/
theorem comesTo_write (dryRun : Bool) (hd : d.IsPlain) :
    Action.ComesTo w.git o (write w dryRun d)
      ((o.content w d (d.child readmeName)).map fun text =>
        (text, { w with
          tree := treeAfter w.tree (d.resolve w.cwd ++ [readmeName]) dryRun (.ok text) })) := by
  have hwrite : ∀ text, Action.ComesTo w.git o
      (if dryRun then pure (text, w)
        else do
          let written ← Action.ofExcept (GenerateError.readme ∘ .file)
            (w.writeText (d.child readmeName) text)
          pure (text, written))
      (if dryRun then .ok (text, w)
        else ((w.writeText (d.child readmeName) text).mapError (GenerateError.readme ∘ .file)).bind
          fun written => .ok (text, written)) := by
    intro text
    cases dryRun with
    | true => exact Action.ComesTo.pure _
    | false => exact (Action.ComesTo.ofExcept _ _).bind fun written => Action.ComesTo.pure _
  have hcomes := (comesTo_content (o := o) (w := w) d (d.child readmeName)).bind hwrite
  cases hcontent : o.content w d (d.child readmeName) with
  | error e =>
      rw [hcontent] at hcomes
      exact hcomes
  | ok text =>
      rw [hcontent] at hcomes
      obtain ⟨-, hl, hroom⟩ := hasRoom_of_content hd hcontent
      have hwritten : w.writeText (d.child readmeName) text
          = .ok { w with
              tree := w.tree.withFile (d.resolve w.cwd ++ [readmeName]) (utf8 text) } := by
        rw [Workspace.writeText, Tree.writeText, Tree.write_eq hl hroom]
        rfl
      cases dryRun with
      | true => exact hcomes
      | false =>
          simp only [Except.bind, hwritten] at hcomes
          exact hcomes

/-- Generating a README comes to its outcome, and leaves what the parts offer as it is. -/
theorem one_value (dryRun : Bool) (hd : d.IsPlain) (s : Session) :
    ∃ components, components.offer s.workspace.git = s.components.offer s.workspace.git ∧
      (one dryRun d s).value
        = (⟨d, dryRun, s.outcomeOf d⟩,
            ⟨{ s.workspace with
                tree := treeAfter s.workspace.tree (d.resolve s.workspace.cwd ++ [readmeName])
                  dryRun (s.outcomeOf d) },
              components⟩) := by
  obtain ⟨hvalue, hkept⟩ := comesTo_write (w := s.workspace) dryRun hd s.components rfl
  generalize hrun : Action.run (write s.workspace dryRun d) s.components = done at hvalue hkept
  obtain ⟨⟨result, components⟩, log⟩ := done
  dsimp only at hvalue hkept
  refine ⟨components, hkept, ?_⟩
  unfold one
  rw [hrun]
  change result = Except.map _ (s.outcomeOf d) at hvalue
  subst hvalue
  cases s.outcomeOf d <;> rfl

/-- Generating a README is all or nothing, whatever the tree, the directory, the settings and the
describer.  A dry run and a real run come to the same text or to the same error.  The dry run leaves
everything as it is, and so does the real run when there is an error.  Otherwise the real run has
written, and afterwards the README stands where its path leads and holds the text, and everything
else stands as it stood. -/
theorem one_all_or_nothing (directory : Text) (s : Session) :
    let p := Path.ofText directory
    let dry := (one true p s).value
    let real := (one false p s).value
    real.1.outcome = dry.1.outcome ∧
      (dry.1.isWritten = false ∧ dry.2.workspace = s.workspace) ∧
      (∀ e, real.1.outcome = .error e →
        real.1.isWritten = false ∧ real.2.workspace = s.workspace) ∧
      ∀ text, real.1.outcome = .ok text →
        real.1.isWritten = true ∧
          ∃ l, s.workspace.tree.locate s.workspace.cwd (p.child readmeName) = .ok l ∧
            (∀ k, real.2.workspace.tree.node? k
              = if k = l then some (.file (utf8 text)) else s.workspace.tree.node? k) ∧
            { real.2.workspace with tree := s.workspace.tree } = s.workspace := by
  intro p dry real
  have hp : p.IsPlain := Path.isPlain_ofText directory
  obtain ⟨_, -, hdry⟩ := one_value true hp s
  obtain ⟨_, -, hreal⟩ := one_value false hp s
  have hroom : ∀ text, s.outcomeOf p = .ok text →
      s.workspace.tree.locate s.workspace.cwd (p.child readmeName)
          = .ok (p.resolve s.workspace.cwd ++ [readmeName]) ∧
        s.workspace.tree.HasRoom (p.resolve s.workspace.cwd ++ [readmeName]) :=
    fun _ htext => (hasRoom_of_content hp htext).2
  -- dry or not, the outcome is that of one computation; only what follows it differs
  generalize s.outcomeOf p = outcome at hdry hreal hroom
  change dry = _ at hdry
  change real = _ at hreal
  clear_value dry real
  subst hdry hreal
  refine ⟨rfl, ⟨Bool.and_false _, ?_⟩, ?_, ?_⟩
  · cases outcome <;> rfl
  · intro e he
    obtain rfl : outcome = .error e := he
    exact ⟨rfl, rfl⟩
  · intro text htext
    obtain rfl : outcome = .ok text := htext
    obtain ⟨hl, hfree⟩ := hroom text rfl
    exact ⟨rfl, _, hl, Tree.node?_withFile hfree (utf8 text), rfl⟩

/-- A session with one module in it, which declares one variable. -/
def storeSession : Session where
  workspace :=
    { tree :=
        (Tree.empty.put ["store"] .directory (by decide +kernel)).put ["store", "main.tf"]
          (.file (utf8 "variable \"name\" \x7b\x7d")) (by decide +kernel)
      cwd := []
      git := .silent
      chat := fun _ => .noChoices }
  components := { settings := {} }

/-- The README of the module is written beside its file.  A directory that is missing gives an
error, and nothing is written. -/
theorem one_all_or_nothing_store :
    (∃ text, (one false (.ofText "store") storeSession).value.1.outcome = .ok text ∧
      (one false (.ofText "store") storeSession).value.2.workspace.tree.node?
          ["store", "README.md"] = some (.file (utf8 text)) ∧
      (one false (.ofText "store") storeSession).value.2.workspace.tree.node? ["store", "main.tf"]
        = storeSession.workspace.tree.node? ["store", "main.tf"]) ∧
    (one false (.ofText "shop") storeSession).value.1.outcome
        = .error (.module (.notFound "shop")) ∧
      (one false (.ofText "shop") storeSession).value.2.workspace = storeSession.workspace := by
  obtain ⟨-, -, -, hwritten⟩ := one_all_or_nothing "store" storeSession
  obtain ⟨-, -, hfailed, -⟩ := one_all_or_nothing "shop" storeSession
  have hok : (one false (.ofText "store") storeSession).value.1.isOk = true := by decide +kernel
  have hmissing : (one false (.ofText "shop") storeSession).value.1.outcome
      = .error (.module (.notFound "shop")) := by rfl
  refine ⟨?_, hmissing, (hfailed _ hmissing).2⟩
  cases houtcome : (one false (.ofText "store") storeSession).value.1.outcome with
  | error e =>
      rw [Generation.isOk, houtcome] at hok
      exact nomatch hok
  | ok text =>
      obtain ⟨-, l, hl, hnode, -⟩ := hwritten text houtcome
      obtain rfl : l = (["store", "README.md"] : Location) := Tree.eq_of_locate hl
      refine ⟨text, rfl, ?_, ?_⟩
      · rw [hnode, if_pos rfl]
      · rw [hnode, if_neg (by decide)]

end Generate

end ModuleDocs
