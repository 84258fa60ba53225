import ModuleDocs.Proofs.CommandLine.Rerun
import ModuleDocs.Proofs.Generate.TablePlace

/-! # The report of a run and its exit code

    A run that has directories to work on reports a line for each of them that
    is there, in order, and then how many succeeded and how many failed: every
    directory counts once, and the failed ones are those that are missing and
    those for which no README was generated.  The exit code tells whether any
    failed.

    A module that fails is part of the report.  Only what surrounds the modules
    can break a run off before it reports: a path that is too long to look for
    directories, and, after a README was generated in a run over all modules, a
    root README that cannot be read.  Whether it can be read does not change
    while READMEs are generated, so it is a matter of the workspace that the
    run began with. -/

namespace ModuleDocs

open Text

namespace Except

variable {ε α β : Type} {f : α → Except ε β} {l : List α}

/-- What is made of a result does not change a failure. -/
theorem map_eq_error_iff {x : Except ε α} {g : α → β} {e : ε} :
    x.map g = .error e ↔ x = .error e := by
  cases x with
  | error e' =>
      exact ⟨fun h => congrArg _ (Except.error.inj h), fun h => congrArg _ (Except.error.inj h)⟩
  | ok a => exact ⟨nofun, nofun⟩

theorem mapError_eq_error_iff {ε' : Type} {x : Except ε α} {g : ε → ε'} {e : ε'} :
    x.mapError g = .error e ↔ ∃ e', x = .error e' ∧ g e' = e := by
  cases x with
  | error e' =>
      constructor
      · intro h
        exact ⟨e', rfl, Except.error.inj h⟩
      · rintro ⟨e'', he, h⟩
        obtain rfl := Except.error.inj he
        exact congrArg _ h
  | ok a =>
      constructor
      · exact nofun
      · rintro ⟨_, h, -⟩
        exact nomatch h

/-- What is made of a result is made of one that there is. -/
theorem map_eq_ok_iff {x : Except ε α} {g : α → β} {b : β} :
    x.map g = .ok b ↔ ∃ a, x = .ok a ∧ g a = b := by
  cases x with
  | error e => exact ⟨nofun, nofun⟩
  | ok a =>
      constructor
      · intro h
        exact ⟨a, rfl, Except.ok.inj h⟩
      · rintro ⟨b, hb, h⟩
        obtain rfl := Except.ok.inj hb
        exact congrArg _ h

/-- Something is made of a result exactly when there is one. -/
theorem exists_map_eq_ok_iff {x : Except ε α} {g : α → β} :
    (∃ b, x.map g = .ok b) ↔ ∃ a, x = .ok a := by
  cases x with
  | error e => exact ⟨nofun, nofun⟩
  | ok a => exact ⟨fun _ => ⟨a, rfl⟩, fun _ => ⟨g a, rfl⟩⟩

theorem mapM_cons_eq_error_iff {a : α} {b : β} {e : ε} (ha : f a = .ok b) :
    (a :: l).mapM f = .error e ↔ l.mapM f = .error e := by
  rw [List.mapM_cons, ha]
  cases l.mapM f with
  | error e' => exact ⟨fun h => h, fun h => h⟩
  | ok cs =>
      constructor
      · intro h
        cases h
      · intro h
        cases h

/-- A traversal fails with the first failure. -/
theorem mapM_eq_error_iff {e : ε} :
    l.mapM f = .error e ↔ ∃ before a after, l = before ++ a :: after ∧
      (∀ b ∈ before, ∃ c, f b = .ok c) ∧ f a = .error e := by
  induction l with
  | nil =>
      constructor
      · intro h
        cases h
      · rintro ⟨before, a, after, hl, -⟩
        cases before <;> cases hl
  | cons a l ih =>
      -- the head decides, unless it is done; then the rest does
      cases ha : f a with
      | error e' =>
          rw [List.mapM_cons, ha]
          constructor
          · intro h
            obtain rfl : e' = e := Except.error.inj h
            exact ⟨[], a, l, rfl, List.forall_mem_nil _, ha⟩
          · rintro ⟨before, b, after, hl, hbefore, hb⟩
            cases before with
            | nil =>
                obtain ⟨rfl, -⟩ := List.cons.inj hl
                rw [Except.error.inj (ha.symm.trans hb)]
                rfl
            | cons c before =>
                obtain ⟨rfl, -⟩ := List.cons.inj hl
                obtain ⟨d, hd⟩ := hbefore a List.mem_cons_self
                cases ha.symm.trans hd
      | ok b =>
          rw [mapM_cons_eq_error_iff ha, ih]
          constructor
          · rintro ⟨before, c, after, rfl, hbefore, hc⟩
            refine ⟨a :: before, c, after, rfl, ?_, hc⟩
            exact List.forall_mem_cons.mpr ⟨⟨b, ha⟩, hbefore⟩
          · rintro ⟨before, c, after, hl, hbefore, hc⟩
            cases before with
            | nil =>
                obtain ⟨rfl, -⟩ := List.cons.inj hl
                cases ha.symm.trans hc
            | cons d before =>
                obtain ⟨rfl, rfl⟩ := List.cons.inj hl
                exact ⟨before, c, after, rfl, (List.forall_mem_cons.mp hbefore).2, hc⟩

/-- Every step of a traversal that succeeds does. -/
theorem forall_of_mapM {bs : List β} (h : l.mapM f = .ok bs) : ∀ a ∈ l, ∃ b, f a = .ok b := by
  induction l generalizing bs with
  | nil => exact nofun
  | cons a l ih =>
      rw [List.mapM_cons] at h
      obtain ⟨b, hb, hrest⟩ := Except.bind_eq_ok.mp h
      obtain ⟨cs, hcs, -⟩ := Except.bind_eq_ok.mp hrest
      exact List.forall_mem_cons.mpr ⟨⟨b, hb⟩, ih hcs⟩

/-- A traversal succeeds when every step does. -/
theorem mapM_of_forall {g : α → β} (h : ∀ a ∈ l, f a = .ok (g a)) : l.mapM f = .ok (l.map g) := by
  induction l with
  | nil => rfl
  | cons a l ih =>
      obtain ⟨ha, hl⟩ := List.forall_mem_cons.mp h
      rw [List.mapM_cons, ha, ih hl]
      rfl

end Except

/-- What a look finds stands where the path leads. -/
theorem Tree.locate_of_look {t : Tree} {cwd : Location} {p : Path} {n : Node}
    (h : t.look cwd p = .ok (some n)) :
    ∃ l, t.locate cwd p = .ok l ∧ t.node? l = some n := by
  unfold look at h
  split at h
  · next l hl => exact ⟨l, hl, Except.ok.inj h⟩
  · exact nomatch h
  · exact nomatch Except.ok.inj h

namespace Generate

variable {w : Workspace} {p d : Path} {text : Text}

/-! ## Files that can be read -/

/-- Whether what stands in a place can be read as a text, if anything stands there. -/
def readNode (p : Path) : Option Node → Except TextFileError Unit
  | none => .ok ()
  | some .directory => .error (.file ⟨.isADirectory, p.toText⟩)
  | some (.file bytes) => ((ofFile .utf8 bytes).map fun _ => ()).mapError .decode

/-- A file can be read when its bytes can be. -/
theorem readNode_file (p : Path) (bytes : List UInt8) :
    readNode p (some (.file bytes))
      = ((ofFile .utf8 bytes).map fun _ => ()).mapError .decode := rfl

/-- Whether the file of a path can be read as a text, if it is there. -/
def canRead (w : Workspace) (p : Path) : Except TextFileError Unit :=
  (existing? w p).map fun _ => ()

/-- A file can be read when looking for it succeeds and what was found can be read. -/
theorem canRead_eq (w : Workspace) (p : Path) :
    canRead w p = ((w.look p).mapError .file).bind (readNode p) := by
  unfold canRead existing?
  cases hlook : w.look p with
  | error e => rfl
  | ok found =>
      cases found with
      | none => rfl
      | some n =>
          obtain ⟨l, hl, hn⟩ := Tree.locate_of_look hlook
          show (some <$> w.readText .utf8 p).map _ = readNode p (some n)
          unfold Workspace.readText Tree.readText Tree.read
          rw [hl]
          dsimp only
          rw [hn]
          cases n with
          | directory => rfl
          | file bytes =>
              show (some <$> (ofFile .utf8 bytes).mapError TextFileError.decode).map _ = _
              rw [readNode_file]
              cases ofFile .utf8 bytes <;> rfl

/-- Whether a place can be read is the same for all paths to it. -/
theorem readNode_eq_ok {n : Option Node} (p q : Path) (h : readNode p n = .ok ()) :
    readNode q n = .ok () := by
  cases n with
  | none => rfl
  | some n =>
      cases n with
      | directory => exact nomatch h
      | file bytes => exact h

/-- A text that was written can be read. -/
theorem readNode_utf8 (p : Path) (text : Text) :
    readNode p (some (.file (utf8 text))) = .ok () := by
  rw [readNode_file, ofFile, Encoding.decode, ofUtf8_utf8]
  rfl

/-- Whether a file can be read is the same where the directories are, when the places can be read
alike. -/
theorem canRead_congr {t : Tree} (h : Tree.SameDirectories w.tree t)
    (hnode : readNode p (w.tree.node? (p.resolve w.cwd)) = readNode p (t.node? (p.resolve w.cwd))) :
    canRead w p = canRead { w with tree := t } p := by
  have hjoin : ∀ x : Except FileError (Option Node),
      (x.mapError TextFileError.file).bind (readNode p)
        = ((x.map (readNode p)).mapError .file).bind id := fun x => by cases x <;> rfl
  rw [canRead_eq, canRead_eq, hjoin, hjoin]
  exact congrArg (fun x => (Except.mapError TextFileError.file x).bind id) (h.map_look hnode)

/-- A module for which there is a README had none before, or one that can be read. -/
theorem readNode_of_content {o : Offer} (hd : d.IsPlain)
    (h : o.content w d (d.child readmeName) = .ok text) (p : Path) :
    readNode p (w.tree.node? (d.resolve w.cwd ++ [readmeName])) = .ok () := by
  obtain ⟨-, hl, -⟩ := hasRoom_of_content hd h
  obtain ⟨context, -, h⟩ := Except.bind_eq_ok.mp h
  obtain ⟨⟨description, usage⟩, -, h⟩ := Except.bind_eq_ok.mp h
  obtain ⟨old, hold, -⟩ := Except.bind_eq_ok.mp h
  have hread : canRead w (d.child readmeName) = .ok () := by
    rw [canRead, Except.mapError_eq_ok.mp hold]
    rfl
  have hlook : w.look (d.child readmeName)
      = .ok (w.tree.node? (d.resolve w.cwd ++ [readmeName])) := by
    rw [Workspace.look, Tree.look, hl]
  rw [canRead_eq, hlook] at hread
  exact readNode_eq_ok _ p hread

/-- Generating a README does not change which files can be read. -/
theorem canRead_one (dryRun : Bool) (hd : d.IsPlain) (s : Session) (p : Path) :
    canRead (one dryRun d s).value.2.workspace p = canRead s.workspace p := by
  obtain ⟨components, -, hone⟩ := one_value dryRun hd s
  rw [hone]
  have hroom : ∀ text, s.outcomeOf d = .ok text →
      s.workspace.tree.HasRoom (d.resolve s.workspace.cwd ++ [readmeName]) ∧
        readNode p (s.workspace.tree.node? (d.resolve s.workspace.cwd ++ [readmeName])) = .ok () :=
    fun text htext => ⟨(hasRoom_of_content hd htext).2.2, readNode_of_content hd htext p⟩
  generalize s.outcomeOf d = outcome at hroom ⊢
  cases outcome with
  | error e => rfl
  | ok text =>
      cases dryRun with
      | true => rfl
      | false =>
          obtain ⟨hfree, hold⟩ := hroom text rfl
          have hsame := (Tree.rewritten_withFile hfree (utf8 text)).sameDirectories
          refine (canRead_congr hsame ?_).symm
          rw [Tree.node?_withFile hfree]
          split
          · next hplace => rw [hplace, hold, readNode_utf8]
          · rfl

/-- What generating a README leaves besides files, and what it says about the directory. -/
theorem one_directory (dryRun : Bool) (hd : d.IsPlain) (s : Session) :
    (one dryRun d s).value.1.directory = d ∧
      (one dryRun d s).value.2.workspace.cwd = s.workspace.cwd := by
  obtain ⟨components, -, hone⟩ := one_value dryRun hd s
  rw [hone]
  exact ⟨rfl, rfl⟩

/-- Generating READMEs gives a result for each directory, in order, and does not change which files
can be read. -/
theorem many_directories (dryRun : Bool) {ds : List Path} (hplain : ∀ d ∈ ds, d.IsPlain)
    (s : Session) :
    (many dryRun ds s).value.1.map (·.directory) = ds ∧
      (many dryRun ds s).value.2.workspace.cwd = s.workspace.cwd ∧
      ∀ p, canRead (many dryRun ds s).value.2.workspace p = canRead s.workspace p := by
  induction ds generalizing s with
  | nil => exact ⟨rfl, rfl, fun _ => rfl⟩
  | cons d ds ih =>
      have hd := hplain d List.mem_cons_self
      obtain ⟨hdirectory, hcwd⟩ := one_directory dryRun hd s
      obtain ⟨hrest, hcwd', hread⟩ :=
        ih (fun e he => hplain e (List.mem_cons_of_mem d he)) (one dryRun d s).value.2
      rw [many_cons]
      refine ⟨?_, hcwd'.trans hcwd, fun p => (hread p).trans (canRead_one dryRun hd s p)⟩
      rw [List.map_cons, hdirectory, hrest]

/-! ## The root README -/

/-- Whether the README above the base directory can be read, if it is there. -/
def canReadRoot (w : Workspace) (base : Text) : Except TextFileError Unit :=
  ((rootOf w base).mapError .file).bind fun root =>
    canRead w ((Path.absolute root).child readmeName)

theorem canReadRoot_congr {w' : Workspace} (hcwd : w'.cwd = w.cwd)
    (hread : ∀ p, canRead w' p = canRead w p) (base : Text) :
    canReadRoot w' base = canReadRoot w base := by
  unfold canReadRoot rootOf Workspace.resolve
  simp only [hcwd, hread]

/-- Refreshing the root README fails exactly when it cannot be read, and for that reason: once it
was read, it can be written. -/
theorem map_updateRoot (w : Workspace) (dryRun : Bool) (base : Text)
    (generations : List Generation) :
    (updateRoot w dryRun base generations).value.map (fun _ => ()) = canReadRoot w base := by
  unfold updateRoot canReadRoot
  cases rootOf w base with
  | error e => rfl
  | ok root =>
      show (updateTable w dryRun root generations).value.map (fun _ => ())
        = canRead w ((Path.absolute root).child readmeName)
      unfold updateTable canRead
      dsimp only
      cases hexisting : existing? w ((Path.absolute root).child readmeName) with
      | error e => rfl
      | ok old =>
          cases old with
          | none => rfl
          | some text =>
              dsimp only
              cases Markers.modules.replace? text
                  (TableRow.table (generations.filterMap (row? w root))) with
              | none => rfl
              | some updated =>
                  -- what was read is a file, and a file can be written over
                  obtain ⟨l, bytes, hl, hnode⟩ := file_of_existing? hexisting
                  have hwrite : w.writeText ((Path.absolute root).child readmeName) updated
                      = .ok { w with tree := w.tree.withFile l (utf8 updated) } := by
                    rw [Workspace.writeText, Tree.writeText,
                      Tree.write_eq hl (Tree.hasRoom_of_file hnode)]
                    rfl
                  dsimp only
                  rw [hwrite]
                  cases dryRun <;> rfl

end Generate

namespace CommandLine

variable {a : Arguments} {s : Settings} {w : Workspace}

/-! ## The directories of a run -/

/-- The directories that a run works on. -/
def wanted (a : Arguments) (s : Settings) (w : Workspace) : Except FileError (List Path) :=
  if a.all then ((Components.checkoutOptions s).moduleDirectories w a.baseDir).value
  else .ok (a.directories.map Path.ofText)

/-- What is printed about the directories before the work begins. -/
def announced (a : Arguments) (ds : List Path) : List Text :=
  if a.all then [foundLine ds a.baseDir] else []

/-- The parts that a run has when it begins to work on directories. -/
def firstParts (a : Arguments) (s : Settings) : Components :=
  if a.all then partsFor s else { settings := s }

/-- Whether a path leads to a directory. -/
def isPresent (w : Workspace) (d : Path) : Bool := w.hasDirectory d = .ok true

/-- What the directories that are there come to. -/
def results (a : Arguments) (s : Settings) (w : Workspace) (ds : List Path) : List Generation :=
  (Generate.many a.dryRun (ds.filter (isPresent w)) ⟨w, firstParts a s⟩).value.1

/-- A run asks for its directories first. -/
theorem value_requested (a : Arguments) (s : Settings) (w : Workspace) :
    (requested a ⟨w, { settings := s }⟩).value
      = ((wanted a s w).map fun ds => (ds, announced a ds), ⟨w, firstParts a s⟩) := by
  unfold requested wanted announced firstParts
  cases a.all <;> rfl

/-- The directories of a run are paths that a text can give. -/
theorem isPlain_of_wanted {ds : List Path} (h : wanted a s w = .ok ds) : ∀ d ∈ ds, d.IsPlain := by
  intro d hd
  unfold wanted at h
  split at h
  · obtain ⟨names, hnames, rfl⟩ := CheckoutOptions.below_of_mem_found h hd
    exact (Path.isPlain_ofText _).below hnames
  · obtain rfl := Except.ok.inj h
    obtain ⟨t, -, rfl⟩ := List.mem_map.mp hd
    exact Path.isPlain_ofText t

/-- Looking for a directory fails only for a path that is too long. -/
theorem tooLong_of_hasDirectory {d : Path} {e : FileError} (h : w.hasDirectory d = .error e) :
    e = CheckoutOptions.tooLong d := by
  unfold Workspace.hasDirectory Tree.hasDirectory Tree.look at h
  split at h
  · exact nomatch h
  · exact (Except.error.inj h).symm
  · exact nomatch h

/-- A search for directories fails only for a path that is too long. -/
theorem tooLong_of_wanted {e : FileError} (h : wanted a s w = .error e) :
    ∃ p, e = CheckoutOptions.tooLong p := by
  unfold wanted at h
  split at h
  · unfold CheckoutOptions.moduleDirectories at h
    dsimp only at h
    split at h
    · split at h
      · exact ⟨_, (Except.error.inj h).symm⟩
      · exact nomatch h
    · exact nomatch h
    · next f hbase =>
        obtain rfl := Except.error.inj h
        rw [CheckoutOptions.directoryAt?_eq] at hbase
        exact ⟨_, tooLong_of_hasDirectory (Except.map_eq_error_iff.mp hbase)⟩
  · exact nomatch h

/-- Directories are told apart when looking for each of them succeeds. -/
theorem presentAndMissing_eq {ds : List Path}
    (h : ∀ d ∈ ds, ∃ there, w.hasDirectory d = .ok there) :
    presentAndMissing w ds
      = .ok (ds.filter (isPresent w), ds.filter fun d => !isPresent w d) := by
  have hlooked : (ds.mapM fun d => (w.hasDirectory d).map (d, ·))
      = .ok (ds.map fun d => (d, isPresent w d)) := by
    refine Except.mapM_of_forall fun d hd => ?_
    obtain ⟨there, hthere⟩ := h d hd
    unfold isPresent
    rw [hthere]
    cases there <;> rfl
  unfold presentAndMissing
  rw [hlooked]
  show Except.ok (_, _) = _
  rw [List.filter_map, List.filter_map, List.map_map, List.map_map]
  simp [Function.comp_def]

/-- Looking for each of the directories that are told apart succeeds. -/
theorem forall_of_presentAndMissing {ds : List Path} {told : List Path × List Path}
    (h : presentAndMissing w ds = .ok told) : ∀ d ∈ ds, ∃ there, w.hasDirectory d = .ok there := by
  obtain ⟨looked, hlooked⟩ := Except.exists_map_eq_ok_iff.mp ⟨told, h⟩
  intro d hd
  exact Except.exists_map_eq_ok_iff.mp (Except.forall_of_mapM hlooked d hd)

/-- Otherwise the first path that is too long is reported. -/
theorem presentAndMissing_eq_error_iff {ds : List Path} {e : FileError} :
    presentAndMissing w ds = .error e ↔ ∃ before d after, ds = before ++ d :: after ∧
      (∀ b ∈ before, ∃ there, w.hasDirectory b = .ok there) ∧ w.hasDirectory d = .error e := by
  unfold presentAndMissing
  rw [Except.map_eq_error_iff, Except.mapM_eq_error_iff]
  simp only [Except.map_eq_error_iff, Except.exists_map_eq_ok_iff]

/-! ## The report -/

/-- How many directories a README was generated for. -/
def succeeded (a : Arguments) (s : Settings) (w : Workspace) (ds : List Path) : Nat :=
  (results a s w ds).countP Generation.isOk

/-- How many directories are missing, or there was an error for. -/
def failed (a : Arguments) (s : Settings) (w : Workspace) (ds : List Path) : Nat :=
  (ds.filter fun d => !isPresent w d).length + (results a s w ds).countP fun g => !g.isOk

/-- The lines that end the report on directories. -/
def closingLines (a : Arguments) (s : Settings) (w : Workspace) (ds : List Path) : List Text :=
  if ds = [] then ["No directories to process.".toList]
  else (results a s w ds).map statusLine ++ [summaryLine (succeeded a s w ds) (failed a s w ds)]

/-- What breaks a run off, and what it has printed by then. -/
inductive BreaksOff (a : Arguments) (s : Settings) (w : Workspace) : Interruption → Prop where
  /-- The search for directories meets a path that is too long. -/
  | search {p : Path} (hwanted : wanted a s w = .error (CheckoutOptions.tooLong p)) :
      BreaksOff a s w ⟨[], .file (CheckoutOptions.tooLong p)⟩
  /-- One of the directories has a path that is too long. -/
  | directory {ds before after : List Path} {d : Path} (hwanted : wanted a s w = .ok ds)
      (hds : ds = before ++ d :: after)
      (hbefore : ∀ b ∈ before, ∃ there, w.hasDirectory b = .ok there)
      (hd : w.hasDirectory d = .error (CheckoutOptions.tooLong d)) :
      BreaksOff a s w ⟨printed (announced a ds), .file (CheckoutOptions.tooLong d)⟩
  /-- A README was generated in a run over all modules, and the root README cannot be read.  The
  lines about the directories have been printed. -/
  | root {ds : List Path} {e : TextFileError} (hwanted : wanted a s w = .ok ds)
      (hds : ∀ d ∈ ds, ∃ there, w.hasDirectory d = .ok there) (hall : a.all = true)
      (hsome : 0 < succeeded a s w ds) (hroot : Generate.canReadRoot w a.baseDir = .error e) :
      BreaksOff a s w ⟨printed (statusLines (announced a ds) (results a s w ds)), e⟩

/-- Refreshing fails when there is something to refresh and the root README cannot be read. -/
theorem value_refreshRoot (a : Arguments) (w : Workspace) (generations : List Generation) :
    (refreshRoot a w generations).value.1
      = if a.all && generations.any Generation.isOk then Generate.canReadRoot w a.baseDir
        else .ok () := by
  unfold refreshRoot
  split
  · rw [Logged.value_map, ← Generate.map_updateRoot w a.dryRun a.baseDir generations]
    cases (Generate.updateRoot w a.dryRun a.baseDir generations).value <;> rfl
  · rfl

/-- The directories that are there have a result each, in order, and the same files can be read
afterwards. -/
theorem many_present {ds : List Path} (hwanted : wanted a s w = .ok ds) :
    let done := (Generate.many a.dryRun (ds.filter (isPresent w)) ⟨w, firstParts a s⟩).value
    done.1.map (·.directory) = ds.filter (isPresent w) ∧ done.2.workspace.cwd = w.cwd ∧
      ∀ p, Generate.canRead done.2.workspace p = Generate.canRead w p :=
  Generate.many_directories a.dryRun
    (fun d hd => isPlain_of_wanted hwanted d (List.mem_filter.mp hd).1) ⟨w, firstParts a s⟩

/-- When looking for the directories succeeds, there is a line for each of them that is there, and
the report goes on to its end unless the root README cannot be read. -/
theorem value_processAll {ds : List Path} (hwanted : wanted a s w = .ok ds)
    (hds : ∀ d ∈ ds, ∃ there, w.hasDirectory d = .ok there) :
    (processAll a (announced a ds) ds ⟨w, firstParts a s⟩).value.1
      = ((if a.all && (results a s w ds).any Generation.isOk then
            Generate.canReadRoot w a.baseDir else .ok ()).mapError
          (.mk (printed (statusLines (announced a ds) (results a s w ds))))).map fun _ =>
        report (announced a ds) (results a s w ds) (ds.filter fun d => !isPresent w d).length := by
  obtain ⟨-, hcwd, hread⟩ := many_present hwanted
  have hvalue : (processAll a (announced a ds) ds ⟨w, firstParts a s⟩).value.1
      = ((refreshRoot a (Generate.many a.dryRun (ds.filter (isPresent w))
            ⟨w, firstParts a s⟩).value.2.workspace (results a s w ds)).value.1.mapError
          (.mk (printed (statusLines (announced a ds) (results a s w ds))))).map fun _ =>
        report (announced a ds) (results a s w ds)
          (ds.filter fun d => !isPresent w d).length := by
    unfold processAll
    dsimp only
    rw [presentAndMissing_eq hds]
    rfl
  rw [hvalue, value_refreshRoot, Generate.canReadRoot_congr hcwd hread]

/-- When looking for some directory fails, the run breaks off. -/
theorem value_processAll_error {ds : List Path} {f : FileError}
    (h : presentAndMissing w ds = .error f) :
    (processAll a (announced a ds) ds ⟨w, firstParts a s⟩).value.1
      = .error ⟨printed (announced a ds), .file f⟩ := by
  unfold processAll
  dsimp only
  rw [h]
  rfl

/-- A run breaks off when its directories cannot be found or told apart, or when it works on them
and the root README cannot be read. -/
theorem value_process (a : Arguments) (s : Settings) (w : Workspace) :
    (process a ⟨w, { settings := s }⟩).value.1
      = match wanted a s w with
        | .error e => .error ⟨[], .file e⟩
        | .ok [] => .ok ⟨0, printed (announced a [] ++ ["No directories to process.".toList])⟩
        | .ok (d :: ds) =>
          (processAll a (announced a (d :: ds)) (d :: ds) ⟨w, firstParts a s⟩).value.1 := by
  unfold process
  rw [Logged.value_bind, value_requested]
  cases wanted a s w with
  | error e => rfl
  | ok ds => cases ds <;> rfl

/-- Working on directories fails when one of them has a path that is too long, or when the root
README cannot be read. -/
theorem value_processAll_eq_error_iff {ds : List Path} {i : Interruption}
    (hwanted : wanted a s w = .ok ds) :
    (processAll a (announced a ds) ds ⟨w, firstParts a s⟩).value.1 = .error i
      ↔ BreaksOff a s w i := by
  by_cases hds : ∀ d ∈ ds, ∃ there, w.hasDirectory d = .ok there
  · rw [value_processAll hwanted hds, Except.map_eq_error_iff, Except.mapError_eq_error_iff]
    constructor
    · rintro ⟨e, he, rfl⟩
      split at he
      · next hroot =>
          obtain ⟨hall, hsome⟩ := Bool.and_eq_true_iff.mp hroot
          obtain ⟨g, hg, hok⟩ := List.any_eq_true.mp hsome
          exact .root hwanted hds hall (List.countP_pos_iff.mpr ⟨g, hg, hok⟩) he
      · exact nomatch he
    · rintro (hsearch | ⟨hwanted', rfl, -, hd⟩ | ⟨hwanted', -, hall, hsome, hroot⟩)
      · exact nomatch hwanted.symm.trans hsearch
      · obtain rfl := Except.ok.inj (hwanted.symm.trans hwanted')
        obtain ⟨there, hthere⟩ := hds _ (List.mem_append_right _ List.mem_cons_self)
        exact nomatch hthere.symm.trans hd
      · obtain rfl := Except.ok.inj (hwanted.symm.trans hwanted')
        obtain ⟨g, hg, hok⟩ := List.countP_pos_iff.mp hsome
        rw [if_pos (Bool.and_eq_true_iff.mpr ⟨hall, List.any_eq_true.mpr ⟨g, hg, hok⟩⟩)]
        exact ⟨_, hroot, rfl⟩
  · -- the first path that is too long is reported
    cases htold : presentAndMissing w ds with
    | ok told => exact absurd (forall_of_presentAndMissing htold) hds
    | error f =>
        obtain ⟨before, d, after, rfl, hbefore, hd⟩ := presentAndMissing_eq_error_iff.mp htold
        obtain rfl := tooLong_of_hasDirectory hd
        rw [value_processAll_error htold]
        constructor
        · intro h
          obtain rfl := Except.error.inj h
          exact .directory hwanted rfl hbefore hd
        · rintro (hsearch | ⟨hwanted', hds', hbefore', hd'⟩ | ⟨hwanted', hds', -⟩)
          · exact nomatch hwanted.symm.trans hsearch
          · obtain rfl := Except.ok.inj (hwanted.symm.trans hwanted')
            have hfirst := presentAndMissing_eq_error_iff.mpr ⟨_, _, _, hds', hbefore', hd'⟩
            rw [Except.error.inj (htold.symm.trans hfirst)]
          · obtain rfl := Except.ok.inj (hwanted.symm.trans hwanted')
            exact absurd hds' hds

/-- Every directory that is there has a result, and every directory is counted once. -/
theorem succeeded_add_failed {ds : List Path} (hwanted : wanted a s w = .ok ds) :
    (results a s w ds).map (·.directory) = ds.filter (isPresent w) ∧
      succeeded a s w ds ≤ (results a s w ds).length ∧
      (results a s w ds).length + (ds.filter fun d => !isPresent w d).length = ds.length ∧
      succeeded a s w ds + failed a s w ds = ds.length := by
  obtain ⟨hdirectories, -⟩ := many_present hwanted
  have hresults : (results a s w ds).length = (ds.filter (isPresent w)).length := by
    rw [← congrArg List.length hdirectories, List.length_map]
    rfl
  have hcount : (results a s w ds).length = succeeded a s w ds
      + (results a s w ds).countP fun g => !g.isOk := by
    unfold succeeded
    rw [List.countP_eq_length_filter, List.countP_eq_length_filter]
    exact List.length_eq_length_filter_add Generation.isOk
  have hsplit : ds.length = (ds.filter (isPresent w)).length
      + (ds.filter fun d => !isPresent w d).length := List.length_eq_length_filter_add (isPresent w)
  refine ⟨hdirectories, ?_⟩
  unfold failed
  omega

/-- The report counts the directories that failed. -/
theorem report_eq {ds : List Path} (hwanted : wanted a s w = .ok ds) :
    report (announced a ds) (results a s w ds) (ds.filter fun d => !isPresent w d).length
      = ⟨if 0 < failed a s w ds then 1 else 0,
          printed (announced a ds ++ (results a s w ds).map statusLine
            ++ [summaryLine (succeeded a s w ds) (failed a s w ds)])⟩ := by
  have hfailed : (results a s w ds).length - (results a s w ds).countP Generation.isOk
      + (ds.filter fun d => !isPresent w d).length = failed a s w ds := by
    obtain ⟨-, hsome, hall, hcount⟩ := succeeded_add_failed hwanted
    show (results a s w ds).length - succeeded a s w ds + _ = _
    omega
  unfold report
  dsimp only
  rw [hfailed]
  congr 1
  by_cases hzero : failed a s w ds = 0
  · rw [if_pos hzero, if_neg (by omega)]
  · rw [if_neg hzero, if_pos (by omega)]

/-- A run breaks off for these reasons alone. -/
theorem process_eq_error_iff (a : Arguments) (s : Settings) (w : Workspace) (i : Interruption) :
    (process a ⟨w, { settings := s }⟩).value.1 = .error i ↔ BreaksOff a s w i := by
  rw [value_process]
  cases hwanted : wanted a s w with
  | error f =>
      obtain ⟨p, rfl⟩ := tooLong_of_wanted hwanted
      constructor
      · intro h
        obtain rfl := Except.error.inj h
        exact .search hwanted
      · rintro (hsearch | ⟨hwanted', -⟩ | ⟨hwanted', -⟩)
        · dsimp only
          rw [Except.error.inj (hwanted.symm.trans hsearch)]
        · exact nomatch hwanted.symm.trans hwanted'
        · exact nomatch hwanted.symm.trans hwanted'
  | ok ds =>
      cases ds with
      | cons d ds => exact value_processAll_eq_error_iff hwanted
      | nil =>
          constructor
          · intro h
            exact nomatch h
          · rintro (hsearch | ⟨hwanted', hds, -⟩ | ⟨hwanted', -, -, hsome, -⟩)
            · exact nomatch hwanted.symm.trans hsearch
            · obtain rfl := Except.ok.inj (hwanted.symm.trans hwanted')
              exact absurd hds.symm (List.append_ne_nil_of_right_ne_nil _ (List.cons_ne_nil _ _))
            · obtain rfl := Except.ok.inj (hwanted.symm.trans hwanted')
              exact absurd hsome (Nat.lt_irrefl 0)

/-- A run reports on its directories, unless it breaks off: every directory that is there has a
line, in order, every directory is counted once, and the exit code is that of a failure exactly when
some directory has failed.  It breaks off only for a path that is too long, or for a root README
that cannot be read; then the lines about the directories have been printed, and no summary. -/
theorem process_reports (a : Arguments) (s : Settings) (w : Workspace) :
    (∀ i, (process a ⟨w, { settings := s }⟩).value.1 = .error i ↔ BreaksOff a s w i) ∧
    (∀ ds, wanted a s w = .ok ds →
      (results a s w ds).map (·.directory) = ds.filter (isPresent w) ∧
      succeeded a s w ds + failed a s w ds = ds.length) ∧
    ∀ r, (process a ⟨w, { settings := s }⟩).value.1 = .ok r → ∃ ds, wanted a s w = .ok ds ∧
      (results a s w ds).map (·.directory) = ds.filter (isPresent w) ∧
      succeeded a s w ds + failed a s w ds = ds.length ∧
      r.output = printed (announced a ds ++ closingLines a s w ds) ∧
      r.exitCode = if 0 < failed a s w ds then 1 else 0 := by
  have hcounted : ∀ ds, wanted a s w = .ok ds →
      (results a s w ds).map (·.directory) = ds.filter (isPresent w) ∧
      succeeded a s w ds + failed a s w ds = ds.length := by
    intro ds hwanted
    obtain ⟨hdirectories, -, -, hcount⟩ := succeeded_add_failed hwanted
    exact ⟨hdirectories, hcount⟩
  refine ⟨process_eq_error_iff a s w, hcounted, ?_⟩
  intro r hr
  -- a run that returned did not break off anywhere
  have hbroken := fun e => (process_eq_error_iff a s w e).not.mp
    fun herror => nomatch hr.symm.trans herror
  rw [value_process] at hr
  cases hwanted : wanted a s w with
  | error f =>
      obtain ⟨p, rfl⟩ := tooLong_of_wanted hwanted
      exact absurd (.search hwanted) (hbroken _)
  | ok ds =>
      rw [hwanted] at hr
      obtain ⟨hdirectories, hcount⟩ := hcounted ds hwanted
      refine ⟨ds, rfl, hdirectories, hcount, ?_⟩
      cases ds with
      | nil =>
          obtain rfl := Except.ok.inj hr
          exact ⟨rfl, rfl⟩
      | cons d ds =>
          dsimp only at hr
          cases htold : presentAndMissing w (d :: ds) with
          | error f => exact nomatch hr.symm.trans (value_processAll_error htold)
          | ok told =>
              rw [value_processAll hwanted (forall_of_presentAndMissing htold)] at hr
              obtain ⟨-, -, rfl⟩ := Except.map_eq_ok_iff.mp hr
              rw [report_eq hwanted]
              exact ⟨by rw [closingLines, if_neg (List.cons_ne_nil d ds), List.append_assoc], rfl⟩

/-- A checkout with one module, and above it a README that is no text. -/
def unreadableRoot : Workspace where
  tree :=
    (((Tree.empty.put ["README.md"] (.file [0xff]) hasRoom_readmeName).put
      ["base"] .directory (by decide +kernel)).put
      ["base", "store"] .directory (by decide +kernel)).put
      ["base", "store", "main.tf"] (.file (utf8 "variable \"name\" \x7b\x7d"))
        (by decide +kernel)
  cwd := []
  git := .silent
  chat := fun _ => .noChoices

/-- The run over all modules breaks off after the line about its module, although there is a README
for it.  A run on a directory that is missing reports it. -/
theorem process_reports_unreadableRoot :
    (process { all := true, baseDir := "base" }
        ⟨unreadableRoot, { settings := { describerType := "heuristic" } }⟩).value.1
      = .error ⟨"Found 1 module(s) in base\nOK      base/store/README.md\n",
          .decode (.utf8 ⟨.badStart, 0, 1, 0xff⟩)⟩ ∧
    (process { directories := ["shop"] }
        ⟨unreadableRoot, { settings := { describerType := "heuristic" } }⟩).value.1
      = .ok ⟨1, "Summary: 0 succeeded, 1 failed\n"⟩ := by
  obtain ⟨hbreaks, -⟩ := process_reports { all := true, baseDir := "base" }
    { describerType := "heuristic" } unreadableRoot
  obtain ⟨-, -, hreports⟩ := process_reports { directories := ["shop"] }
    { describerType := "heuristic" } unreadableRoot
  constructor
  · have hwanted : wanted { all := true, baseDir := "base" } { describerType := "heuristic" }
        unreadableRoot = .ok [Path.ofText "base/store"] := by decide +kernel
    have hstore : unreadableRoot.hasDirectory (Path.ofText "base/store") = .ok true := by
      decide +kernel
    have hsome : 0 < succeeded { all := true, baseDir := "base" } { describerType := "heuristic" }
        unreadableRoot [Path.ofText "base/store"] := by decide +kernel
    have hroot : Generate.canReadRoot unreadableRoot "base"
        = .error (.decode (.utf8 ⟨.badStart, 0, 1, 0xff⟩)) := by decide +kernel
    have hlines : printed (statusLines (announced { all := true, baseDir := "base" }
        [Path.ofText "base/store"]) (results { all := true, baseDir := "base" }
          { describerType := "heuristic" } unreadableRoot [Path.ofText "base/store"]))
        = "Found 1 module(s) in base\nOK      base/store/README.md\n" := by decide +kernel
    refine (hbreaks _).mpr ?_
    rw [← hlines]
    exact .root hwanted (List.forall_mem_singleton.mpr ⟨true, hstore⟩) rfl hsome hroot
  · have hok : (process { directories := ["shop"] }
        ⟨unreadableRoot, { settings := { describerType := "heuristic" } }⟩).value.1.toOption.isSome
          = true := by decide +kernel
    cases hr : (process { directories := ["shop"] }
        ⟨unreadableRoot, { settings := { describerType := "heuristic" } }⟩).value.1 with
    | error e =>
        rw [hr] at hok
        exact nomatch hok
    | ok r =>
        obtain ⟨ds, hwanted, -, -, houtput, hcode⟩ := hreports r hr
        obtain rfl := Except.ok.inj hwanted
        obtain ⟨code, output⟩ := r
        dsimp only at houtput hcode
        rw [houtput, hcode]
        decide +kernel

end CommandLine

end ModuleDocs
