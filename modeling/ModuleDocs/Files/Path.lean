import ModuleDocs.Text.Basic

/-! # Paths

    A path is a sequence of names, with a root before them when it is
    absolute.  Empty names and single dots are left out; two dots are kept,
    since what they stand for depends on the file tree.  The empty path is
    the current directory. -/

namespace ModuleDocs

/-- A path: its root (nothing, one slash, or exactly two) and its names. -/
structure Path where
  root : Text := []
  names : List Text := []
deriving DecidableEq, Repr

namespace Path

/-- The pieces that are names. -/
def namesIn (t : Text) : List Text := (Text.pieces '/' t).filter fun n => n ≠ [] && n ≠ ['.']

/-- The path that a text gives. -/
def ofText (t : Text) : Path :=
  let slashes := (t.takeWhile (· = '/')).length
  ⟨if slashes = 0 then [] else if slashes = 2 then ['/', '/'] else ['/'], namesIn t⟩

/-- The text of a path. -/
def toText (p : Path) : Text :=
  if p.root = [] ∧ p.names = [] then ['.'] else p.root ++ Text.join ['/'] p.names

/-- Whether the path begins at the root. -/
def isAbsolute (p : Path) : Bool := p.root ≠ []

/-- Whether a name holds a null character, which no file system allows. -/
def hasNull (p : Path) : Bool := p.names.any fun name => name.any (· = '\x00')

/-- The last name, empty when there is none. -/
def name (p : Path) : Text := (p.names.getLast?).getD []

/-- The path without its last name. -/
def parent (p : Path) : Path := { p with names := p.names.dropLast }

/-- The path of what stands below the directory. -/
def below (p : Path) (names : List Text) : Path := { p with names := p.names ++ names }

/-- The path of an entry of the directory. -/
def child (p : Path) (name : Text) : Path := p.below [name]

/-- Sequences of names are ordered name by name, a proper start before its extensions. -/
def namesLe : List Text → List Text → Bool
  | [], _ => true
  | _ :: _, [] => false
  | a :: s, b :: t => if a = b then namesLe s t else Text.le a b

theorem namesLe_cons_cons {a b : Text} {s t : List Text} :
    namesLe (a :: s) (b :: t) = true ↔
      (a ≠ b ∧ Text.le a b = true) ∨ (a = b ∧ namesLe s t = true) := by
  rw [namesLe]
  by_cases h : a = b <;> simp [h]

/-- Of two sequences of names one comes first. -/
theorem namesLe_total (s t : List Text) : (namesLe s t || namesLe t s) = true := by
  induction s generalizing t with
  | nil => simp [namesLe]
  | cons a s ih =>
      cases t with
      | nil => simp [namesLe]
      | cons b t =>
          rw [Bool.or_eq_true, namesLe_cons_cons, namesLe_cons_cons]
          by_cases hab : a = b
          · subst hab
            have := ih t
            rw [Bool.or_eq_true] at this
            rcases this with h | h
            · exact Or.inl (Or.inr ⟨rfl, h⟩)
            · exact Or.inr (Or.inr ⟨rfl, h⟩)
          · have := Text.le_total a b
            rw [Bool.or_eq_true] at this
            rcases this with h | h
            · exact Or.inl (Or.inl ⟨hab, h⟩)
            · exact Or.inr (Or.inl ⟨Ne.symm hab, h⟩)

/-- The order of names is transitive. -/
theorem namesLe_trans {s t u : List Text} (hst : namesLe s t = true) (htu : namesLe t u = true) :
    namesLe s u = true := by
  induction s generalizing t u with
  | nil => simp [namesLe]
  | cons a s ih =>
      cases t with
      | nil => simp [namesLe] at hst
      | cons b t =>
          cases u with
          | nil => simp [namesLe] at htu
          | cons c u =>
              rw [namesLe_cons_cons] at hst htu ⊢
              rcases hst with ⟨hab, h⟩ | ⟨rfl, h⟩
              · rcases htu with ⟨hbc, k⟩ | ⟨rfl, _⟩
                · refine Or.inl ⟨?_, Text.le_trans h k⟩
                  intro hac
                  subst hac
                  exact hab (Text.le_antisymm h k)
                · exact Or.inl ⟨hab, h⟩
              · rcases htu with ⟨hbc, k⟩ | ⟨rfl, k⟩
                · exact Or.inl ⟨hbc, k⟩
                · exact Or.inr ⟨rfl, ih h k⟩

/-- Paths are ordered by their names. -/
def le (p q : Path) : Bool := namesLe p.names q.names

/-- One name more, where two dots take one name away. -/
def step (names : List Text) (name : Text) : List Text :=
  if name = ['.', '.'] then names.dropLast else names ++ [name]

/-- The names from the root on, seen from a working directory, two dots taken away. -/
def resolve (cwd : List Text) (p : Path) : List Text :=
  p.names.foldl step (if p.isAbsolute then [] else cwd)

/-- The absolute path of a location. -/
def absolute (location : List Text) : Path := ⟨['/'], location⟩

/-- The names after a common start, when `base` is one. -/
def relative? : List Text → List Text → Option (List Text)
  | [], names => some names
  | _ :: _, [] => none
  | b :: base, n :: names => if b = n then relative? base names else none

/-- The way from one location to another: up to the last common directory, then down. -/
def between : List Text → List Text → List Text
  | a :: start, b :: target =>
    if a = b then between start target
    else List.replicate (start.length + 1) ['.', '.'] ++ b :: target
  | start, target => start.map (fun _ => ['.', '.']) ++ target

end Path

end ModuleDocs
