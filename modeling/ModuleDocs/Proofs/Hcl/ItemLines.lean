import ModuleDocs.Proofs.Hcl.HeaderWalk
import ModuleDocs.Proofs.Hcl.WrittenFields

/-! # The lines of written items

    Between headers the scan looks at the start of every line.  The lines of
    a written block begin with the word of an item or with a closing brace,
    so none of them opens with the keyword of a declaration.  And where the
    braces of every item balance, those of the block do. -/

namespace ModuleDocs.Hcl

open Text

variable {keyword : Text}

section Keyword

variable (hk : IsKeyword keyword) {margin : Text} (hmargin : ∀ c ∈ margin, isBlank c = true)
include hk hmargin

end Keyword

theorem isCalm_of_mem_fieldWords {word : Text} (h : word ∈ fieldWords) :
    ∀ c ∈ word, isCalm c = true := by
  have hall : ∀ w ∈ fieldWords, ∀ c ∈ w, isCalm c = true := by decide +kernel
  exact hall word h

/-- A margin is calm. -/
theorem isCalm_of_isBlank {c : Char} (h : isBlank c = true) : isCalm c = true := by
  simp only [isBlank, Bool.or_eq_true, decide_eq_true_eq] at h
  rcases h with rfl | rfl <;> decide

/-- An item whose value balances balances. -/
theorem nested_assign (m : BraceMode) {word value : Text} (hword : word ∈ fieldWords)
    (hvalue : Nested m value) : Nested m (Item.assign word value).text := by
  have hequals : Nested m [' ', '=', ' '] := nested_calm m (by decide)
  exact (nested_calm m (isCalm_of_mem_fieldWords hword)).append (hequals.append hvalue)

/-- Items that balance one under the other balance. -/
theorem nested_writeItems (m : BraceMode) {margin : Text} (hmargin : ∀ c ∈ margin, isBlank c = true)
    {items : List Item} (hitems : ∀ i ∈ items, Nested m i.text) :
    Nested m (writeItems margin items) := by
  induction items with
  | nil => exact nested_calm m (by simp [writeItems])
  | cons i items ih =>
      have hblank : Nested m margin := nested_calm m fun c hc => isCalm_of_isBlank (hmargin c hc)
      have hnewline : Nested m ['\n'] := nested_calm m (by decide)
      have hlater := ih fun j hj => hitems j (List.mem_cons_of_mem i hj)
      rw [writeItems_cons]
      exact (hblank.append (hitems i List.mem_cons_self)).append (hnewline.append hlater)

end ModuleDocs.Hcl
