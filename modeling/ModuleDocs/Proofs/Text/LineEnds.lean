import ModuleDocs.Proofs.Text.Occurrences
import ModuleDocs.Text.Utf8

/-! # Line ends of files

    Reading a file makes a newline of every line end, be it a carriage
    return, a newline, or both, and writing it keeps the newlines.  Two parts
    of a text are read each on its own unless a line end lies across them.
    So the bytes of a part that was read and written are the bytes that were
    there exactly if the part holds no carriage return. -/

namespace ModuleDocs.Text

variable {t u v : Text} {c : Char}

/-! ## Parts -/

/-- A character that ends no line with what stands before it is read as itself. -/
theorem withNewlines_append_cons (hc : c ≠ '\n') (u t : Text) :
    withNewlines (u ++ c :: t) = withNewlines u ++ withNewlines (c :: t) := by
  fun_induction withNewlines u with
  | case1 => rfl
  | case2 u ih => exact congrArg ('\n' :: ·) ih
  | case3 d u hline ih =>
      have hpair : ∀ w, d = '\r' → u ++ c :: t = '\n' :: w → False := by
        intro w hd hw
        cases u with
        | nil => exact hc (List.cons.inj hw).1
        | cons e u => exact hline u hd (by rw [(List.cons.inj hw).1])
      rw [List.cons_append, withNewlines.eq_3 _ _ hpair, ih, List.cons_append]

/-- A part without carriage returns is read as it is, whatever follows. -/
theorem withNewlines_append_of_not_mem (h : '\r' ∉ u) (t : Text) :
    withNewlines (u ++ t) = u ++ withNewlines t := by
  induction u with
  | nil => rfl
  | cons c u ih =>
      have hc : c ≠ '\r' := fun hc => h (hc ▸ List.mem_cons_self)
      have hu : '\r' ∉ u := fun hm => h (List.mem_cons_of_mem c hm)
      rw [List.cons_append, withNewlines.eq_3 _ _ fun _ hd => absurd hd hc, if_neg hc, ih hu,
        List.cons_append]

/-- A carriage return is read as a newline, alone or with the newline behind it. -/
theorem exists_withNewlines_return (t : Text) : ∃ rest, withNewlines ('\r' :: t) = '\n' :: rest := by
  cases t with
  | nil => exact ⟨[], rfl⟩
  | cons c t =>
      by_cases hc : c = '\n'
      · subst hc
        exact ⟨withNewlines t, rfl⟩
      · exact ⟨withNewlines (c :: t), withNewlines_append_cons hc ['\r'] t⟩

/-- What stands behind the last carriage return is read as it is. -/
theorem exists_withNewlines_append_return (ht : '\r' ∉ t) (u : Text) :
    ∃ front, withNewlines (u ++ '\r' :: t) = front ++ t := by
  rw [withNewlines_append_cons (by decide)]
  cases t with
  | nil => exact ⟨withNewlines u ++ ['\n'], (List.append_nil _).symm⟩
  | cons c t =>
      by_cases hc : c = '\n'
      · subst hc
        have hrest : withNewlines ('\r' :: '\n' :: t) = '\n' :: t :=
          congrArg ('\n' :: ·) (withNewlines_eq_self fun hm => ht (List.mem_cons_of_mem _ hm))
        exact ⟨withNewlines u, by rw [hrest]⟩
      · have hrest : withNewlines ('\r' :: c :: t) = '\n' :: withNewlines (c :: t) :=
          withNewlines_append_cons hc ['\r'] t
        refine ⟨withNewlines u ++ ['\n'], ?_⟩
        rw [hrest, withNewlines_eq_self ht, List.append_assoc]
        rfl

/-! ## Bytes -/

theorem utf8_append (t u : Text) : utf8 (t ++ u) = utf8 t ++ utf8 u := List.flatMap_append

/-- Every character takes a byte. -/
theorem utf8_ne_nil (h : t ≠ []) : utf8 t ≠ [] := by
  obtain ⟨c, t, rfl⟩ := List.exists_cons_of_ne_nil h
  intro hnil
  have hfirst := List.map_eq_nil_iff.mp (List.flatMap_eq_nil_iff.mp hnil c List.mem_cons_self)
  unfold utf8Bytes at hfirst
  split_ifs at hfirst

/-- The byte of a carriage return occurs in the bytes of no other character. -/
theorem not_mem_utf8 (h : '\r' ∉ t) : (13 : UInt8) ∉ utf8 t := by
  intro hmem
  obtain ⟨c, hc, hbyte⟩ := List.mem_flatMap.mp hmem
  obtain ⟨b, hb, heq⟩ := List.mem_map.mp hbyte
  have hsmall : b < 256 → b = 13 := by
    intro hlt
    have hnat := congrArg UInt8.toNat heq
    simpa [Nat.mod_eq_of_lt hlt] using hnat
  have hnat : c.toNat = 13 := by
    have hbounds := toNat_bounds c
    unfold utf8Bytes at hb
    split_ifs at hb <;> simp only [List.mem_cons, List.not_mem_nil, or_false] at hb <;> omega
  have hreturn : c = '\r' := Char.toNat_inj.mp hnat
  exact h (hreturn ▸ hc)

/-- The bytes before a mark are kept by reading and writing exactly if there is no carriage return
among them. -/
theorem utf8_prefix_iff (u : Text) (rest : List UInt8) :
    utf8 u <+: utf8 (withNewlines u) ++ rest ↔ '\r' ∉ u := by
  constructor
  · intro h hmem
    obtain ⟨x, y, rfl, hx⟩ := List.eq_append_cons_of_mem hmem
    obtain ⟨z, hz⟩ := exists_withNewlines_return y
    rw [withNewlines_append_of_not_mem hx, hz, utf8_append, utf8_append, List.append_assoc,
      List.prefix_append_right_inj] at h
    exact nomatch (List.cons_prefix_cons.mp h).1
  · intro h
    rw [withNewlines_eq_self h]
    exact List.prefix_append _ _

/-- The bytes behind a mark are kept by reading and writing exactly if there is no carriage return
among them. -/
theorem utf8_suffix_iff {mark : Text} (hne : mark ≠ []) (hmark : '\r' ∉ mark) (u : Text)
    (rest : List UInt8) :
    utf8 (mark ++ u) <:+ rest ++ utf8 (mark ++ withNewlines u) ↔ '\r' ∉ u := by
  constructor
  · intro h hmem
    obtain ⟨y, x, hlast, hy⟩ := List.eq_append_cons_of_mem (List.mem_reverse.mpr hmem)
    obtain rfl : u = x.reverse ++ '\r' :: y.reverse := by
      rw [← List.reverse_reverse u, hlast]
      simp
    obtain ⟨front, hfront⟩ := exists_withNewlines_append_return
      (fun hm => hy (List.mem_reverse.mp hm)) x.reverse
    have hkept : '\r' ∉ mark ++ front := by
      refine fun hm => (List.mem_append.mp hm).elim hmark fun hm => ?_
      exact not_mem_withNewlines _ (hfront ▸ List.mem_append_left _ hm)
    -- behind the last carriage return both sides agree, so it would have to be kept
    have hold : utf8 (mark ++ (x.reverse ++ '\r' :: y.reverse))
        = utf8 (mark ++ x.reverse) ++ [13] ++ utf8 y.reverse := by
      rw [← List.append_assoc, utf8_append, List.append_assoc]
      rfl
    have hnew : rest ++ utf8 (mark ++ (front ++ y.reverse))
        = rest ++ utf8 (mark ++ front) ++ utf8 y.reverse := by
      rw [← List.append_assoc mark, utf8_append, List.append_assoc]
    rw [hfront, hold, hnew] at h
    obtain ⟨before, hbefore⟩ := h
    rw [← List.append_assoc, List.append_left_inj] at hbefore
    have hlast := congrArg List.getLast? hbefore
    rw [← List.append_assoc, List.getLast?_concat] at hlast
    rw [List.getLast?_append_of_ne_nil _
      (utf8_ne_nil (List.append_ne_nil_of_left_ne_nil hne front))] at hlast
    exact not_mem_utf8 hkept (List.mem_of_getLast? hlast.symm)
  · intro h
    rw [withNewlines_eq_self h]
    exact List.suffix_append _ _

end ModuleDocs.Text
