import Mathlib.Order.MinMax

/-!
# Lists

Facts on lists of any elements, in the names of the library: places in a list that has grown at its
end (`List.getElem?_concat_eq_some_iff`), the beginning of a list whose elements are of one kind
(`List.span_append`), lists that are put together from pieces of one length, and the greatest of a
number and some others (`List.foldl_max_eq_or`).
-/

namespace List

variable {α β : Type} {x y : α} {xs ys : List α} {p q : α → Bool}

/-! ### Places -/

/-- What stands at a place of a list stands there in every list that begins with it. -/
theorem IsPrefix.getElem?_eq_some {i : Nat} (h : xs <+: ys) (hx : xs[i]? = some x) :
    ys[i]? = some x := by
  obtain ⟨zs, rfl⟩ := h
  rw [getElem?_append_left (getElem?_eq_some_iff.mp hx).1, hx]

/-- A list with one element more has its old elements where they were, and the new one behind
them. -/
theorem getElem?_concat_eq_some_iff {i : Nat} :
    (xs ++ [x])[i]? = some y ↔ xs[i]? = some y ∨ i = xs.length ∧ y = x := by
  rcases Nat.lt_trichotomy i xs.length with hi | rfl | hi
  · rw [getElem?_append_left hi]
    exact ⟨.inl, fun h => h.resolve_right fun hend => Nat.ne_of_lt hi hend.1⟩
  · rw [getElem?_concat_length, getElem?_eq_none (Nat.le_refl _)]
    simp [eq_comm]
  · have hlong : (xs ++ [x]).length ≤ i := by
      rw [length_append, length_singleton]
      omega
    rw [getElem?_eq_none hlong, getElem?_eq_none (Nat.le_of_lt hi)]
    simp [Nat.ne_of_gt hi]

/-- Tests that agree on all elements find the same place. -/
theorem findIdx?_congr (h : ∀ x ∈ xs, p x = q x) : xs.findIdx? p = xs.findIdx? q := by
  induction xs with
  | nil => rfl
  | cons x xs ih =>
    obtain ⟨hx, hxs⟩ := forall_mem_cons.mp h
    rw [findIdx?_cons, findIdx?_cons, hx, ih hxs]

/-! ### Pieces -/

/-- A list of one kind of elements ends where an element of another kind stands. -/
theorem span_append (ys : List α) (hxs : ∀ x ∈ xs, p x = true) (hys : ∀ y ∈ ys.head?, p y = false) :
    (xs ++ ys).takeWhile p = xs ∧ (xs ++ ys).dropWhile p = ys := by
  rw [takeWhile_append_of_pos hxs, dropWhile_append_of_pos hxs]
  cases ys with
  | nil => exact ⟨append_nil xs, rfl⟩
  | cons y ys =>
    have hy : p y = false := hys y rfl
    simp [hy]

/-- Pieces of one length together have a multiple of it. -/
theorem length_flatten_of_forall_length_eq {n : Nat} {xss : List (List α)}
    (h : ∀ xs ∈ xss, xs.length = n) : xss.flatten.length = n * xss.length := by
  induction xss with
  | nil => rfl
  | cons xs xss ih =>
    obtain ⟨hxs, hxss⟩ := forall_mem_cons.mp h
    rw [flatten_cons, length_append, hxs, ih hxss, length_cons, Nat.mul_succ, Nat.add_comm]

/-! ### Greatest values -/

variable [LinearOrder β]

/-- The greatest of a value and some others is not below the first one. -/
theorem le_foldl_max (f : α → β) (xs : List α) (b : β) :
    b ≤ xs.foldl (fun b x => max (f x) b) b := by
  induction xs generalizing b with
  | nil => exact le_refl b
  | cons x xs ih => exact (le_max_right (f x) b).trans (ih _)

/-- The greatest of a value and some others is not below any of the others. -/
theorem le_foldl_max_of_mem (f : α → β) (hx : x ∈ xs) (b : β) :
    f x ≤ xs.foldl (fun b x => max (f x) b) b := by
  induction xs generalizing b with
  | nil => cases hx
  | cons y xs ih =>
    rcases mem_cons.mp hx with rfl | hx
    · exact (le_max_left (f x) b).trans (le_foldl_max f xs _)
    · exact ih hx _

/-- The greatest of a value and some others is the value or one of the others. -/
theorem foldl_max_eq_or (f : α → β) (xs : List α) (b : β) :
    xs.foldl (fun b x => max (f x) b) b = b ∨
      ∃ x ∈ xs, xs.foldl (fun b x => max (f x) b) b = f x := by
  induction xs generalizing b with
  | nil => exact .inl rfl
  | cons x xs ih =>
    rcases ih (max (f x) b) with heq | ⟨y, hy, heq⟩
    · rcases max_choice (f x) b with hmax | hmax
      · exact .inr ⟨x, mem_cons_self, heq.trans hmax⟩
      · exact .inl (heq.trans hmax)
    · exact .inr ⟨y, mem_cons_of_mem x hy, heq⟩

end List
