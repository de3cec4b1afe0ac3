import NetPlan.Model.Path

/-!
# Names on a path

Names without dots are found again on the path that they are joined to, so a path of such names
tells them in order (`Path.names_join`).
-/

namespace NetPlan

/-- Whether a text can be the name of a part: it is not empty and has no dots. -/
structure IsName (name : String) : Prop where
  ne_empty : name ≠ ""
  no_dot : '.' ∉ name.toList

instance (name : String) : Decidable (IsName name) :=
  decidable_of_iff (name ≠ "" ∧ '.' ∉ name.toList) ⟨fun h => ⟨h.1, h.2⟩, fun h => ⟨h.1, h.2⟩⟩

namespace Path

theorem splitDots_ne_nil (cs : List Char) : splitDots cs ≠ [] := by
  cases cs with
  | nil => exact List.cons_ne_nil _ _
  | cons c rest =>
    rw [splitDots]
    split
    · exact List.cons_ne_nil _ _
    · split <;> exact List.cons_ne_nil _ _

/-- A text without dots is a single name. -/
theorem splitDots_of_no_dot {cs : List Char} (h : '.' ∉ cs) : splitDots cs = [cs] := by
  induction cs with
  | nil => rfl
  | cons c rest ih =>
    obtain ⟨hc, hrest⟩ := not_or.mp (mt List.mem_cons.mpr h)
    rw [splitDots, if_neg (Ne.symm hc), ih hrest]

/-- A text is cut at a dot. -/
theorem splitDots_append (cs ds : List Char) :
    splitDots (cs ++ '.' :: ds) = splitDots cs ++ splitDots ds := by
  induction cs with
  | nil => simp [splitDots]
  | cons c rest ih =>
    rw [List.cons_append, splitDots, splitDots, ih]
    by_cases hc : c = '.'
    · rw [if_pos hc, if_pos hc, List.cons_append]
    · rw [if_neg hc, if_neg hc]
      obtain ⟨piece, pieces, hpieces⟩ := List.exists_cons_of_ne_nil (splitDots_ne_nil rest)
      rw [hpieces]
      rfl

/-- The names on the path of a child are those on the path of its parent, and its own. -/
theorem names_join (path : String) {name : String} (hname : IsName name) :
    names (join path name) = names path ++ [name] := by
  have hown : splitDots name.toList = [name.toList] := splitDots_of_no_dot hname.no_dot
  by_cases hpath : path = ""
  · rw [join, if_pos hpath, names, if_neg hname.ne_empty, names, if_pos hpath, hown]
    simp
  · have hjoined : path ++ "." ++ name ≠ "" := by simp
    have hlist : (path ++ "." ++ name).toList = path.toList ++ '.' :: name.toList := by simp
    rw [join, if_neg hpath, names, if_neg hjoined, hlist, splitDots_append, hown, names,
      if_neg hpath]
    simp

theorem join_ne_empty (path : String) {name : String} (hname : name ≠ "") :
    join path name ≠ "" := by
  unfold join
  split
  · exact hname
  · simp

end Path

end NetPlan
