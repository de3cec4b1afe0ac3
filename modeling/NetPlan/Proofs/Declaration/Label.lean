import NetPlan.Proofs.Declaration.Reading
import NetPlan.Proofs.Declaration.Refusal

/-!
# Labels and the tags they take

The value of a declaration gives its layer a label, a kind and a tag. Seen from the labels before
it, a label can clash in three ways (`Label.Clashes`): a shared layer gives no tag, or one that none
of them takes, or another layer takes a tag anew. `tagsOf` are the tags that labels take, by
position and without a registry that is handed on.

On the registry of the labels before it, a tag is turned down if and only if its label clashes; else
the registry behind it is the one of all labels so far (`Label.resolve_of_clashes`,
`Label.resolve_of_not_clashes`).
-/

namespace NetPlan

/-- What the value of a declaration says of its layer; the tag is empty if there is none. -/
structure Label where
  kind : Kind
  tag : String
deriving DecidableEq, Repr

namespace Label

/-- The label that a value writes. -/
def read (value : String) : Except Fault Label := do
  let designation ← Designation.read value
  let kind ← Kind.named designation.kindName
  return { kind, tag := designation.tag }

/-- The layer takes a tag for itself, so that shared layers can name it. -/
def Takes (x : Label) (tag : String) : Prop :=
  x.kind.isShared = false ∧ x.tag = tag

instance (x : Label) (tag : String) : Decidable (x.Takes tag) :=
  inferInstanceAs (Decidable (_ ∧ _))

/-- The label cannot stand behind others: it is shared and gives no tag, or one that none of them
takes, or it is not shared and gives a tag that one of them takes. -/
def Clashes (x : Label) (before : List Label) : Prop :=
  (x.kind.isShared = true ∧ x.tag = "") ∨
    (x.kind.isShared = true ∧ ∀ y ∈ before, ¬ y.Takes x.tag) ∨
    (x.kind.isShared = false ∧ x.tag ≠ "" ∧ ∃ y ∈ before, y.Takes x.tag)

instance (x : Label) (before : List Label) : Decidable (x.Clashes before) :=
  inferInstanceAs (Decidable (_ ∨ _ ∨ _))

/-- What the primary layer of a layer is behind others: the place of one that takes the tag for a
shared layer, and none for any other. -/
def PointsAt (x : Label) (before : List Label) (primary : Int) : Prop :=
  (x.kind.isShared = false → primary = -1) ∧
    (x.kind.isShared = true →
      ∃ (j : Nat) (y : Label), primary = j ∧ before[j]? = some y ∧ y.Takes x.tag)

end Label

/-! ### Tags by position -/

/-- The tags that labels take, each with the place of its label. -/
def tagsOf (labels : List Label) : Registry :=
  (labels.zipIdx.filter fun (x, _) => x.Takes x.tag ∧ x.tag ≠ "").map fun (x, i) =>
    (x.tag, (i : Int))

variable {labels before : List Label} {x y : Label} {tag : String} {i j k : Nat}

theorem tagsOf_concat (labels : List Label) (x : Label) :
    tagsOf (labels ++ [x]) =
      tagsOf labels ++
        if x.Takes x.tag ∧ x.tag ≠ "" then [(x.tag, (labels.length : Int))] else [] := by
  rw [tagsOf, List.zipIdx_append, List.filter_append, List.map_append, ← tagsOf]
  congr 1
  by_cases h : x.Takes x.tag ∧ x.tag ≠ ""
  · simp [h]
  · simp [h]

/-- A tag leads to the places of the labels that take it. -/
theorem mem_tagsOf_iff {index : Int} :
    (tag, index) ∈ tagsOf labels ↔
      tag ≠ "" ∧ ∃ (j : Nat) (y : Label), index = j ∧ labels[j]? = some y ∧ y.Takes tag := by
  simp only [tagsOf, List.mem_map, List.mem_filter, decide_eq_true_eq, Prod.exists, Prod.mk.injEq]
  constructor
  · rintro ⟨y, j, ⟨hmem, htakes, hne⟩, rfl, rfl⟩
    exact ⟨hne, j, y, rfl, List.mk_mem_zipIdx_iff_getElem?.mp hmem, htakes⟩
  · rintro ⟨hne, j, y, rfl, hy, hplain, rfl⟩
    exact ⟨y, j, ⟨List.mk_mem_zipIdx_iff_getElem?.mpr hy, ⟨hplain, rfl⟩, hne⟩, rfl, rfl⟩

/-- A tag is free in the registry of some labels if none of them takes it. -/
theorem index?_tagsOf_eq_none_iff (htag : tag ≠ "") :
    (tagsOf labels).index? tag = none ↔ ∀ y ∈ labels, ¬ y.Takes tag := by
  rw [Registry.index?_eq_none_iff, List.mem_map]
  constructor
  · intro hfree y hy htakes
    obtain ⟨j, hj⟩ := List.mem_iff_getElem?.mp hy
    exact hfree ⟨(tag, j), mem_tagsOf_iff.mpr ⟨htag, j, y, rfl, hj, htakes⟩, rfl⟩
  · rintro hnone ⟨⟨tag, index⟩, hmem, rfl⟩
    obtain ⟨-, j, y, -, hj, htakes⟩ := mem_tagsOf_iff.mp hmem
    exact hnone y (List.mem_of_getElem? hj) htakes

/-! ### Clashes in a list -/

/-- Behind some labels come others, and one of them clashes with those before it. -/
def HasClash (before labels : List Label) : Prop :=
  ∃ (k : Nat) (x : Label), labels[k]? = some x ∧ x.Clashes (before ++ labels.take k)

theorem not_hasClash_nil (before : List Label) : ¬ HasClash before [] := by
  rintro ⟨k, x, hx, -⟩
  simp at hx

/-- There is a clash if the first label clashes, or if there is one among the others behind it. -/
theorem hasClash_cons_iff :
    HasClash before (x :: labels) ↔ x.Clashes before ∨ HasClash (before ++ [x]) labels := by
  constructor
  · rintro ⟨k, y, hy, hclash⟩
    cases k with
    | zero =>
      obtain rfl := Option.some.inj hy
      exact .inl (by simpa using hclash)
    | succ k => exact .inr ⟨k, y, hy, by simpa using hclash⟩
  · rintro (hclash | ⟨k, y, hy, hclash⟩)
    · exact ⟨0, x, rfl, by simpa using hclash⟩
    · exact ⟨k + 1, y, hy, by simpa using hclash⟩

instance decidableHasClash : ∀ before labels : List Label, Decidable (HasClash before labels)
  | before, [] => isFalse (not_hasClash_nil before)
  | before, x :: labels =>
    have := decidableHasClash (before ++ [x]) labels
    decidable_of_iff _ hasClash_cons_iff.symm

/-- If no label clashes with those before it, a tag is taken once. -/
theorem Label.Takes.eq_of_not_hasClash (h : ¬ HasClash [] labels) (htag : tag ≠ "")
    (hi : labels[i]? = some x) (hx : x.Takes tag) (hj : labels[j]? = some y) (hy : y.Takes tag) :
    i = j := by
  -- the later of two labels with one tag would clash with the earlier one
  have hle {i j : Nat} {x y : Label} (hi : labels[i]? = some x) (hx : x.Takes tag)
      (hj : labels[j]? = some y) (hy : y.Takes tag) : j ≤ i := by
    refine Nat.le_of_not_lt fun hlt => h ⟨j, y, hj, ?_⟩
    obtain ⟨hplain, rfl⟩ := hy
    have hbefore : x ∈ labels.take j :=
      List.mem_of_getElem? ((List.getElem?_take_of_lt hlt).trans hi)
    exact .inr (.inr ⟨hplain, htag, x, hbefore, hx⟩)
  exact Nat.le_antisymm (hle hj hy hi hx) (hle hi hx hj hy)

/-! ### Resolving a tag -/

namespace Label

open Declaration

/-- Behind labels that it clashes with, a label is turned down for its tag. -/
theorem resolve_of_clashes (h : x.Clashes before) (index : Int) :
    ∃ f, resolve x.kind x.tag index (tagsOf before) = .error f ∧ f.category = .tag := by
  obtain ⟨hshared, htag⟩ | ⟨hshared, hnone⟩ | ⟨hplain, htag, y, hy, htakes⟩ := h
  · exact ⟨_, resolve_eq_error_iff.mpr (.inl ⟨hshared, htag, rfl⟩), rfl⟩
  · by_cases htag : x.tag = ""
    · exact ⟨_, resolve_eq_error_iff.mpr (.inl ⟨hshared, htag, rfl⟩), rfl⟩
    · have hfree := (index?_tagsOf_eq_none_iff htag).mpr hnone
      exact ⟨_, resolve_eq_error_iff.mpr (.inr (.inl ⟨hshared, htag, hfree, rfl⟩)), rfl⟩
  · have htaken : ((tagsOf before).index? x.tag).isSome := by
      rw [Option.isSome_iff_ne_none]
      exact fun hfree => (index?_tagsOf_eq_none_iff htag).mp hfree y hy htakes
    exact ⟨_, resolve_eq_error_iff.mpr (.inr (.inr ⟨hplain, htag, htaken, rfl⟩)), rfl⟩

/-- Behind labels that it does not clash with, a label points at what its tag names, and its own tag
joins theirs. -/
theorem resolve_of_not_clashes (h : ¬ x.Clashes before) :
    ∃ primary, resolve x.kind x.tag before.length (tagsOf before) =
      .ok (primary, tagsOf (before ++ [x])) ∧ x.PointsAt before primary := by
  obtain ⟨hmissing, hunknown, htaken⟩ : ¬_ ∧ ¬_ ∧ ¬_ := by simpa only [Clashes, not_or] using h
  rw [tagsOf_concat]
  cases hkind : x.kind.isShared with
  | true =>
    -- the registry stays as it is, and the tag is in it
    have htag : x.tag ≠ "" := fun htag => hmissing ⟨hkind, htag⟩
    have hnotakes : ¬ x.Takes x.tag := by simp [Takes, hkind]
    cases hindex : (tagsOf before).index? x.tag with
    | none => exact absurd ⟨hkind, (index?_tagsOf_eq_none_iff htag).mp hindex⟩ hunknown
    | some primary =>
      obtain ⟨-, j, y, hj⟩ := mem_tagsOf_iff.mp (Registry.mem_of_index? hindex)
      refine ⟨primary, resolve_eq_ok_iff.mpr (.inl ⟨hkind, htag, hindex, ?_⟩), ?_⟩
      · rw [if_neg fun hown => hnotakes hown.1, List.append_nil]
      · exact ⟨by simp [hkind], fun _ => ⟨j, y, hj⟩⟩
  | false =>
    have hpoints : x.PointsAt before (-1) := ⟨fun _ => rfl, by simp [hkind]⟩
    refine ⟨-1, resolve_eq_ok_iff.mpr ?_, hpoints⟩
    by_cases htag : x.tag = ""
    · refine .inr (.inl ⟨hkind, htag, rfl, ?_⟩)
      rw [if_neg fun hown => hown.2 htag, List.append_nil]
    · -- a tag that nobody takes so far joins the registry at its end
      have hfree : (tagsOf before).index? x.tag = none :=
        (index?_tagsOf_eq_none_iff htag).mpr fun y hy htakes => htaken ⟨hkind, htag, y, hy, htakes⟩
      refine .inr (.inr ⟨hkind, htag, hfree, rfl, ?_⟩)
      rw [if_pos ⟨⟨hkind, rfl⟩, htag⟩]
      rfl

end Label

/-! ### Reading a declaration -/

namespace Declaration

variable {e : Entry} {top index a b : Int}

/-- A declaration with a link and a label is read as its tag is resolved. -/
theorem read_of_label (tags : Registry) (hlink : Link.read e.key top = .ok (a, b))
    (hlabel : Label.read e.value = .ok x) :
    read e top index tags = (resolve x.kind x.tag index tags).map fun (primary, tags) =>
      ({ kind := x.kind, inputs := [a], outputs := [b], primary }, tags) := by
  obtain ⟨d, hd, hlabel⟩ := bind_eq_ok_iff.mp hlabel
  obtain ⟨kind, hkind, hx⟩ := bind_eq_ok_iff.mp hlabel
  obtain rfl := pure_eq_ok_iff.mp hx
  rw [read, hlink]
  simp only [bind, Except.bind, hd, hkind]
  cases resolve kind d.tag index tags <;> rfl

/-- Behind labels that its own one clashes with, a declaration is turned down for its tag. -/
theorem read_of_clashes (hlink : Link.read e.key top = .ok (a, b))
    (hlabel : Label.read e.value = .ok x) (h : x.Clashes before) (index : Int) :
    ∃ f, read e top index (tagsOf before) = .error f ∧ f.category = .tag := by
  obtain ⟨f, hresolve, hcat⟩ := Label.resolve_of_clashes h index
  refine ⟨f, ?_, hcat⟩
  rw [read_of_label _ hlink hlabel, hresolve]
  rfl

/-- Behind labels that its own one does not clash with, a declaration gives a layer that points as
its label says. -/
theorem read_of_not_clashes (hlink : Link.read e.key top = .ok (a, b))
    (hlabel : Label.read e.value = .ok x) (h : ¬ x.Clashes before) :
    ∃ l, read e top before.length (tagsOf before) = .ok (l, tagsOf (before ++ [x])) ∧
      l.kind = x.kind ∧ l.outputs = [b] ∧ x.PointsAt before l.primary := by
  obtain ⟨primary, hresolve, hpoints⟩ := Label.resolve_of_not_clashes h
  refine ⟨{ kind := x.kind, inputs := [a], outputs := [b], primary }, ?_, rfl, rfl, hpoints⟩
  rw [read_of_label _ hlink hlabel, hresolve]
  rfl

end Declaration

end NetPlan
