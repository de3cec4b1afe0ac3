import NetPlan.Model.Basic

/-!
# Parts of models

A **part** of a model is whatever stands somewhere below it, with its own name there
(`Model.parts`). Facts on all models are proved by the induction that goes from the children of a
composite to the composite (`Model.induction`).
-/

namespace NetPlan.Model

/-- What holds of all leaves, and of a composite if it holds of each of its children, holds of all
models. -/
@[elab_as_elim, induction_eliminator]
theorem induction {motive : Model → Prop} (leaf : ∀ id op, motive (leaf id op))
    (composite : ∀ id wiring children, (∀ child ∈ children, motive child.2) →
      motive (composite id wiring children)) (m : Model) : motive m :=
  @Model.rec motive (fun children => ∀ child ∈ children, motive child.2)
    (fun child => motive child.2) leaf composite (by simp) (fun _ _ hchild hrest => List.forall_mem_cons.mpr ⟨hchild, hrest⟩)
    (fun _ _ h => h) m

mutual

/-- The parts of a model, each with its name. -/
def parts : Model → List (String × Model)
  | leaf _ _ => []
  | composite _ _ children => partsOfAll children
termination_by structural m => m

/-- Some children and their parts. -/
def partsOfAll : List (String × Model) → List (String × Model)
  | [] => []
  | (name, child) :: rest => (name, child) :: parts child ++ partsOfAll rest
termination_by structural children => children

end

variable {id : Nat} {wiring : Wiring} {children : List (String × Model)} {part : String × Model}
  {x : Model}

/-- The parts of some children are the children, with all that stands below each. -/
theorem mem_partsOfAll_iff :
    part ∈ partsOfAll children ↔ part ∈ children ∨ ∃ child ∈ children, part ∈ child.2.parts := by
  induction children with
  | nil => simp [partsOfAll]
  | cons child rest ih =>
    simp only [partsOfAll, List.cons_append, List.mem_cons, List.mem_append, ih,
      exists_eq_or_imp, or_assoc]
    rw [or_left_comm (a := part ∈ child.2.parts)]

theorem mem_parts_composite_iff :
    part ∈ (composite id wiring children).parts ↔
      part ∈ children ∨ ∃ child ∈ children, part ∈ child.2.parts :=
  mem_partsOfAll_iff

/-- A model and all that stands below it. -/
def modules (m : Model) : List Model :=
  m :: m.parts.map (·.2)

theorem mem_modules_self (m : Model) : m ∈ m.modules :=
  List.mem_cons_self

/-- Below a composite stand its children with what stands below them. -/
theorem mem_map_parts_composite_iff :
    x ∈ (composite id wiring children).parts.map (·.2) ↔
      ∃ child ∈ children, x ∈ child.2.modules := by
  simp only [List.mem_map, mem_parts_composite_iff, modules, List.mem_cons]
  constructor
  · rintro ⟨part, hpart | ⟨child, hchild, hpart⟩, rfl⟩
    · exact ⟨part, hpart, .inl rfl⟩
    · exact ⟨child, hchild, .inr ⟨part, hpart, rfl⟩⟩
  · rintro ⟨child, hchild, rfl | ⟨part, hpart, rfl⟩⟩
    · exact ⟨child, .inl hchild, rfl⟩
    · exact ⟨part, .inr ⟨child, hchild, hpart⟩, rfl⟩

end NetPlan.Model
