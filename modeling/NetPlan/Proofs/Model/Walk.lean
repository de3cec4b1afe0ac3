import Mathlib.Data.List.Nodup
import NetPlan.Model.Trace
import NetPlan.Proofs.Model.WellFormed

/-!
# Trees of distinct modules

A model whose modules are pairwise distinct is a plain tree. Registration then leaves nothing out:
it lists the whole tree in pre-order, each module with its path (`Model.registered_eq_walk`), and
the module tells the path (`Model.pathOf?_of_mem`).

A model is a **chain** if all its composites run their children in order, however deep they are
nested (`Model.IsChain`). The trace of a chain calls the leaves of the tree in this order too, and
does not halt (`Model.tracePart_of_isChain`).
-/

namespace NetPlan.Model

mutual

/-- The modules of a model in pre-order, each with its path; `path` is the path of the model. -/
def walk (path : String) : Model → List (String × Model)
  | leaf id op => [(path, leaf id op)]
  | composite id wiring children => (path, composite id wiring children) :: walkAll path children
termination_by structural m => m

/-- The same for some children; `path` is the path of their parent. -/
def walkAll (path : String) : List (String × Model) → List (String × Model)
  | [] => []
  | (name, child) :: rest => walk (Path.join path name) child ++ walkAll path rest
termination_by structural children => children

end

/-- All composites of the model run their children in order. -/
inductive IsChain : Model → Prop
  | leaf (id : Nat) (op : Operator) : IsChain (.leaf id op)
  | inOrder (id : Nat) {children : List (String × Model)}
      (hchildren : ∀ child ∈ children, IsChain child.2) : IsChain (.composite id .inOrder children)

/-- The call of a leaf. -/
def call? : Model → Option Call
  | leaf id op => some (.leaf id op)
  | composite _ _ _ => none

variable {m : Model} {children : List (String × Model)} {listed : List (String × Model)}
  {e : String × Model}

/-! ### Walks -/

/-- A walk meets the modules of a model. -/
theorem map_snd_walk (path : String) (m : Model) : (walk path m).map (·.2) = m.modules := by
  induction m generalizing path with
  | leaf id op => rfl
  | composite id wiring children ih =>
    have hall : (walkAll path children).map (·.2) = (partsOfAll children).map (·.2) := by
      clear * - ih
      induction children with
      | nil => rfl
      | cons child rest ihrest =>
        obtain ⟨hchild, hrest⟩ := List.forall_mem_cons.mp ih
        rw [walkAll, partsOfAll, List.map_append, hchild, ihrest hrest, List.map_append]
        rfl
    rw [walk, List.map_cons, hall]
    rfl

/-- A walk starts with the model itself. -/
theorem not_lists_of_nodup {path : String} (h : ((walk path m ++ listed).map (·.2.id)).Nodup) :
    ¬Lists listed m.id := by
  rintro ⟨e, he, hid⟩
  rw [List.map_append, List.nodup_append] at h
  have hself : m.id ∈ (walk path m).map (·.2.id) := by
    cases m with
    | leaf id op | composite id wiring children => exact List.mem_cons_self
  exact h.2.2 m.id hself e.2.id (List.mem_map_of_mem he) hid.symm

/-- If each child lists its walk, so do all of them. -/
theorem registerAll_eq_walkAll (path : String)
    (hregister : ∀ child ∈ children, ∀ path listed,
      ((walk path child.2 ++ listed).map (·.2.id)).Nodup →
        register path listed child.2 = (walk path child.2).reverse ++ listed)
    (hdistinct : ((walkAll path children ++ listed).map (·.2.id)).Nodup) :
    registerAll path listed children = (walkAll path children).reverse ++ listed := by
  induction children generalizing listed with
  | nil => rfl
  | cons child rest ih =>
    obtain ⟨hchild, hrest⟩ := List.forall_mem_cons.mp hregister
    rw [walkAll, List.append_assoc] at hdistinct
    have hown : ((walk (Path.join path child.1) child.2 ++ listed).map (·.2.id)).Nodup :=
      hdistinct.sublist (((List.sublist_append_right _ _).append_left _).map _)
    -- the other children find the walk of the first one listed, last entry first
    have hothers : ((walkAll path rest ++
        ((walk (Path.join path child.1) child.2).reverse ++ listed)).map (·.2.id)).Nodup := by
      refine (List.Perm.map _ ?_).nodup_iff.mp hdistinct
      refine ((List.reverse_perm _).symm.append_right _).trans ?_
      exact List.perm_append_comm_assoc _ _ _
    rw [registerAll, hchild _ _ hown, ih hrest hothers, walkAll, List.reverse_append,
      List.append_assoc]

/-- Registration of a tree lists the walk through it, if none of its modules is listed already. -/
theorem register_eq_walk (path : String)
    (hdistinct : ((walk path m ++ listed).map (·.2.id)).Nodup) :
    register path listed m = (walk path m).reverse ++ listed := by
  induction m generalizing path listed with
  | leaf id op =>
    have hfresh : ¬Lists listed id := not_lists_of_nodup hdistinct
    rw [register, if_neg (mt any_id_eq_true_iff.mp hfresh)]
    rfl
  | composite id wiring children ih =>
    have hfresh : ¬Lists listed id := not_lists_of_nodup hdistinct
    rw [register, if_neg (mt any_id_eq_true_iff.mp hfresh)]
    have hbelow : ((walkAll path children ++ (path, composite id wiring children) :: listed).map
        (·.2.id)).Nodup := by
      refine (List.Perm.map _ ?_).nodup_iff.mp hdistinct
      exact List.perm_middle.symm
    rw [registerAll_eq_walkAll path
        (fun child hchild path listed h => ih child hchild path h) hbelow,
      walk, List.reverse_cons, List.append_assoc, List.singleton_append]

/-- In a tree of distinct modules, registration leaves nothing out. -/
theorem registered_eq_walk (h : (m.modules.map id).Nodup) : m.registered = walk "" m := by
  have hdistinct : ((walk "" m ++ ([] : List (String × Model))).map (·.2.id)).Nodup := by
    rw [← map_snd_walk "", List.map_map] at h
    rw [List.append_nil]
    exact h
  rw [registered, register_eq_walk "" hdistinct, List.append_nil, List.reverse_reverse]

/-- Where modules are listed once, a module tells the path at which it is listed. -/
theorem pathOf?_of_mem (h : (listed.map (·.2.id)).Nodup) (he : e ∈ listed) :
    pathOf? listed e.2.id = some e.1 := by
  obtain ⟨e', he', hid, hpath⟩ := Lists.exists_pathOf? ⟨e, he, rfl⟩
  obtain rfl := List.inj_on_of_nodup_map h he' he hid
  exact hpath

/-! ### Chains -/

theorem traceAll_eq
    (htrace : ∀ child ∈ children,
      tracePart child.2 [] = { calls := child.2.modules.filterMap call? }) :
    traceAll children = { calls := ((partsOfAll children).map (·.2)).filterMap call? } := by
  induction children with
  | nil => rfl
  | cons child rest ih =>
    obtain ⟨hchild, hrest⟩ := List.forall_mem_cons.mp htrace
    rw [traceAll, hchild, Trace.andThen, ih hrest, partsOfAll, List.map_append,
      List.filterMap_append]
    rfl

/-- A chain calls its leaves in the order of the tree. -/
theorem tracePart_of_isChain (h : m.IsChain) :
    tracePart m [] = { calls := m.modules.filterMap call? } := by
  induction m with
  | leaf id op => rfl
  | composite id wiring children ih =>
    cases h with
    | inOrder _ hchildren =>
      rw [tracePart, traceAll_eq fun child hchild => ih child hchild (hchildren child hchild)]
      rfl

theorem trace_of_isChain {id : Nat} {wiring : Wiring} (h : (composite id wiring children).IsChain) :
    (composite id wiring children).trace =
      { calls := (composite id wiring children).modules.filterMap call? } :=
  tracePart_of_isChain h

/-- What comes of each call of a leaf that is listed comes of the leaf. -/
theorem filterMap_calls {β : Type} {f : Call → Option β} {g : String × Model → β}
    (h : ∀ e ∈ listed, ∀ call, e.2.call? = some call → f call = some (g e)) :
    (listed.filterMap (·.2.call?)).filterMap f = (listed.filter (·.2.call?.isSome)).map g := by
  induction listed with
  | nil => rfl
  | cons e rest ih =>
    obtain ⟨he, hrest⟩ := List.forall_mem_cons.mp h
    rw [List.filterMap_cons]
    cases hcall : e.2.call? with
    | none => rw [ih hrest, List.filter_cons_of_neg (by simp [hcall])]
    | some call =>
      rw [List.filterMap_cons_some (he call hcall), ih hrest,
        List.filter_cons_of_pos (by simp [hcall]), List.map_cons]

end NetPlan.Model
