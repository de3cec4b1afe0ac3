import Mathlib.Data.List.Nodup
import NetPlan.Proofs.Model.Path
import NetPlan.Proofs.Model.Registration

/-!
# Well-formed models

A model is **well formed** if its parts are named as parts can be, siblings differently, and if a
module is the same wherever it occurs.

In a well-formed model a path leads to one module. The entries that registration makes for a module
stand at different paths, all below the path of the module (`Model.register_below`), since the names
of siblings differ. And no module is missing: what is listed already is listed with all that stands
below it, but for the modules that are being entered (`Model.covers_register`). So each module of
the model has a path (`Model.WellFormed.exists_pathOf?`), and the path tells the module
(`Model.WellFormed.eq_of_pathOf?_eq`).
-/

namespace NetPlan.Model

/-- The children of a module, with their names. -/
def children : Model → List (String × Model)
  | leaf _ _ => []
  | composite _ _ children => children

/-- A model as it is built: names can be told apart, and each identity is that of one module. -/
structure WellFormed (m : Model) : Prop where
  names : ∀ part ∈ m.parts, IsName part.1
  siblings : ∀ x ∈ m.modules, (x.children.map (·.1)).Nodup
  objects : ∀ x ∈ m.modules, ∀ y ∈ m.modules, x.id = y.id → x = y

variable {m r x y : Model} {path a : String} {listed new : List (String × Model)} {id : Nat}
  {wiring : Wiring} {children : List (String × Model)} {child : String × Model} {opened : List Nat}

/-- Modules that are pairwise distinct are told by their identities. -/
theorem WellFormed.of_nodup (hnames : ∀ part ∈ m.parts, IsName part.1)
    (hsiblings : ∀ x ∈ m.modules, (x.children.map (·.1)).Nodup)
    (hdistinct : (m.modules.map Model.id).Nodup) : m.WellFormed where
  names := hnames
  siblings := hsiblings
  objects _ hx _ hy hid := List.inj_on_of_nodup_map hdistinct hx hy hid

/-! ### Modules below a module -/

/-- The modules of a composite are itself and those of its children. -/
theorem mem_modules_composite_iff :
    x ∈ (composite id wiring children).modules ↔
      x = composite id wiring children ∨ ∃ child ∈ children, x ∈ child.2.modules := by
  rw [modules, List.mem_cons, mem_map_parts_composite_iff]

theorem mem_modules_of_mem_children (hchild : child ∈ children) (hx : x ∈ child.2.modules) :
    x ∈ (composite id wiring children).modules :=
  mem_modules_composite_iff.mpr (.inr ⟨child, hchild, hx⟩)

/-- What stands below a module of a model is a module of the model. -/
theorem mem_modules_trans (hx : x ∈ y.modules) (hy : y ∈ m.modules) : x ∈ m.modules := by
  induction m with
  | leaf id op =>
    obtain rfl : y = leaf id op := by simpa [modules, parts] using hy
    exact hx
  | composite id wiring children ih =>
    rcases mem_modules_composite_iff.mp hy with rfl | ⟨child, hchild, hy⟩
    · exact hx
    · exact mem_modules_of_mem_children hchild (ih child hchild hy)

theorem sizeOf_le_of_mem_modules (hx : x ∈ m.modules) : sizeOf x ≤ sizeOf m := by
  induction m with
  | leaf id op =>
    obtain rfl : x = leaf id op := by simpa [modules, parts] using hx
    exact Nat.le_refl _
  | composite id wiring children ih =>
    rcases mem_modules_composite_iff.mp hx with rfl | ⟨child, hchild, hx⟩
    · exact Nat.le_refl _
    · have hle := ih child hchild hx
      have hlt := List.sizeOf_lt_of_mem hchild
      obtain ⟨name, m⟩ := child
      simp only [Prod.mk.sizeOf_spec, composite.sizeOf_spec] at hlt hle ⊢
      omega

/-- A module does not stand below one of its children. -/
theorem ne_of_mem_children (hchild : child ∈ children) (hx : x ∈ child.2.modules) :
    x ≠ composite id wiring children := by
  rintro rfl
  have hle := sizeOf_le_of_mem_modules hx
  have hlt := List.sizeOf_lt_of_mem hchild
  obtain ⟨name, m⟩ := child
  simp only [Prod.mk.sizeOf_spec, composite.sizeOf_spec] at hlt hle
  omega

namespace WellFormed

/-- The children of a well-formed composite are well formed. -/
theorem of_mem_children
    (h : (composite id wiring children).WellFormed) (hchild : child ∈ children) :
    child.2.WellFormed where
  names part hpart := h.names part (mem_parts_composite_iff.mpr (.inr ⟨child, hchild, hpart⟩))
  siblings x hx := h.siblings x (mem_modules_of_mem_children hchild hx)
  objects x hx y hy :=
    h.objects x (mem_modules_of_mem_children hchild hx) y (mem_modules_of_mem_children hchild hy)

/-- No part of a model is the model itself. -/
theorem id_ne (h : m.WellFormed) : ∀ part ∈ m.parts, part.2.id ≠ m.id := by
  intro part hpart hid
  have hmem : part.2 ∈ m.parts.map (·.2) := List.mem_map_of_mem hpart
  have heq := h.objects part.2 (List.mem_cons_of_mem m hmem) m (mem_modules_self m) hid
  cases m with
  | leaf id op => cases hpart
  | composite id wiring children =>
    obtain ⟨child, hchild, hx⟩ := mem_map_parts_composite_iff.mp hmem
    exact ne_of_mem_children hchild hx heq

end WellFormed

/-! ### Paths -/

/-- Entries stand at different paths, all of which begin with some names. -/
structure Below (names : List String) (entries : List (String × Model)) : Prop where
  begins : ∀ e ∈ entries, names <+: Path.names e.1
  nodup : (entries.map fun e => Path.names e.1).Nodup

theorem below_nil (names : List String) : Below names [] :=
  ⟨List.forall_mem_nil _, List.nodup_nil⟩

/-- Entries of children of different names stand at different paths. -/
theorem exists_registerAll_eq (path : String) (listed : List (String × Model))
    (hnames : ∀ child ∈ children, IsName child.1)
    (hnodup : (children.map (·.1)).Nodup)
    (hregister : ∀ child ∈ children, ∀ path listed,
      ∃ new, register path listed child.2 = new ++ listed ∧ Below (Path.names path) new) :
    ∃ new, registerAll path listed children = new ++ listed ∧
      (∀ e ∈ new, ∃ child ∈ children, Path.names path ++ [child.1] <+: Path.names e.1) ∧
      (new.map fun e => Path.names e.1).Nodup := by
  induction children generalizing listed with
  | nil => exact ⟨[], rfl, List.forall_mem_nil _, List.nodup_nil⟩
  | cons child rest ih =>
    obtain ⟨hname, hnames⟩ := List.forall_mem_cons.mp hnames
    obtain ⟨hfresh, hnodup⟩ := List.nodup_cons.mp hnodup
    obtain ⟨hchild, hrest⟩ := List.forall_mem_cons.mp hregister
    obtain ⟨own, hown, hbelow⟩ := hchild (Path.join path child.1) listed
    obtain ⟨others, hothers, hbegins, hdiffer⟩ := ih (own ++ listed) hnames hnodup hrest
    have hbegins' : ∀ e ∈ own, Path.names path ++ [child.1] <+: Path.names e.1 := fun e he =>
      Path.names_join path hname ▸ hbelow.begins e he
    refine ⟨others ++ own, ?_, fun e he => ?_, ?_⟩
    · rw [registerAll, hown, hothers, List.append_assoc]
    · rcases List.mem_append.mp he with he | he
      · obtain ⟨other, hother, hpre⟩ := hbegins e he
        exact ⟨other, List.mem_cons_of_mem _ hother, hpre⟩
      · exact ⟨child, List.mem_cons_self, hbegins' e he⟩
    · rw [List.map_append, List.nodup_append]
      refine ⟨hdiffer, hbelow.nodup, fun ns hns ns' hns' heq => hfresh ?_⟩
      -- two names at one place of a path are the same
      obtain ⟨e, he, rfl⟩ := List.mem_map.mp hns
      obtain ⟨e', he', rfl⟩ := List.mem_map.mp hns'
      obtain ⟨other, hother, hpre⟩ := hbegins e he
      have hpre' := hbegins' e' he'
      rw [← heq] at hpre'
      have hsame := (List.prefix_of_prefix_length_le hpre hpre' (by simp)).eq_of_length (by simp)
      have hname' : other.1 = child.1 := by simpa using List.append_cancel_left hsame
      exact List.mem_map.mpr ⟨other, hother, hname'⟩

/-- What a well-formed module enters stands at different paths below its own. -/
theorem register_below (h : m.WellFormed) (path : String) (listed : List (String × Model)) :
    ∃ new, register path listed m = new ++ listed ∧ Below (Path.names path) new := by
  induction m generalizing path listed with
  | leaf id op =>
    rw [register]
    split
    · exact ⟨[], rfl, below_nil _⟩
    · exact ⟨[(path, leaf id op)], rfl, by simp [List.prefix_rfl], List.nodup_singleton _⟩
  | composite id wiring children ih =>
    rw [register]
    split
    · exact ⟨[], rfl, below_nil _⟩
    · have hnames : ∀ child ∈ children, IsName child.1 := fun child hchild =>
        h.names child (mem_parts_composite_iff.mpr (.inl hchild))
      have hnodup : (children.map (·.1)).Nodup := h.siblings _ (mem_modules_self _)
      obtain ⟨new, hnew, hbegins, hdiffer⟩ := exists_registerAll_eq path
        ((path, composite id wiring children) :: listed) hnames hnodup
        fun child hchild => ih child hchild (h.of_mem_children hchild)
      refine ⟨new ++ [(path, composite id wiring children)], ?_, fun e he => ?_, ?_⟩
      · rw [hnew, List.append_assoc, List.singleton_append]
      · rcases List.mem_append.mp he with he | he
        · obtain ⟨child, -, hpre⟩ := hbegins e he
          exact (List.prefix_append _ _).trans hpre
        · obtain rfl := List.mem_singleton.mp he
          exact List.prefix_rfl
      · rw [List.map_append, List.nodup_append]
        refine ⟨hdiffer, List.nodup_singleton _, fun ns hns ns' hns' heq => ?_⟩
        -- the path of the module itself is shorter than those of its parts
        obtain ⟨e, he, rfl⟩ := List.mem_map.mp hns
        obtain ⟨child, -, hpre⟩ := hbegins e he
        obtain rfl := List.mem_singleton.mp hns'
        rw [heq] at hpre
        have hle := hpre.length_le
        simp only [List.length_append, List.length_singleton] at hle
        omega

/-- In a well-formed model no two modules are registered at one path. -/
theorem nodup_registered (h : m.WellFormed) : (m.registered.map (·.1)).Nodup := by
  obtain ⟨new, hnew, hbelow⟩ := register_below h "" []
  rw [List.append_nil] at hnew
  have hnodup : ((new.map (·.1)).map Path.names).Nodup := by
    rw [List.map_map]
    exact hbelow.nodup
  rw [registered, hnew, List.map_reverse, List.nodup_reverse]
  exact hnodup.of_map _

/-! ### Modules that are listed -/

/-- A module with an identity is listed. -/
def Lists (listed : List (String × Model)) (id : Nat) : Prop :=
  ∃ e ∈ listed, e.2.id = id

theorem Lists.mono (h : Lists listed id) (hsub : listed ⊆ new) : Lists new id := by
  obtain ⟨e, he, hid⟩ := h
  exact ⟨e, hsub he, hid⟩

theorem any_id_eq_true_iff : (listed.any (·.2.id = id)) = true ↔ Lists listed id := by
  simp [Lists]

mutual

/-- Registration adds to what is listed. -/
theorem subset_register (path : String) (listed : List (String × Model)) :
    ∀ m, listed ⊆ register path listed m
  | leaf id op => by
    rw [register]
    split
    · exact List.Subset.refl _
    · exact List.subset_cons_self _ _
  | composite id wiring children => by
    rw [register]
    split
    · exact List.Subset.refl _
    · exact List.Subset.trans (List.subset_cons_self _ _) (subset_registerAll path _ children)

theorem subset_registerAll (path : String) (listed : List (String × Model)) :
    ∀ children, listed ⊆ registerAll path listed children
  | [] => List.Subset.refl _
  | (name, child) :: rest =>
    List.Subset.trans (subset_register (Path.join path name) listed child)
      (subset_registerAll path _ rest)

end

/-- What is listed are modules of a model, each with all that stands below it, but for those that
are being entered. -/
structure Covers (r : Model) (opened : List Nat) (listed : List (String × Model)) : Prop where
  modules : ∀ e ∈ listed, e.2 ∈ r.modules
  closed : ∀ e ∈ listed, e.2.id ∈ opened ∨ ∀ x ∈ e.2.modules, Lists listed x.id

/-- What is listed with an identity is the module of that identity. -/
theorem Covers.closed_of_lists (h : Covers r opened listed) (hr : r.WellFormed)
    (hx : x ∈ r.modules) (hid : x.id ∉ opened) (hlists : Lists listed x.id) :
    ∀ y ∈ x.modules, Lists listed y.id := by
  obtain ⟨e, he, heid⟩ := hlists
  obtain rfl := hr.objects e.2 (h.modules e he) x hx heid
  exact (h.closed e he).resolve_left hid

/-- If each child is listed with all that stands below it, then so are all of them in turn. -/
theorem covers_registerAll (path : String)
    (hregister : ∀ child ∈ children, ∀ path listed, Covers r opened listed →
      Covers r opened (register path listed child.2) ∧
        ∀ x ∈ child.2.modules, Lists (register path listed child.2) x.id)
    (h : Covers r opened listed) :
    Covers r opened (registerAll path listed children) ∧
      ∀ child ∈ children, ∀ x ∈ child.2.modules, Lists (registerAll path listed children) x.id := by
  induction children generalizing listed with
  | nil => exact ⟨h, List.forall_mem_nil _⟩
  | cons child rest ih =>
    obtain ⟨hchild, hrest⟩ := List.forall_mem_cons.mp hregister
    obtain ⟨hcovers, hlists⟩ := hchild (Path.join path child.1) listed h
    obtain ⟨hcovers', hlists'⟩ := ih hrest hcovers
    refine ⟨hcovers', List.forall_mem_cons.mpr ⟨fun x hx => ?_, hlists'⟩⟩
    exact (hlists x hx).mono (subset_registerAll path _ rest)

/-- After a module has been registered, it is listed with all that stands below it. -/
theorem covers_register (path : String) (hr : r.WellFormed) (hm : m ∈ r.modules)
    (hopened : ∀ x ∈ m.modules, x.id ∉ opened) (h : Covers r opened listed) :
    Covers r opened (register path listed m) ∧
      ∀ x ∈ m.modules, Lists (register path listed m) x.id := by
  induction m generalizing path listed opened with
  | leaf id op =>
    rw [register]
    split
    · rename_i hany
      exact
        ⟨h, h.closed_of_lists hr hm (hopened _ (mem_modules_self _)) (any_id_eq_true_iff.mp hany)⟩
    · have hown : ∀ x ∈ (leaf id op).modules, Lists ((path, leaf id op) :: listed) x.id := by
        intro x hx
        obtain rfl : x = leaf id op := by simpa [modules, parts] using hx
        exact ⟨_, List.mem_cons_self, rfl⟩
      refine ⟨⟨List.forall_mem_cons.mpr ⟨hm, h.modules⟩, ?_⟩, hown⟩
      refine List.forall_mem_cons.mpr ⟨.inr hown, fun e he => ?_⟩
      exact (h.closed e he).imp_right fun hclosed x hx =>
        (hclosed x hx).mono (List.subset_cons_self _ _)
  | composite id wiring children ih =>
    rw [register]
    split
    · rename_i hany
      exact
        ⟨h, h.closed_of_lists hr hm (hopened _ (mem_modules_self _)) (any_id_eq_true_iff.mp hany)⟩
    · have hmodules : ∀ child ∈ children, ∀ x ∈ child.2.modules, x ∈ r.modules :=
        fun child hchild x hx => mem_modules_trans (mem_modules_of_mem_children hchild hx) hm
      -- while its children are entered, the module itself is the only one more that is not closed
      have hstart : Covers r (id :: opened) ((path, composite id wiring children) :: listed) := by
        refine ⟨List.forall_mem_cons.mpr ⟨hm, h.modules⟩, ?_⟩
        refine List.forall_mem_cons.mpr ⟨.inl List.mem_cons_self, fun e he => ?_⟩
        exact (h.closed e he).imp (List.mem_cons_of_mem _) fun hclosed x hx =>
          (hclosed x hx).mono (List.subset_cons_self _ _)
      have hfresh : ∀ child ∈ children, ∀ x ∈ child.2.modules, x.id ∉ id :: opened := by
        intro child hchild x hx hid
        rcases List.mem_cons.mp hid with hid | hid
        · exact ne_of_mem_children hchild hx (hr.objects x (hmodules child hchild x hx) _ hm hid)
        · exact hopened x (mem_modules_of_mem_children hchild hx) hid
      obtain ⟨hcovers, hlists⟩ := covers_registerAll path
        (fun child hchild path listed hlisted => ih child hchild path
          (hmodules child hchild _ (mem_modules_self _)) (hfresh child hchild) hlisted)
        hstart
      have hself := subset_registerAll path
        ((path, composite id wiring children) :: listed) children
        List.mem_cons_self
      have hown : ∀ x ∈ (composite id wiring children).modules,
          Lists (registerAll path ((path, composite id wiring children) :: listed) children)
            x.id := by
        intro x hx
        rcases mem_modules_composite_iff.mp hx with rfl | ⟨child, hchild, hx⟩
        · exact ⟨_, hself, rfl⟩
        · exact hlists child hchild x hx
      refine ⟨⟨hcovers.modules, fun e he => ?_⟩, hown⟩
      rcases hcovers.closed e he with hid | hclosed
      · rcases List.mem_cons.mp hid with hid | hid
        · rw [hr.objects e.2 (hcovers.modules e he) _ hm hid]
          exact .inr hown
        · exact .inl hid
      · exact .inr hclosed

/-! ### Paths and modules -/

theorem mem_of_pathOf? (h : pathOf? listed id = some a) : ∃ e ∈ listed, e.1 = a ∧ e.2.id = id := by
  obtain ⟨e, hfind, rfl⟩ := Option.map_eq_some_iff.mp h
  exact ⟨e, List.mem_of_find?_eq_some hfind, rfl, by simpa using List.find?_some hfind⟩

/-- The path of a module that is listed is that of an entry of the module. -/
theorem Lists.exists_pathOf? (h : Lists listed id) :
    ∃ e ∈ listed, e.2.id = id ∧ pathOf? listed id = some e.1 := by
  obtain ⟨e, he, hid⟩ := h
  have hsome : (listed.find? (·.2.id = id)).isSome :=
    List.find?_isSome.mpr ⟨e, he, by simpa using hid⟩
  obtain ⟨e', hfind⟩ := Option.isSome_iff_exists.mp hsome
  refine ⟨e', List.mem_of_find?_eq_some hfind, by simpa using List.find?_some hfind, ?_⟩
  rw [pathOf?, hfind, Option.map_some]

namespace WellFormed

/-- **A well-formed model is registered whole**: the entries are modules of it, and none of these is
missing. -/
theorem covers_registered (h : m.WellFormed) :
    (∀ e ∈ m.registered, e.2 ∈ m.modules) ∧ ∀ x ∈ m.modules, Lists m.registered x.id := by
  have hnone : Covers m [] [] := ⟨List.forall_mem_nil _, List.forall_mem_nil _⟩
  obtain ⟨hcovers, hlists⟩ := covers_register "" h (mem_modules_self m) (by simp) hnone
  refine ⟨fun e he => hcovers.modules e (List.mem_reverse.mp he), fun x hx => ?_⟩
  obtain ⟨e, he, hid⟩ := hlists x hx
  exact ⟨e, List.mem_reverse.mpr he, hid⟩

/-- Each module of the model has a path. -/
theorem exists_pathOf? (h : m.WellFormed) (hx : x ∈ m.modules) :
    ∃ a, pathOf? m.registered x.id = some a := by
  obtain ⟨e, -, -, he⟩ := (h.covers_registered.2 x hx).exists_pathOf?
  exact ⟨e.1, he⟩

/-- A path leads to one module. -/
theorem eq_of_mem_registered (h : m.WellFormed) {e e' : String × Model} (he : e ∈ m.registered)
    (he' : e' ∈ m.registered) (hpath : e.1 = e'.1) : e = e' :=
  List.inj_on_of_nodup_map (nodup_registered h) he he' hpath

/-- Two modules of a well-formed model have different paths. -/
theorem eq_of_pathOf?_eq (h : m.WellFormed) (hx : x ∈ m.modules) (hy : y ∈ m.modules)
    (heq : pathOf? m.registered x.id = pathOf? m.registered y.id) : x = y := by
  obtain ⟨a, ha⟩ := h.exists_pathOf? hx
  obtain ⟨e, he, hpath, hid⟩ := mem_of_pathOf? ha
  obtain ⟨e', he', hpath', hid'⟩ := mem_of_pathOf? (heq ▸ ha)
  obtain rfl := h.eq_of_mem_registered he he' (hpath.trans hpath'.symm)
  exact h.objects x hx y hy (hid.symm.trans hid')

end WellFormed

end NetPlan.Model
