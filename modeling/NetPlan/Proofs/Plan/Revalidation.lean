import NetPlan.Proofs.Plan.Advance

/-!
# Checking a plan is building it anew

A pass against a finalized outline checks its declarations; a pass on a new plan builds from them.
The two go in step. They **agree** as long as they have collected the same layers with the same
settings, the same tags and the same global settings (`Pass.Agree`), and an entry that one of them
takes, the other takes as well, but for two things: a finalized outline ignores shapes, and it
admits a layer only at its place.

So a pass that ends well against any outline also ends well from nothing once the shapes are left
out (`Completes.build`). Back again (`Completes.check`), a pass that builds a beginning of the
layers that are fixed ends well against them. Both together say what a finalized plan accepts.
-/

namespace NetPlan

namespace Pass

variable {base base' : Outline} {p p' q q' : Pass} {e : Entry} {es : List Entry}

/-! ### Passes that agree -/

/-- Two passes have collected the same, shape, updater and notices apart. -/
structure Agree (p q : Pass) : Prop where
  slots : p.slots = q.slots
  tags : p.tags = q.tags
  mode : p.mode = q.mode
  globals : p.globals = q.globals

namespace Agree

theorem symm (h : Agree p q) : Agree q p :=
  ⟨h.slots.symm, h.tags.symm, h.mode.symm, h.globals.symm⟩

theorem top (h : Agree p q) : p.top = q.top := by
  simp [Pass.top, h.slots]

theorem layers (h : Agree p q) : p.layers = q.layers := by
  simp [Pass.layers, h.slots]

theorem locals (h : Agree p q) : p.locals = q.locals := by
  simp [Pass.locals, h.slots]

end Agree

theorem agree_start (p q : Plan) : Agree (start p) (start q) :=
  ⟨rfl, rfl, rfl, rfl⟩

/-! ### One move -/

namespace Advances

/-- A shape changes nothing on which passes agree. -/
theorem agree_of_inputShape (h : Advances base p e p') (he : e.role = .inputShape)
    (hpq : Agree p q) : Agree p' q := by
  cases h with
  | shapeIgnored | shape => exact ⟨hpq.slots, hpq.tags, hpq.mode, hpq.globals⟩
  | updater hrole | blockStart hrole | blockEnd hrole | blockMarker hrole | layer hrole
  | globalSetting hrole | ownSetting hrole => simp [he] at hrole

/-- An agreeing pass takes the same entry against another outline, as long as that outline admits
the layer that is declared. -/
theorem transfer (h : Advances base p e p') (he : e.role ≠ .inputShape) (hpq : Agree p q)
    (hadmits : ∀ l, base.admit p.slots.length l e = .ok () → p'.layers = p.layers ++ [l] →
      base'.admit p.slots.length l e = .ok ()) :
    ∃ q', Advances base' q e q' ∧ Agree p' q' := by
  cases h with
  | shapeIgnored hrole | shape hrole => exact absurd hrole he
  | updater hrole => exact ⟨_, .updater hrole, hpq.slots, hpq.tags, hpq.mode, hpq.globals⟩
  | blockStart hrole => exact ⟨_, .blockStart hrole, hpq.slots, hpq.tags, rfl, hpq.globals⟩
  | blockEnd hrole => exact ⟨_, .blockEnd hrole, hpq.slots, hpq.tags, rfl, hpq.globals⟩
  | blockMarker hrole =>
    exact ⟨_, .blockMarker hrole, hpq.slots, hpq.tags, hpq.mode, hpq.globals⟩
  | layer hrole hread hadm =>
    -- a declaration is read by top node, index and tags, and passes that agree share all three
    have hadm' := hadmits _ hadm (by simp [Pass.layers])
    rw [hpq.top, hpq.tags, hpq.slots] at hread
    rw [hpq.slots] at hadm'
    exact ⟨_, .layer hrole hread hadm', by rw [hpq.slots], rfl, rfl, hpq.globals⟩
  | globalSetting hrole hplace =>
    rw [hpq.mode, hpq.slots] at hplace
    exact ⟨_, .globalSetting hrole hplace, hpq.slots, hpq.tags, hpq.mode, by rw [hpq.globals]⟩
  | ownSetting hrole hmode hslots hshared =>
    rw [hpq.mode] at hmode
    rw [hpq.slots] at hslots
    exact ⟨_, .ownSetting hrole hmode hslots hshared, rfl, hpq.tags, hpq.mode, hpq.globals⟩

/-- The entry can be taken in a pass that builds from nothing. -/
theorem build (h : Advances base p e p') (he : e.role ≠ .inputShape) (hpq : Agree p q) :
    ∃ q', Advances {} q e q' ∧ Agree p' q' :=
  h.transfer he hpq fun _ _ _ => by simp [Outline.admit_eq_ok_iff]

/-- The entry can be taken against fixed layers that the layers behind it begin. -/
theorem check (hfin : base.header.finalized = true) (h : Advances base' q e q')
    (he : e.role ≠ .inputShape) (hqp : Agree q p) (hpre : q'.layers <+: base.layers) :
    ∃ p', Advances base p e p' ∧ Agree q' p' := by
  refine h.transfer he hqp fun l _ heq => ?_
  obtain ⟨later, hbase⟩ := hpre
  rw [Outline.admit_eq_ok_iff, if_pos hfin, ← hbase, heq, ← length_layers]
  simp

/-- A move against a finalized outline stays within its layers. -/
theorem prefix_of_finalized (hfin : base.header.finalized = true) (h : Advances base p e p')
    (hp : p.layers <+: base.layers) : p'.layers <+: base.layers := by
  obtain ⟨-, heq⟩ | ⟨-, l, hadmits, heq⟩ := h.layers_cases
  · rwa [heq]
  · obtain ⟨later, hbase⟩ := hp
    rw [Outline.admit_eq_ok_iff, if_pos hfin, ← hbase, ← length_layers,
      List.getElem?_append_right (Nat.le_refl _), Nat.sub_self] at hadmits
    obtain ⟨rest, rfl⟩ : ∃ rest, later = l :: rest := by
      cases later with
      | nil => simp at hadmits
      | cons a rest => exact ⟨rest, by simpa using hadmits⟩
    exact ⟨rest, by rw [heq, ← hbase, List.append_assoc, List.singleton_append]⟩

end Advances

/-! ### Whole passes -/

namespace Completes

/-- Entries that a pass takes against some outline can be taken from nothing, their shapes left
out. -/
theorem build (h : Completes base p es p') (hpq : Agree p q) :
    ∃ q', Completes {} q (withoutShapes es) q' ∧ Agree p' q' := by
  induction es generalizing p q with
  | nil =>
    obtain rfl := completes_nil_iff.mp h
    exact ⟨q, completes_nil_iff.mpr rfl, hpq⟩
  | cons e es ih =>
    obtain ⟨p₁, hstep, hrest⟩ := completes_cons_iff.mp h
    by_cases he : e.role = .inputShape
    · rw [withoutShapes_cons_of_role_eq he]
      exact ih hrest (hstep.agree_of_inputShape he hpq)
    · obtain ⟨q₁, hstep', hagree⟩ := hstep.build he hpq
      obtain ⟨q', hrest', hagree'⟩ := ih hrest hagree
      rw [withoutShapes_cons_of_role_ne he]
      exact ⟨q', completes_cons_iff.mpr ⟨q₁, hstep', hrest'⟩, hagree'⟩

/-- Entries that build a beginning of fixed layers are taken against them, shapes among them or
not. -/
theorem check (hfin : base.header.finalized = true) (h : Completes {} q (withoutShapes es) q')
    (hpq : Agree p q) (hpre : q'.layers <+: base.layers) :
    ∃ p', Completes base p es p' ∧ Agree p' q' := by
  induction es generalizing p q with
  | nil =>
    obtain rfl := completes_nil_iff.mp h
    exact ⟨p, completes_nil_iff.mpr rfl, hpq⟩
  | cons e es ih =>
    by_cases he : e.role = .inputShape
    · -- the shape is ignored, and the pass that builds does not see it
      rw [withoutShapes_cons_of_role_eq he] at h
      have hmove := Advances.shapeIgnored (p := p) he hfin
      obtain ⟨p', hrest, hagree⟩ := ih h (hmove.agree_of_inputShape he hpq)
      exact ⟨p', completes_cons_iff.mpr ⟨_, hmove, hrest⟩, hagree⟩
    · rw [withoutShapes_cons_of_role_ne he] at h
      obtain ⟨q₁, hstep, hrest⟩ := completes_cons_iff.mp h
      -- the layers behind one entry begin those behind all, so the outline admits them as well
      obtain ⟨p₁, hstep', hagree⟩ :=
        hstep.check hfin he hpq.symm (hrest.layers_prefix.trans hpre)
      obtain ⟨p', hrest', hagree'⟩ := ih hrest hagree.symm
      exact ⟨p', completes_cons_iff.mpr ⟨p₁, hstep', hrest'⟩, hagree'⟩

/-- A pass against a finalized outline stays within its layers. -/
theorem prefix_of_finalized (hfin : base.header.finalized = true) (h : Completes base p es p')
    (hp : p.layers <+: base.layers) : p'.layers <+: base.layers :=
  h.preserves (fun hmove => hmove.prefix_of_finalized hfin) hp

end Completes

/-! ### What a pass leaves behind -/

/-- Against a finalized outline, a pass leaves that outline with what it has collected besides. -/
theorem plan_of_finalized (hfin : base.header.finalized = true) (p : Pass) :
    p.plan base =
      { outline := base
        tags := p.tags
        updater := p.updater
        globals := p.globals
        locals := p.locals.rightpad base.layers.length [] } := by
  simp [plan, outline, hfin, locals]

/-- On an outline that is not finalized and has no layers, a pass leaves what it has collected. -/
theorem plan_of_unfinished (hfin : base.header.finalized = false) (hlayers : base.layers = [])
    (p : Pass) :
    p.plan base =
      { outline :=
          { header :=
              { nodeCount := countNodes p.layers
                layerCount := p.layers.length
                shape := p.shape
                finalized := true }
            layers := p.layers }
        tags := p.tags
        updater := p.updater
        globals := p.globals
        locals := p.locals } := by
  simp [plan, outline, hfin, hlayers, layers, locals]

/-- Whatever it was before, an outline is finalized behind a pass. -/
theorem finalized_plan (base : Outline) (p : Pass) : (p.plan base).finalized = true := by
  cases hfin : base.header.finalized <;>
    simp [plan, outline, Plan.finalized, Plan.header, hfin]

theorem layers_plan_new (p : Pass) : (p.plan {}).layers = p.layers := by
  rw [plan_of_unfinished rfl rfl]
  rfl

theorem locals_plan_new (p : Pass) : (p.plan {}).locals = p.locals := by
  rw [plan_of_unfinished rfl rfl]

/-- Layers that a pass does not come to have no settings behind it. -/
theorem locals_plan (base : Outline) (p : Pass) :
    (p.plan base).locals = p.locals.rightpad (p.plan base).layers.length [] := rfl

end Pass

namespace Plan

open Pass

variable {p : Plan} {es : List Entry} {feed : Feed}

/-- What entries declare on their own: their outcome on a new plan, with the shapes left out. -/
def declared (es : List Entry) : Outcome :=
  ({} : Plan).configure (.ofList (withoutShapes es))

/-- A pass that ends well on some plan ends well on a new one, and collects the same there. -/
theorem declared_of_completes {q : Pass} (h : Completes p.outline (start p) es q) :
    ∃ q', Agree q q' ∧ declared es = { plan := q'.plan {}, notices := q'.notices } := by
  obtain ⟨q', hq', hagree⟩ := h.build (agree_start p {})
  exact ⟨q', hagree, configure_of_completes rfl hq'⟩

/-- Entries that are accepted by some plan are accepted by a new one. Tags and settings are the same
there, up to the empty settings of layers that are not declared again. -/
theorem declared_of_configure (h : (p.configure feed).fault = none) :
    (declared feed.entries).fault = none ∧
      (p.configure feed).plan.tags = (declared feed.entries).plan.tags ∧
      (p.configure feed).plan.globals = (declared feed.entries).plan.globals ∧
      (p.configure feed).plan.locals =
        (declared feed.entries).plan.locals.rightpad (p.configure feed).plan.layers.length [] := by
  obtain ⟨q, -, hq, heq⟩ := completes_of_configure h
  obtain ⟨q', hagree, heq'⟩ := declared_of_completes hq
  rw [heq, heq']
  exact ⟨rfl, hagree.tags, hagree.globals, by
    rw [locals_plan, hagree.locals]
    exact congrArg _ (locals_plan_new q').symm⟩

/-- The shapes among entries do not matter to the layers that they build. -/
theorem layers_declared (h : (({} : Plan).configure (.ofList es)).fault = none) :
    (declared es).plan.layers = (({} : Plan).configure (.ofList es)).plan.layers := by
  obtain ⟨q, -, hq, heq⟩ := completes_of_configure h
  obtain ⟨q', hagree, heq'⟩ := declared_of_completes hq
  rw [heq]
  exact (congrArg (·.plan.layers) heq').trans
    ((layers_plan_new q').trans (hagree.layers.symm.trans (layers_plan_new q).symm))

/-- A plan that accepts a configuration is finalized behind it. -/
theorem finalized_of_configure (h : (p.configure feed).fault = none) :
    (p.configure feed).plan.finalized = true := by
  obtain ⟨q, -, -, heq⟩ := completes_of_configure h
  rw [heq]
  exact finalized_plan p.outline q

/-- A plan that accepts a configuration has the updater that it names last, or else its own. -/
theorem updater_of_configure (h : (p.configure feed).fault = none) :
    (p.configure feed).plan.updater = (lastUpdater? feed.entries).getD p.updater := by
  obtain ⟨q, -, hq, heq⟩ := completes_of_configure h
  rw [heq]
  exact hq.updater_eq

theorem updater_declared (h : (declared es).fault = none) :
    (declared es).plan.updater = (lastUpdater? es).getD "sgd" := by
  rw [← lastUpdater?_withoutShapes]
  exact updater_of_configure h

/-! ### Finalized plans -/

/-- What a finalized plan accepts begins its layers. -/
theorem layers_declared_prefix (hp : p.finalized = true) (h : (p.configure feed).fault = none) :
    (declared feed.entries).plan.layers <+: p.layers := by
  obtain ⟨q, -, hq, -⟩ := completes_of_configure h
  obtain ⟨q', hagree, heq'⟩ := declared_of_completes hq
  rw [heq', layers_plan_new, ← hagree.layers]
  exact hq.prefix_of_finalized hp List.nil_prefix

/-- A finalized plan accepts entries that build a beginning of its layers. It keeps its outline and
takes tags and settings from them, and their updater if they name one. -/
theorem configure_of_declared (hp : p.finalized = true) (hdecl : (declared es).fault = none)
    (hpre : (declared es).plan.layers <+: p.layers) :
    (p.configure (.ofList es)).fault = none ∧
      (p.configure (.ofList es)).plan =
        { outline := p.outline
          tags := (declared es).plan.tags
          updater := (lastUpdater? es).getD p.updater
          globals := (declared es).plan.globals
          locals := (declared es).plan.locals.rightpad p.layers.length [] } := by
  obtain ⟨q', -, hq', heq'⟩ := completes_of_configure hdecl
  change declared es = _ at heq'
  rw [heq'] at hpre ⊢
  change (q'.plan {}).layers <+: p.layers at hpre
  rw [layers_plan_new] at hpre
  obtain ⟨q, hq, hagree⟩ := hq'.check hp (agree_start p {}) hpre
  have heq := configure_of_completes (Feed.fault_ofList es) hq
  rw [heq]
  refine ⟨rfl, ?_⟩
  rw [plan_of_finalized hp, hq.updater_eq, hagree.tags, hagree.globals, hagree.locals,
    locals_plan_new]
  rfl

/-- **Checking is building anew.** A finalized plan, however it came about, accepts entries if and
only if they are accepted by a new plan without their shapes and the layers they build there begin
its own. It then keeps its outline, and tags and settings are those of the new plan, with no
settings for the layers that are not declared again. -/
theorem configure_finalized_eq_declared (p : Plan) (hp : p.finalized = true) (es : List Entry) :
    ((p.configure (.ofList es)).fault = none ↔
      (declared es).fault = none ∧ (declared es).plan.layers <+: p.layers) ∧
    ((p.configure (.ofList es)).fault = none →
      (p.configure (.ofList es)).plan =
        { outline := p.outline
          tags := (declared es).plan.tags
          updater := if es.any (·.key = updaterKey) then (declared es).plan.updater else p.updater
          globals := (declared es).plan.globals
          locals := (declared es).plan.locals.rightpad p.layers.length [] }) := by
  have hfwd (h : (p.configure (.ofList es)).fault = none) :
      (declared es).fault = none ∧ (declared es).plan.layers <+: p.layers :=
    ⟨(declared_of_configure h).1, layers_declared_prefix hp h⟩
  refine ⟨⟨hfwd, fun ⟨hdecl, hpre⟩ => (configure_of_declared hp hdecl hpre).1⟩, fun h => ?_⟩
  obtain ⟨hdecl, hpre⟩ := hfwd h
  rw [(configure_of_declared hp hdecl hpre).2]
  congr 1
  rw [updater_declared hdecl, ← isSome_lastUpdater?]
  cases lastUpdater? es <;> rfl

/-- A plan that was changed by hand: its header counts nothing, and its last layer is none that can
be declared. -/
def doctored : Plan :=
  { outline :=
      { header := { finalized := true }
        layers := [⟨.fullc, [0], [1], -1⟩, ⟨.shared, [1], [2], 0⟩, ⟨.concat, [2, 1], [], 7⟩] }
    tags := [("old", 9)]
    updater := "adam" }

/-- Entries that declare the first two layers of `doctored`. -/
def doctoredEntries : List Entry :=
  [⟨"layer[+1]", "fullc:a"⟩, ⟨"nhidden", "10"⟩, ⟨"input_shape", "wide"⟩, ⟨"layer[+1]", "share:a"⟩]

/-- That plan accepts the entries, and keeps its header and all its layers. -/
theorem configure_doctored :
    doctored.finalized = true ∧ (doctored.configure (.ofList doctoredEntries)).fault = none ∧
      (doctored.configure (.ofList doctoredEntries)).plan =
        { doctored with tags := [("a", 0)], locals := [[⟨"nhidden", "10"⟩], [], []] } := by
  obtain ⟨hiff, hplan⟩ := configure_finalized_eq_declared doctored rfl doctoredEntries
  have hok := hiff.mpr (by decide)
  exact ⟨rfl, hok, by rw [hplan hok]; decide⟩

end Plan

end NetPlan
