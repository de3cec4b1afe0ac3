import NetPlan.Proofs.Plan.Storage

/-!
# Plans that operations reach

The operations on a plan are configurations from a feed or a text, the removal of its settings,
saving, and loading, into the plan or in its place. `Reachable` holds of the plans that any
operations make of a new one in any order, where loads read what a reachable plan has saved, from a
source of any kind. Each operation may fail; the plan then is what the failure leaves.

Every reachable plan is well formed (`Reachable.wellFormed`).
-/

namespace NetPlan

open Archive

/-- What can be done with a plan. -/
inductive Operation where
  | configure (feed : Feed)
  | configureText (text : String)
  | clearSettings
  | save
  /-- Put an archived outline in place of the plan's own. -/
  | load (s : Source)
  /-- Put the plan of an archive in place of the plan. -/
  | replace (s : Source)

/-- The source that an operation reads. -/
def Operation.source? : Operation → Option Source
  | load s | replace s => some s
  | configure _ | configureText _ | clearSettings | save => none

namespace Plan

variable {p q : Plan}

/-- The plan behind an operation, also behind one that fails. -/
def after (p : Plan) : Operation → Plan
  | .configure feed => (p.configure feed).plan
  | .configureText text => (p.configureText text).plan
  | .clearSettings => p.clearSettings
  | .save => p
  | .load s => (p.load s).1.plan
  | .replace s =>
    match ofSource s with
    | .ok q => q
    | .error _ => p

/-- The plans that operations make of a new one. -/
inductive Reachable : Plan → Prop
  | new : Reachable {}
  | after {p : Plan} (hp : Reachable p) (op : Operation) (hop : op.source? = none) :
      Reachable (p.after op)
  | afterLoad {p q : Plan} (hp : Reachable p) (hq : Reachable q) (op : Operation) {s : Source}
      (hop : op.source? = some s) (hs : s.rest = q.save.bytes) : Reachable (p.after op)

/-- An operation that reads no archive keeps a plan well formed. -/
theorem WellFormed.after (hp : p.WellFormed) {op : Operation} (hop : op.source? = none) :
    (p.after op).WellFormed := by
  cases op with
  | configure feed => exact hp.configure feed
  | configureText text => exact hp.configureText text
  | clearSettings => exact wellFormed_clearSettings hp.outline hp.tags
  | save => exact hp
  | load s | replace s => cases hop

/-- So does an operation that reads the archive of a well-formed plan. -/
theorem WellFormed.afterLoad (hp : p.WellFormed) (hq : q.WellFormed) {op : Operation} {s : Source}
    (hop : op.source? = some s) (hs : s.rest = q.save.bytes) : (p.after op).WellFormed := by
  cases op with
  | load t =>
    obtain rfl := Option.some.inj hop
    exact hp.load hq hs
  | replace t =>
    obtain rfl := Option.some.inj hop
    cases hread : Plan.ofSource t with
    | ok r =>
      simp only [Plan.after, hread]
      exact hq.ofSource hs hread
    | error fault =>
      simp only [Plan.after, hread]
      exact hp
  | configure _ | configureText _ | clearSettings | save => cases hop

/-- The plans that operations reach are well formed, by induction on the operations. -/
theorem Reachable.wellFormed (h : Reachable p) : p.WellFormed := by
  induction h with
  | new => exact wellFormed_new
  | after hp op hop ih => exact ih.after hop
  | afterLoad hp hq op hop hs ihp ihq => exact ihp.afterLoad ihq hop hs

/-- **Reachable plans are well formed**, and the number of nodes of a finalized one is one past its
largest node. -/
theorem wellFormed_of_reachable (h : Reachable p) :
    p.WellFormed ∧ (p.finalized = true → IsNodeCount p.layers p.header.nodeCount) := by
  have hwf := h.wellFormed
  refine ⟨hwf, fun hfin => ?_⟩
  rw [show p.header.nodeCount = countNodes p.layers from hwf.outline.nodeCount hfin]
  exact hwf.outline.layers.isNodeCount

/-- A new plan that loads what a configured one has saved. -/
def reloaded : Plan :=
  (({} : Plan).load { rest := tiedPlan.save.bytes }).1.plan

theorem wellFormed_reloaded :
    Reachable reloaded ∧ reloaded.finalized = true ∧ reloaded.layers.length = 2 ∧
      reloaded.WellFormed ∧ IsNodeCount reloaded.layers reloaded.header.nodeCount := by
  have hbuilt : Reachable tiedPlan := Reachable.new.after (.configure (.ofList tiedEntries)) rfl
  have hloaded : Reachable reloaded := Reachable.new.afterLoad hbuilt (.load _) rfl rfl
  obtain ⟨hwf, hcount⟩ := wellFormed_of_reachable hloaded
  have hfin : reloaded.finalized = true := by decide +kernel
  exact ⟨hloaded, hfin, by decide +kernel, hwf, hcount hfin⟩

end Plan

end NetPlan
