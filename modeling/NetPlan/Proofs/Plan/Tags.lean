import Mathlib.Data.List.Basic
import NetPlan.Proofs.Declaration.Label
import NetPlan.Proofs.Plan.Failure
import NetPlan.Proofs.Plan.Revalidation

/-!
# Which layer a tag names

Entries that are declarations throughout (`WellDeclared`), with nothing wrong in their links and
their kinds, can only fail for a tag. A pass over them on an outline without layers keeps the
registry of the labels that it has gone over (`Pass.Stands`), and it goes on as long as no label
clashes with those before it (`Pass.Stands.run`).

So a configuration of a new plan is turned down for a tag if and only if some label clashes, and
else each shared layer points at the one layer before it that takes its tag (`Plan.configure_tags`).
-/

namespace NetPlan

/-- Declarations with given labels, the first of which starts at a given node if it leads onward:
each key writes a link whose numbers are short enough to be read and whose nodes are within
range. -/
inductive WellDeclared : Nat → List Entry → List Label → Prop
  | nil {top : Nat} : WellDeclared top [] []
  | cons {top : Nat} {e : Entry} {es : List Entry} {link : Link} {x : Label} {labels : List Label}
      (hrole : e.role = .layer) (hlink : Link.parse? e.key = some link) (hshort : link.IsShort)
      (hsource : ((link.join top).1 : Int) ≤ maxNodeIndex)
      (htarget : ((link.join top).2 : Int) ≤ maxNodeIndex) (hlabel : Label.read e.value = .ok x)
      (hrest : WellDeclared (link.join top).2 es labels) :
      WellDeclared top (e :: es) (x :: labels)

variable {top : Nat} {e : Entry} {es : List Entry} {x : Label} {labels done : List Label}

/-- What has to be right about the first declaration, and that the others go on where it ends. -/
theorem wellDeclared_cons_iff {link : Link} (hlink : Link.parse? e.key = some link) :
    WellDeclared top (e :: es) (x :: labels) ↔
      e.role = .layer ∧ link.IsShort ∧ ((link.join top).1 : Int) ≤ maxNodeIndex ∧
        ((link.join top).2 : Int) ≤ maxNodeIndex ∧ Label.read e.value = .ok x ∧
        WellDeclared (link.join top).2 es labels := by
  constructor
  · intro h
    cases h with
    | cons hrole hlink' hshort hsource htarget hlabel hrest =>
      obtain rfl := Option.some.inj (hlink.symm.trans hlink')
      exact ⟨hrole, hshort, hsource, htarget, hlabel, hrest⟩
  · rintro ⟨hrole, hshort, hsource, htarget, hlabel, hrest⟩
    exact .cons hrole hlink hshort hsource htarget hlabel hrest

instance decidableWellDeclared :
    ∀ (top : Nat) (es : List Entry) (labels : List Label), Decidable (WellDeclared top es labels)
  | _, [], [] => isTrue .nil
  | _, [], _ :: _ => isFalse nofun
  | _, _ :: _, [] => isFalse nofun
  | top, e :: es, x :: labels =>
    match hlink : Link.parse? e.key with
    | none => isFalse fun h => by cases h; simp_all
    | some link =>
      have := decidableWellDeclared (link.join top).2 es labels
      decidable_of_iff _ (wellDeclared_cons_iff hlink).symm

namespace Pass

variable {base : Outline} {p p' : Pass} {nodes : Int × Int}

/-- A pass has gone over declarations with given labels. -/
structure Stands (p : Pass) (done : List Label) : Prop where
  tags : p.tags = tagsOf done
  length : p.layers.length = done.length
  layer : ∀ (k : Nat) (l : Layer) (x : Label), p.layers[k]? = some l → done[k]? = some x →
    l.kind = x.kind ∧ x.PointsAt (done.take k) l.primary

theorem stands_start (plan : Plan) : Stands (start plan) [] :=
  ⟨rfl, rfl, by simp⟩

namespace Stands

theorem concat {l : Layer} (h : Stands p done) (hlayers : p'.layers = p.layers ++ [l])
    (htags : p'.tags = tagsOf (done ++ [x])) (hkind : l.kind = x.kind)
    (hpoints : x.PointsAt done l.primary) : Stands p' (done ++ [x]) := by
  refine ⟨htags, by simp [hlayers, h.length], fun k m y hm hy => ?_⟩
  rw [hlayers] at hm
  obtain hy | ⟨rfl, rfl⟩ := List.getElem?_concat_eq_some_iff.mp hy
  · have hk : k < done.length := (List.getElem?_eq_some_iff.mp hy).1
    rw [List.getElem?_append_left (h.length ▸ hk)] at hm
    rw [List.take_append_of_le_length (Nat.le_of_lt hk)]
    exact h.layer k m y hm hy
  · rw [← h.length, List.getElem?_concat_length] at hm
    obtain rfl := Option.some.inj hm
    rw [List.take_left]
    exact ⟨hkind, hpoints⟩

/-- Over a declaration whose label clashes, a pass stops. -/
theorem stops (base : Outline) (h : Stands p done) (hrole : e.role = .layer)
    (hlink : Link.read e.key p.top = .ok nodes) (hlabel : Label.read e.value = .ok x)
    (hclash : x.Clashes done) : ∃ f, step base p e = .error f ∧ f.category = .tag := by
  obtain ⟨f, hread, hcat⟩ := Declaration.read_of_clashes hlink hlabel hclash p.slots.length
  rw [← h.tags] at hread
  exact ⟨f, step_eq_error_iff.mpr (.declaration hrole hread), hcat⟩

variable (hfin : base.header.finalized = false) (hlayers : base.layers = [])
include hfin hlayers

/-- Over a declaration whose label does not clash, a pass goes on, to the node where the link
ends. -/
theorem advances (h : Stands p done) (hrole : e.role = .layer)
    (hlink : Link.read e.key p.top = .ok nodes) (hlabel : Label.read e.value = .ok x)
    (hclash : ¬ x.Clashes done) :
    ∃ p', Advances base p e p' ∧ p'.top = nodes.2 ∧ Stands p' (done ++ [x]) := by
  obtain ⟨l, hread, hkind, houtputs, hpoints⟩ :=
    Declaration.read_of_not_clashes hlink hlabel hclash
  rw [← h.tags, ← h.length, length_layers] at hread
  have hadmits : base.admit p.slots.length l e = .ok () :=
    Outline.admit_eq_ok_iff.mpr (by simp [hfin, hlayers])
  have htop : l.outputs.headD 0 = nodes.2 := by rw [houtputs, List.headD_cons]
  exact ⟨_, .layer hrole hread hadmits, htop, h.concat (by simp [layers]) rfl hkind hpoints⟩

/-- A pass goes over declarations as long as no label clashes with those before it. -/
theorem run (h : Stands p done) (hdecl : WellDeclared top es labels) (htop : p.top = top) :
    (HasClash done labels ∧ ∃ f, (Pass.run base p es).2 = some f ∧ f.category = .tag) ∨
      (¬ HasClash done labels ∧ ∃ q, Completes base p es q ∧ Stands q (done ++ labels)) := by
  induction hdecl generalizing p done with
  | nil =>
    rw [List.append_nil]
    exact .inr ⟨not_hasClash_nil done, p, completes_nil_iff.mpr rfl, h⟩
  | @cons top e es link x labels hrole hlink hshort hsource htarget hlabel hrest ih =>
    have hread := Link.read_eq_ok_iff.mpr ⟨link, hlink, hshort, rfl, hsource, htarget⟩
    rw [← htop] at hread
    -- the first label clashes with those that the pass has gone over, or it joins them
    rw [hasClash_cons_iff]
    by_cases hclash : x.Clashes done
    · obtain ⟨f, hstep, hcat⟩ := h.stops base hrole hread hlabel hclash
      exact .inl ⟨.inl hclash, f, by simp [Pass.run, hstep], hcat⟩
    · obtain ⟨p₁, hmove, htop₁, h₁⟩ := h.advances hfin hlayers hrole hread hlabel hclash
      rcases ih h₁ htop₁ with ⟨hbehind, f, hrun, hcat⟩ | ⟨hnone, q, hq, hstands⟩
      · refine .inl ⟨.inr hbehind, f, ?_, hcat⟩
        simpa [Pass.run, step_eq_ok_iff.mpr hmove] using hrun
      · rw [List.append_assoc] at hstands
        exact .inr ⟨not_or.mpr ⟨hclash, hnone⟩, q, completes_cons_iff.mpr ⟨p₁, hmove, hq⟩, hstands⟩

end Stands

end Pass

namespace Plan

open Pass

/-- **Which layer a tag names.** Declarations with nothing wrong in their links and kinds are turned
down on a new plan for a tag if and only if a label clashes with those before it. Else they are
accepted: a shared layer points at the one layer before it that takes its tag, any other layer at
none, and the tags of the plan are the ones that the labels take, in order. -/
theorem configure_tags (h : WellDeclared 0 es labels) :
    let outcome := ({} : Plan).configure (.ofList es)
    ((∃ f, outcome.fault = some f ∧ f.category = .tag) ↔ HasClash [] labels) ∧
    (¬ HasClash [] labels →
      outcome.fault = none ∧
      outcome.plan.layers.length = labels.length ∧
      (∀ (k : Nat) (l : Layer) (x : Label), outcome.plan.layers[k]? = some l → labels[k]? = some x →
        l.kind = x.kind ∧
        (x.kind.isShared = false → l.primary = -1) ∧
        (x.kind.isShared = true → ∃ j : Nat, l.primary = j ∧
          ∀ i, (i < k ∧ ∃ y, labels[i]? = some y ∧ y.Takes x.tag) ↔ i = j)) ∧
      outcome.plan.tags = tagsOf labels) := by
  intro outcome
  have hfault : outcome.fault = (run {} (start {}) es).2 := fault_configure_ofList {} es
  have hfin : ({} : Plan).outline.header.finalized = false := rfl
  rcases (stands_start {}).run hfin rfl h rfl with
    ⟨hclash, f, hstop, hcat⟩ | ⟨hclash, q, hq, hstands⟩
  · exact ⟨iff_of_true ⟨f, hfault.trans hstop, hcat⟩ hclash, fun hnone => absurd hclash hnone⟩
  · have houtcome : outcome = { plan := q.plan {}, notices := q.notices } :=
      configure_of_completes rfl hq
    rw [List.nil_append] at hstands
    refine ⟨iff_of_false (by simp [houtcome]) hclash, fun _ => ?_⟩
    rw [houtcome, layers_plan_new]
    refine ⟨rfl, hstands.length, fun k l x hl hx => ?_, hstands.tags⟩
    obtain ⟨hkind, hplain, hshared⟩ := hstands.layer k l x hl hx
    refine ⟨hkind, hplain, fun hs => ?_⟩
    obtain ⟨j, y, hj, hy, htakes⟩ := hshared hs
    -- a pass knows of one layer that takes the tag, and without a clash there is no other
    obtain ⟨hjk, hy⟩ : j < k ∧ labels[j]? = some y := by
      simpa [List.getElem?_take] using hy
    have htag : x.tag ≠ "" := fun htag => hclash ⟨k, x, hx, .inl ⟨hs, htag⟩⟩
    refine ⟨j, hj, fun i => ⟨?_, ?_⟩⟩
    · rintro ⟨-, z, hz, hz'⟩
      exact hz'.eq_of_not_hasClash hclash htag hz hy htakes
    · rintro rfl
      exact ⟨hjk, y, hy, htakes⟩

/-- Declarations with tags, one of which holds a colon and is named by the last layer. -/
def taggedEntries : List Entry :=
  [⟨"layer[0->1]", "fullc:a:b"⟩, ⟨"layer[+1]", " relu "⟩, ⟨"layer[ 1 -> 3 ]", "conv:c"⟩,
    ⟨"layer[+1]", "share:a:b"⟩]

/-- Those declarations are accepted with two tags, and turned down for a tag in the reverse
order. -/
theorem configure_tags_tagged :
    (({} : Plan).configure (.ofList taggedEntries)).fault = none ∧
      (({} : Plan).configure (.ofList taggedEntries)).plan.tags = [("a:b", 0), ("c", 2)] ∧
      (∃ l, (({} : Plan).configure (.ofList taggedEntries)).plan.layers[3]? = some l ∧
        l.primary = 0) ∧
      ∃ f, (({} : Plan).configure (.ofList taggedEntries.reverse)).fault = some f ∧
        f.category = .tag := by
  let labels : List Label := [⟨.fullc, "a:b"⟩, ⟨.relu, ""⟩, ⟨.conv, "c"⟩, ⟨.shared, "a:b"⟩]
  have hdecl : WellDeclared 0 taggedEntries labels := by decide
  -- the other way round, a tag is named before it is taken
  have hreverse : WellDeclared 0 taggedEntries.reverse labels.reverse := by decide
  obtain ⟨hfault, hlength, hlayers, htags⟩ := (configure_tags hdecl).2 (by decide)
  have hlast : 3 < (({} : Plan).configure (.ofList taggedEntries)).plan.layers.length := by
    rw [hlength]
    decide
  obtain ⟨-, -, hshared⟩ := hlayers 3 _ _ (List.getElem?_eq_getElem hlast) rfl
  obtain ⟨j, hj, htakes⟩ := hshared rfl
  obtain rfl : 0 = j := (htakes 0).mp ⟨by decide, _, rfl, rfl, rfl⟩
  exact ⟨hfault, htags, ⟨_, List.getElem?_eq_getElem hlast, hj⟩,
    (configure_tags hreverse).1.mpr (by decide)⟩

end Plan

end NetPlan
