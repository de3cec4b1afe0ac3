import NetPlan.Proofs.Archive.Acceptance
import NetPlan.Proofs.Plan.Reachable

/-!
# What loading checks

An outline is **consistent** if the numbers in it refer to what is there: its header counts the
nodes of its layers, no node is below zero, and a shared layer points at an earlier one that is not
shared. The outlines of reachable plans are (`Plan.Reachable.consistent`), since passes build them
so.

A load does not check it. It takes over whatever its archive says, and what archives can say are the
archivable outlines, consistent or not; what it turns down, it turns down for its form
(`Plan.load_takes_archivable`). So the outline behind a load is as consistent as the one that was
saved.
-/

namespace NetPlan

open Archive

/-- The numbers of an outline refer to its own nodes and layers. -/
structure Outline.Consistent (o : Outline) : Prop where
  nodeCount : o.header.nodeCount = countNodes o.layers
  nodes : ∀ l ∈ o.layers, ∀ n ∈ l.nodes, 0 ≤ n
  shared : ∀ (i : Nat) (l : Layer), o.layers[i]? = some l → l.isShared = true →
    ∃ j : Nat, j < i ∧ l.primary = j ∧ ∃ k, o.layers[j]? = some k ∧ k.isShared = false

/-- A pass counts the nodes of the layers that it builds, and leaves other counts alone. -/
theorem Pass.nodeCount_outline {base : Outline}
    (hbase : base.header.nodeCount = countNodes base.layers) (p : Pass) :
    (p.outline base).header.nodeCount = countNodes (p.outline base).layers := by
  unfold Pass.outline
  split
  · exact hbase
  · rfl

namespace Plan

variable {p q : Plan} {s s' : Source} {o : Outline} {fault : Fault}

/-! ### Consistent plans -/

/-- A configuration keeps the count of nodes right, also one that fails. -/
theorem nodeCount_configure (hp : p.header.nodeCount = countNodes p.layers) (feed : Feed) :
    (p.configure feed).plan.header.nodeCount = countNodes (p.configure feed).plan.layers := by
  obtain ⟨q, -, -, heq⟩ | ⟨f, -, heq⟩ := configure_cases p feed
  · rw [heq]
    exact Pass.nodeCount_outline hp q
  · rw [heq]
    exact hp

theorem nodeCount_configureText (hp : p.header.nodeCount = countNodes p.layers) (text : String) :
    (p.configureText text).plan.header.nodeCount =
      countNodes (p.configureText text).plan.layers := by
  unfold configureText
  split
  · exact nodeCount_configure hp _
  · exact hp

/-- The header of a reachable plan counts the nodes of its layers, finalized or not. -/
theorem Reachable.nodeCount (h : Reachable p) : p.header.nodeCount = countNodes p.layers := by
  induction h with
  | new => rfl
  | after hp op hop ih =>
    cases op with
    | configure feed => exact nodeCount_configure ih feed
    | configureText text => exact nodeCount_configureText ih text
    | clearSettings | save => exact ih
    | load s | replace s => cases hop
  | @afterLoad p q hp hq op s hop hs ihp ihq =>
    -- the outline is the one that was saved, unless the archive is turned down
    cases op with
    | load t =>
      obtain rfl := Option.some.inj hop
      simp only [Plan.after, Plan.load]
      cases hread : read.run t with
      | ok o s' =>
        obtain rfl := hq.wellFormed.outline.eq_of_read hs hread
        exact ihq
      | error fault s' => exact ihp
    | replace t =>
      obtain rfl := Option.some.inj hop
      simp only [Plan.after, Plan.ofSource]
      cases hread : read.run t with
      | ok o s' =>
        obtain rfl := hq.wellFormed.outline.eq_of_read hs hread
        exact ihq
      | error fault s' => exact ihp
    | configure _ | configureText _ | clearSettings | save => cases hop

/-- **Reachable plans have consistent outlines.** -/
theorem Reachable.consistent (h : Reachable p) : p.outline.Consistent := by
  have hlayers := h.wellFormed.outline.layers
  exact ⟨h.nodeCount, fun l hl n hn => ((hlayers.joins l hl).isNode hn).1, hlayers.shared⟩

/-! ### Loads -/

theorem load_of_ok (h : read.run s = .ok o s') (p : Plan) :
    p.load s = ({ plan := p.adopt o }, s') := by
  rw [load, h]

theorem load_of_error (h : read.run s = .error fault s') (p : Plan) :
    p.load s = ({ plan := p, fault := some fault }, s') := by
  rw [load, h]

/-- A load that goes well has read an outline, and this is the one of the plan. -/
theorem exists_read_of_load (h : (p.load s).1.fault = none) :
    ∃ o s', read.run s = .ok o s' ∧ p.load s = ({ plan := p.adopt o }, s') := by
  cases hread : read.run s with
  | ok o s' => exact ⟨o, s', rfl, load_of_ok hread p⟩
  | error fault s' =>
    rw [load_of_error hread] at h
    cases h

/-- **Loading checks the form alone**, into any plan. The outlines that it can leave are the
archivable ones, and each of them comes from its own archive with any bytes behind it, whether the
source knows its size or not. An archive that was saved from a reachable plan leaves the outline of
that plan, which is consistent. All else is turned down as an archive, and leaves the plan as it
was. -/
theorem load_takes_archivable (p : Plan) :
    (∀ o, (∃ s, (p.load s).1.fault = none ∧ (p.load s).1.plan.outline = o) ↔ o.Archivable) ∧
    (∀ (o : Outline) (tail : Bytes) (sized : Bool), o.Archivable →
      p.load { rest := (write o).bytes ++ tail, sized } =
        ({ plan := p.adopt o }, { rest := tail, sized })) ∧
    (∀ (q : Plan) (s : Source), Reachable q → s.rest = q.save.bytes →
      (p.load s).1.fault = none →
      (p.load s).1.plan.outline = q.outline ∧ q.outline.Consistent) ∧
    (∀ (s : Source) (fault : Fault), (p.load s).1.fault = some fault →
      fault.category = .archive ∧ (p.load s).1.plan = p) := by
  have hown (o : Outline) (tail : Bytes) (sized : Bool) (ho : o.Archivable) :
      p.load { rest := (write o).bytes ++ tail, sized } =
        ({ plan := p.adopt o }, { rest := tail, sized }) :=
    load_of_ok (yields_of_archivable ho _ tail rfl rfl) p
  refine ⟨fun o => ⟨?_, fun ho => ?_⟩, hown, fun q s hq hs hload => ?_, fun s fault hload => ?_⟩
  · rintro ⟨s, hload, rfl⟩
    obtain ⟨o, s', hread, heq⟩ := exists_read_of_load hload
    rw [heq]
    exact archivable_of_run_read hread
  · refine ⟨{ rest := (write o).bytes ++ [] }, ?_⟩
    rw [hown o [] true ho]
    exact ⟨rfl, rfl⟩
  · obtain ⟨o, s', hread, heq⟩ := exists_read_of_load hload
    obtain rfl := hq.wellFormed.outline.eq_of_read hs hread
    rw [heq]
    exact ⟨rfl, hq.consistent⟩
  · cases hread : read.run s with
    | ok o s' =>
      rw [load_of_ok hread] at hload
      cases hload
    | error fault' s' =>
      rw [load_of_error hread] at hload ⊢
      obtain rfl := Option.some.inj hload
      exact ⟨failsAsArchive_read s s' _ hread, rfl⟩

/-- An outline that is not consistent in any respect: nine nodes are counted where there are three,
one of them is below zero, and a shared layer points behind the last one. -/
def stray : Outline :=
  { header := { nodeCount := 9, layerCount := 2, shape := ⟨3, 8, 8⟩, finalized := true }
    layers := [⟨.fullc, [-3], [1], -1⟩, ⟨.shared, [1], [2], 5⟩] }

/-- A load takes it over as it is. -/
theorem load_stray :
    (({} : Plan).load { rest := (write stray).bytes }).1 = { plan := .ofOutline stray } ∧
      stray.header.nodeCount ≠ countNodes stray.layers ∧
      (∃ l ∈ stray.layers, ∃ n ∈ l.nodes, n < 0) ∧
      (∃ l ∈ stray.layers, l.isShared = true ∧ stray.layers.length ≤ l.primary) ∧
      ¬stray.Consistent := by
  have hcount : stray.header.nodeCount ≠ countNodes stray.layers := by decide
  refine ⟨by decide +kernel, hcount, ?_, ?_, fun h => hcount h.nodeCount⟩
  · exact ⟨_, List.mem_cons_self, -3, by decide, by decide⟩
  · exact ⟨_, List.mem_cons_of_mem _ List.mem_cons_self, by decide, by decide⟩

end Plan

end NetPlan
