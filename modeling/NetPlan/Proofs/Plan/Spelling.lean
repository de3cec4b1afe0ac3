import NetPlan.Proofs.Declaration.Chain
import NetPlan.Proofs.Plan.Revalidation

/-!
# Links spelled out

A declaration that leads onward says the same as one that names both its nodes. The links of a list
of entries form a chain (`linksOf`, `nodesOf`), and `spellOut` puts the nodes of the chain into the
keys of the declarations and leaves all else as it is.

A pass makes the same move over a declaration and over its spelled-out form
(`Pass.Advances.link_cases`), so entries that are accepted stay so when they are spelled out, with
the same outcome, and the layers join the nodes of the chain (`Plan.configure_spellOut`).
-/

namespace NetPlan

/-! ### Entries and their links -/

/-- The links of the declarations among some entries. -/
def linksOf (es : List Entry) : List Link :=
  (es.filter (·.role = .layer)).filterMap (Link.parse? ·.key)

/-- The nodes that the declarations among some entries join on a plan without layers. -/
def nodesOf (es : List Entry) : List (Nat × Nat) :=
  Link.chain 0 (linksOf es)

/-- A declaration with both its nodes in its key. -/
def Entry.spelledOut (e : Entry) (nodes : Nat × Nat) : Entry :=
  { e with key := Link.explicitKey nodes.1 nodes.2 }

/-- The entries with given nodes in the keys of their declarations, in order. -/
def spellOut : List Entry → List (Nat × Nat) → List Entry
  | [], _ => []
  | e :: es, nodes =>
    if e.role = .layer then
      match nodes with
      | [] => e :: es
      | n :: nodes => e.spelledOut n :: spellOut es nodes
    else e :: spellOut es nodes

variable {e : Entry} {es : List Entry}

theorem linksOf_cons_of_role_ne (he : e.role ≠ .layer) : linksOf (e :: es) = linksOf es := by
  simp [linksOf, he]

/-- A declaration whose key is parsed adds its link. -/
theorem linksOf_cons_of_parse? {link : Link} (he : e.role = .layer)
    (hparse : Link.parse? e.key = some link) : linksOf (e :: es) = link :: linksOf es := by
  simp [linksOf, he, hparse]

theorem spellOut_cons_of_role_ne (he : e.role ≠ .layer) (nodes : List (Nat × Nat)) :
    spellOut (e :: es) nodes = e :: spellOut es nodes := by
  rw [spellOut.eq_def]
  simp [he]

/-- A declaration at the head takes the first nodes, and the other entries the rest. -/
theorem spellOut_cons_of_role_eq (he : e.role = .layer) (n : Nat × Nat) (nodes : List (Nat × Nat)) :
    spellOut (e :: es) (n :: nodes) = e.spelledOut n :: spellOut es nodes := by
  rw [spellOut.eq_def]
  simp [he]

theorem Entry.role_spelledOut (e : Entry) (nodes : Nat × Nat) :
    (e.spelledOut nodes).role = .layer :=
  role_eq_layer_iff.mpr (Link.isLayerKey_explicitKey nodes.1 nodes.2)

/-- A declaration gives the nodes of its link, and the same layer and tags when it is spelled
out. -/
theorem Declaration.exists_link_of_read {top : Nat} {index : Int} {tags tags' : Registry}
    {l : Layer} (h : read e top index tags = .ok (l, tags')) :
    ∃ link, Link.parse? e.key = some link ∧ l.inputs = [((link.join top).1 : Int)] ∧
      l.outputs = [((link.join top).2 : Int)] ∧
      read (e.spelledOut (link.join top)) top index tags = .ok (l, tags') := by
  obtain ⟨a, b, d, kind, primary, hlink, hd, hkind, hresolve, rfl⟩ := read_eq_ok_iff.mp h
  obtain ⟨link, hparse, -, hnodes, ha, hb⟩ := Link.read_eq_ok_iff.mp hlink
  obtain ⟨rfl, rfl⟩ := Prod.mk.inj hnodes
  have hlink' : Link.read (e.spelledOut (link.join top)).key top = .ok _ :=
    Link.read_explicitKey ha hb
  exact ⟨link, hparse, rfl, rfl,
    read_eq_ok_iff.mpr ⟨_, _, d, kind, primary, hlink', hd, hkind, hresolve, rfl⟩⟩

namespace Pass

variable {base : Outline} {p p' q : Pass}

/-- A move over a declaration adds a layer that joins the nodes of its link, and is also the move
over the declaration spelled out. -/
theorem Advances.link_cases {top : Nat} (h : Advances base p e p') (htop : p.top = top) :
    (e.role ≠ .layer ∧ p'.layers = p.layers) ∨
      e.role = .layer ∧ ∃ link l, Link.parse? e.key = some link ∧ p'.layers = p.layers ++ [l] ∧
        l.inputs = [((link.join top).1 : Int)] ∧ l.outputs = [((link.join top).2 : Int)] ∧
        Advances base p (e.spelledOut (link.join top)) p' := by
  cases h with
  | @layer l tags hrole hread hadmits =>
    rw [htop] at hread
    obtain ⟨link, hparse, hinputs, houtputs, hread'⟩ := Declaration.exists_link_of_read hread
    rw [← htop] at hread'
    have hadmits' : base.admit p.slots.length l (e.spelledOut (link.join top)) = .ok () :=
      Outline.admit_eq_ok_iff.mpr (Outline.admit_eq_ok_iff.mp hadmits)
    exact .inr ⟨hrole, link, l, hparse, by simp [Pass.layers], hinputs, houtputs,
      .layer (e.role_spelledOut _) hread' hadmits'⟩
  | ownSetting hrole hmode hslots =>
    exact .inl ⟨by simp [hrole], by simp [Pass.layers, hslots]⟩
  | shapeIgnored hrole | shape hrole | updater hrole | blockStart hrole | blockEnd hrole
  | blockMarker hrole | globalSetting hrole => exact .inl ⟨by simp [hrole], rfl⟩

/-- A pass over entries is also one over the entries spelled out, and it declares layers that join
the nodes of the chain. -/
theorem Completes.spellOut {top : Nat} (h : Completes base p es q) (htop : p.top = top) :
    Completes base p (spellOut es (Link.chain top (linksOf es))) q ∧
      q.layers.map (fun l => (l.inputs, l.outputs)) =
        p.layers.map (fun l => (l.inputs, l.outputs)) ++
          (Link.chain top (linksOf es)).map fun n => ([(n.1 : Int)], [(n.2 : Int)]) := by
  induction es generalizing p top with
  | nil =>
    obtain rfl := completes_nil_iff.mp h
    exact ⟨completes_nil_iff.mpr rfl, (List.append_nil _).symm⟩
  | cons e es ih =>
    obtain ⟨p₁, hmove, hrest⟩ := completes_cons_iff.mp h
    obtain ⟨hrole, hlayers⟩ | ⟨hrole, link, l, hparse, hlayers, hinputs, houtputs, hmove'⟩ :=
      hmove.link_cases htop
    · have htop₁ : p₁.top = top := by rw [top_eq, hlayers, ← top_eq, htop]
      obtain ⟨hspelled, hnodes⟩ := ih hrest htop₁
      rw [linksOf_cons_of_role_ne hrole, spellOut_cons_of_role_ne hrole]
      exact ⟨completes_cons_iff.mpr ⟨p₁, hmove, hspelled⟩, by rw [hnodes, hlayers]⟩
    · -- the next link starts where this one ends
      have htop₁ : p₁.top = ((link.join top).2 : Int) := by
        rw [top_eq, hlayers]
        simp [houtputs]
      obtain ⟨hspelled, hnodes⟩ := ih hrest htop₁
      rw [linksOf_cons_of_parse? hrole hparse, Link.chain, spellOut_cons_of_role_eq hrole]
      refine ⟨completes_cons_iff.mpr ⟨p₁, hmove', hspelled⟩, ?_⟩
      rw [hnodes, hlayers, List.map_append, List.append_assoc, List.map_singleton, hinputs,
        houtputs]
      rfl

end Pass

namespace Plan

open Pass

/-- **Onward links can be spelled out.** The layers of an accepted configuration of a new plan join
the nodes that its links give, one behind the other, and with these nodes in all keys in plain
decimal the configuration has the same outcome. -/
theorem configure_spellOut (h : (({} : Plan).configure (.ofList es)).fault = none) :
    let outcome := ({} : Plan).configure (.ofList es)
    outcome.plan.layers.map (fun l => (l.inputs, l.outputs)) =
      (nodesOf es).map (fun n => ([(n.1 : Int)], [(n.2 : Int)])) ∧
    ({} : Plan).configure (.ofList (spellOut es (nodesOf es))) = outcome := by
  intro outcome
  obtain ⟨q, -, hq, heq⟩ := completes_of_configure h
  have htop : (start {}).top = (0 : Nat) := rfl
  obtain ⟨hspelled, hnodes⟩ := hq.spellOut htop
  have houtcome : outcome = { plan := q.plan {}, notices := q.notices } := heq
  refine ⟨?_, (configure_of_completes rfl hspelled).trans houtcome.symm⟩
  rw [houtcome, layers_plan_new, hnodes]
  rfl

/-- Entries with all forms of links: an onward one at the start, one that jumps back, with white
space and digits of two scripts, and an onward one behind it. -/
def chainedEntries : List Entry :=
  [⟨"layer[+1]", "fullc:a"⟩, ⟨"nhidden", "3"⟩, ⟨"layer[ ٧ -> 03 ]", "relu"⟩, ⟨"netconfig", "start"⟩,
    ⟨"layer[+ 2]\n", "share:a"⟩]

/-- Those entries are accepted, and come to the same with their nodes in plain decimal. -/
theorem configure_spellOut_chained :
    (({} : Plan).configure (.ofList chainedEntries)).fault = none ∧
      nodesOf chainedEntries = [(0, 1), (7, 3), (3, 5)] ∧
      ({} : Plan).configure (.ofList [⟨"layer[0->1]", "fullc:a"⟩, ⟨"nhidden", "3"⟩,
        ⟨"layer[7->3]", "relu"⟩, ⟨"netconfig", "start"⟩, ⟨"layer[3->5]", "share:a"⟩]) =
        ({} : Plan).configure (.ofList chainedEntries) := by
  have hok : (({} : Plan).configure (.ofList chainedEntries)).fault = none := by decide
  have hnodes : nodesOf chainedEntries = [(0, 1), (7, 3), (3, 5)] := by decide
  obtain ⟨-, hspelled⟩ := configure_spellOut hok
  rw [hnodes] at hspelled
  exact ⟨hok, hnodes, hspelled⟩

end Plan

end NetPlan
