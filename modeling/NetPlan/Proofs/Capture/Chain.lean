import NetPlan.Proofs.Capture.Node
import NetPlan.Proofs.Model.Walk

/-!
# Chains by their graph and by their leaves

A chain of distinct modules can be captured in two ways, by the calls of its trace or by its leaves
in the order of registration. The two go over the same tree: the trace calls the leaves of the walk,
and the leaves that registration knows are these and the composites without children, for which no
kind stands. No leaf is called twice, so no tag is taken on either way.

So the two write down the same: the layers of the leaves in turn, up to one whose settings cannot be
given (`Capture.layersInTurn`, `Capture.record_chain`).
-/

namespace NetPlan

namespace Capture

/-- What modules write down one after another where no tags are taken, and the fault of the first
one whose settings cannot be given. -/
def layersInTurn : List Model → List Entry × Option Fault
  | [] => ([], none)
  | m :: rest =>
    match m.kind?, m.settings with
    | none, _ => layersInTurn rest
    | some _, .error fault => ([], some fault)
    | some kind, .ok settings =>
      (onwardEntry kind "" :: (settings ++ (layersInTurn rest).1), (layersInTurn rest).2)

/-- Modules for which no kind stands can be left out. -/
theorem layersInTurn_filter {p : Model → Bool} {ms : List Model}
    (h : ∀ m ∈ ms, p m = false → m.kind? = none) :
    layersInTurn (ms.filter p) = layersInTurn ms := by
  induction ms with
  | nil => rfl
  | cons m rest ih =>
    obtain ⟨hm, hrest⟩ := List.forall_mem_cons.mp h
    cases hp : p m with
    | false => rw [List.filter_cons_of_neg (by simp [hp]), ih hrest, layersInTurn, hm hp]
    | true => rw [List.filter_cons_of_pos hp, layersInTurn, layersInTurn, ih hrest]

/-- The nodes of modules that are called once. -/
def freshNodes (entries : List (String × Model)) : List Node :=
  entries.map fun (path, m) => .module path m false

end Capture

namespace Model

open Capture

variable {m : Model}

theorem leafNodes_eq (hdistinct : (m.modules.map Model.id).Nodup) :
    m.leafNodes = freshNodes ((walk "" m).filter (·.2.isChildless)) := by
  rw [leafNodes, registeredLeaves, registered_eq_walk hdistinct]
  rfl

/-- In a tree of distinct modules, the calls of the leaves are nodes of their own. -/
theorem nodesOf_calls_eq (hm : m.WellFormed) (hdistinct : (m.modules.map Model.id).Nodup) :
    m.nodesOf (m.modules.filterMap call?) =
      freshNodes ((walk "" m).filter (·.2.call?.isSome)) := by
  have hids : ((walk "" m).map (·.2.id)).Nodup := by
    rw [← map_snd_walk "", List.map_map] at hdistinct
    exact hdistinct
  have hpaths : ((walk "" m).map (·.1)).Nodup := by
    rw [← registered_eq_walk hdistinct]
    exact nodup_registered hm
  have hpath {e : String × Model} (he : e ∈ walk "" m) : pathOf? (walk "" m) e.2.id = some e.1 :=
    pathOf?_of_mem hids he
  have hcalls : m.modules.filterMap call? = (walk "" m).filterMap (·.2.call?) := by
    rw [← map_snd_walk "" m, List.filterMap_map]
    rfl
  have htargets : ((walk "" m).filterMap (·.2.call?)).filterMap (targetOf? (walk "" m)) =
      ((walk "" m).filter (·.2.call?.isSome)).map (·.1) := by
    refine filterMap_calls fun e he call hcall => ?_
    obtain ⟨path, part⟩ := e
    cases part with
    | composite => cases hcall
    | leaf id op =>
      obtain rfl := Option.some.inj hcall
      exact hpath he
  rw [nodesOf, hcalls, registered_eq_walk hdistinct, htargets, ← List.filterMap_eq_map]
  refine filterMap_calls fun e he call hcall => ?_
  obtain ⟨path, part⟩ := e
  cases part with
  | composite => cases hcall
  | leaf id op =>
    obtain rfl := Option.some.inj hcall
    have hlisted : pathOf? (walk "" m) id = some path := hpath he
    -- no path is there twice, so none is called twice
    have honce : (((walk "" m).filter (·.2.call?.isSome)).map (·.1)).count path ≤ 1 :=
      List.nodup_iff_count_le_one.mp (hpaths.sublist (List.filter_sublist.map _)) path
    simp [nodeOf, hlisted, Nat.not_lt.mpr honce]

end Model

namespace Capture

variable {c : Capturer}

/-- What a computation leaves, but for the notices: the declarations, the tags and the fault. -/
def outcome : EStateM.Result Fault Capturer Unit →
    List Entry × List (String × String) × Option Fault
  | .ok _ c => (c.declarations, c.tags, none)
  | .error fault c => (c.declarations, c.tags, some fault)

theorem outcome_leave (c : Capturer) (vs : List Visit) :
    outcome (leave c vs) = ((c.behind vs).declarations, (c.behind vs).tags, Visit.fault vs) := by
  unfold leave
  cases Visit.fault vs <;> rfl

/-- Modules that are called once take no tag, so their visits write what they write in turn. -/
theorem visits_freshNodes (entries : List (String × Model)) :
    let vs := visits [] (freshNodes entries)
    (vs.flatMap Visit.declared, vs.filterMap Visit.taken?, Visit.fault vs) =
      ((layersInTurn (entries.map (·.2))).1, [], (layersInTurn (entries.map (·.2))).2) := by
  induction entries with
  | nil => rfl
  | cons e rest ih =>
    obtain ⟨path, m⟩ := e
    have hvisit : visit [] (.module path m false) = visitNew path m false := rfl
    simp only [freshNodes, List.map_cons, visits, hvisit, layersInTurn, visitNew] at ih ⊢
    cases hkind : m.kind? with
    | none => simpa [Visit.declared, Visit.fault] using ih
    | some kind =>
      cases hsettings : m.settings with
      | error fault => simp [Visit.declared, Visit.fault]
      | ok settings => simpa [Visit.declared, Visit.fault] using ih

/-- Where no tags are taken, modules that are called once are written down in turn. -/
theorem outcome_freshNodes (htags : c.tags = []) (entries : List (String × Model)) :
    outcome (((freshNodes entries).forM record).run c) =
      (c.declarations ++ (layersInTurn (entries.map (·.2))).1, [],
        (layersInTurn (entries.map (·.2))).2) := by
  obtain ⟨hdeclared, hrest⟩ := Prod.mk.inj (visits_freshNodes entries)
  obtain ⟨htaken, hfault⟩ := Prod.mk.inj hrest
  rw [run_forM_record, outcome_leave, htags, Capturer.behind]
  dsimp only
  rw [hdeclared, htaken, hfault, htags, List.append_nil]

/-- Which modules of a tree are written down in turn is not of account, as long as those that are
left out have no kind. -/
theorem outcome_filter {m : Model} {p : Model → Bool} (htags : c.tags = [])
    (hp : ∀ x ∈ m.modules, p x = false → x.kind? = none) :
    outcome (((freshNodes ((m.walk "").filter (p ·.2))).forM record).run c) =
      (c.declarations ++ (layersInTurn m.modules).1, [], (layersInTurn m.modules).2) := by
  have hmodules : (((m.walk "").filter (p ·.2)).map (·.2)) = m.modules.filter p := by
    rw [← Model.map_snd_walk "" m, List.filter_map]
    rfl
  rw [outcome_freshNodes htags, hmodules, layersInTurn_filter hp]

/-- **A chain by its graph and by its leaves.** Let the modules of a chain be distinct, and let no
tags be taken. The trace of the chain does not halt. The nodes of its trace, which are those of its
graph if it has one, and the nodes of its leaves leave the same behind: the layers of its modules in
turn, no tags, and the fault of the first module whose settings cannot be given. -/
theorem record_chain {id : Nat} {children : List (String × Model)}
    (hchain : (Model.composite id .inOrder children).IsChain)
    (hm : (Model.composite id .inOrder children).WellFormed)
    (hdistinct : ((Model.composite id .inOrder children).modules.map Model.id).Nodup)
    (htags : c.tags = []) :
    let m := Model.composite id .inOrder children
    let left := (c.declarations ++ (layersInTurn m.modules).1, [], (layersInTurn m.modules).2)
    m.trace.halt? = none ∧
    (∀ nodes, m.graph = .ok nodes → nodes = m.nodesOf m.trace.calls) ∧
    outcome (((m.nodesOf m.trace.calls).forM record).run c) = left ∧
    outcome ((m.leafNodes.forM record).run c) = left := by
  intro m left
  have htrace := Model.trace_of_isChain hchain
  refine ⟨by rw [htrace], fun nodes hgraph => Model.eq_nodesOf_of_graph hgraph, ?_, ?_⟩
  · rw [htrace, Model.nodesOf_calls_eq hm hdistinct]
    refine outcome_filter (p := fun x => x.call?.isSome) htags fun x _ hcall => ?_
    cases x with
    | leaf id op => cases hcall
    | composite id wiring children => rfl
  · rw [Model.leafNodes_eq hdistinct]
    refine outcome_filter (p := Model.isChildless) htags fun x _ hchildless => ?_
    cases x with
    | leaf id op => cases hchildless
    | composite id wiring children => rfl

/-- A chain of a map, an empty chain, and a chain of an operator that no kind stands for and a
convolution whose padding is a rule. -/
def nestedChain : List (String × Model) :=
  [("0", .leaf 1 (.linear true (.whole 4) true)), ("1", .composite 2 .inOrder []),
    ("2", .composite 3 .inOrder
      [("0", .leaf 4 (.plain "GELU")),
        ("1", .leaf 5 (.conv2d ⟨.whole 4, .uniform (.whole 3), .uniform (.whole 1), .rule "same",
          .whole 1, true⟩))])]

/-- Both ways fail at the convolution, and leave the layer of the map behind other declarations. -/
theorem record_chain_nested :
    let m := Model.composite 0 .inOrder nestedChain
    let c : Capturer := { declarations := [⟨"batch_size", "8"⟩] }
    let left := ([⟨"batch_size", "8"⟩, ⟨"layer[+1]", "fullc"⟩, ⟨"nhidden", "4"⟩], [],
      some (.textualSize "same"))
    m.IsChain ∧ m.WellFormed ∧ (m.modules.map Model.id).Nodup ∧ c.tags = [] ∧
      outcome (((m.nodesOf m.trace.calls).forM record).run c) = left ∧
      outcome ((m.leafNodes.forM record).run c) = left := by
  intro m c left
  have hchain : m.IsChain := by
    refine .inOrder 0 (List.forall_mem_cons.mpr ⟨.leaf _ _, List.forall_mem_cons.mpr
      ⟨.inOrder 2 (List.forall_mem_nil _), List.forall_mem_singleton.mpr (.inOrder 3 ?_)⟩⟩)
    exact List.forall_mem_cons.mpr ⟨.leaf _ _, List.forall_mem_singleton.mpr (.leaf _ _)⟩
  have hdistinct : (m.modules.map Model.id).Nodup := by decide
  have hm : m.WellFormed := .of_nodup (by decide) (by decide) hdistinct
  have hleft : (c.declarations ++ (layersInTurn m.modules).1, [],
      (layersInTurn m.modules).2) = left := by decide
  obtain ⟨-, -, hgraph, hleaves⟩ := record_chain hchain hm hdistinct (c := c) rfl
  exact ⟨hchain, hm, hdistinct, rfl, hgraph.trans hleft, hleaves.trans hleft⟩

end Capture

end NetPlan
