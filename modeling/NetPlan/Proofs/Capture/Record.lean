import NetPlan.Proofs.Capture.Visit

/-!
# What a capture writes down

A node adds some declarations and at most one tag, in one of a few ways that hang on the tags that
there are (`Capture.Adds`). What some nodes add, one after another, is what a fresh capturer writes
down (`Capture.Writes`); notices aside, a capture is this between the shape and the two ends of the
block (`Capturer.writes_of_capture`).

A tag is taken exactly by the modules that are called more than once and have a kind
(`Capture.Writes.mem_tags_iff`).
-/

namespace NetPlan

/-- The path for which a node takes a tag, if it is the first one there. -/
def Node.taggedPath? : Node → Option String
  | .module target m true => if m.kind?.isSome then some target else none
  | .module _ _ false | .function _ | .method _ => none

theorem Node.eq_module_of_taggedPath? {node : Node} {a : String} (h : node.taggedPath? = some a) :
    ∃ m, node = .module a m true := by
  unfold taggedPath? at h
  split at h
  · rename_i target m
    split at h
    · exact ⟨m, by rw [Option.some.inj h]⟩
    · cases h
  all_goals cases h

/-- The paths for which the capture of a model takes a tag. -/
def Model.taggedPaths (m : Model) : List String :=
  m.capturedNodes.filterMap Node.taggedPath?

namespace Capture

variable {tags ts : List (String × String)} {es : List Entry} {node : Node} {nodes : List Node}

/-! ### Nodes -/

/-- The declarations and the tags that a node adds to some tags. -/
inductive Adds (tags : List (String × String)) :
    Node → List Entry → List (String × String) → Prop
  | again {target tag : String} (m : Model) (reused : Bool) (hfind : (target, tag) ∈ tags) :
      Adds tags (.module target m reused) [onwardEntry .shared tag] []
  | skipped (target : String) {m : Model} (reused : Bool) (hkind : m.kind? = none) :
      Adds tags (.module target m reused) [] []
  | plain (target : String) {m : Model} {kind : Kind} {settings : List Entry}
      (hkind : m.kind? = some kind) (hsettings : m.settings = .ok settings) :
      Adds tags (.module target m false) (onwardEntry kind "" :: settings) []
  | tagged {target : String} {m : Model} {kind : Kind} {settings : List Entry}
      (hfresh : target ∉ tags.map (·.1)) (hkind : m.kind? = some kind)
      (hsettings : m.settings = .ok settings) :
      Adds tags (.module target m true) (onwardEntry kind (tagOfPath target) :: settings)
        [(target, tagOfPath target)]
  | function {f : Function} {kind : Kind} (hkind : f.kind? = some kind) :
      Adds tags (.function f) [onwardEntry kind ""] []
  | functionSkipped {f : Function} (hkind : f.kind? = none) : Adds tags (.function f) [] []
  | methodSkipped (name : String) : Adds tags (.method name) [] []

/-- What the visit of a module whose path has no tag adds, if it does not fail. -/
theorem adds_of_visitNew {target : String} {m : Model} {reused : Bool}
    (hfresh : target ∉ tags.map (·.1)) (hfault : (visitNew target m reused).fault? = none) :
    Adds tags (.module target m reused) (visitNew target m reused).declared
      (visitNew target m reused).taken?.toList := by
  unfold visitNew at hfault ⊢
  cases hkind : m.kind? with
  | none => exact .skipped target reused hkind
  | some kind =>
    simp only [hkind] at hfault
    cases hsettings : m.settings with
    | error fault => simp [hsettings] at hfault
    | ok settings =>
      cases reused with
      | false => exact .plain target hkind hsettings
      | true => exact .tagged hfresh hkind hsettings

theorem adds_of_visit (hfault : (visit tags node).fault? = none) :
    Adds tags node (visit tags node).declared (visit tags node).taken?.toList := by
  cases node with
  | module target m reused =>
    rcases visit_module_cases tags target m reused with ⟨tag, hmem, hvisit⟩ | ⟨hfresh, hvisit⟩
    · rw [hvisit]
      exact .again m reused hmem
    · rw [hvisit] at hfault ⊢
      exact adds_of_visitNew hfresh hfault
  | function f =>
    simp only [visit]
    cases hkind : f.kind? with
    | some kind => exact .function hkind
    | none => exact .functionSkipped hkind
  | method name => exact .methodSkipped name

/-! ### Captures -/

/-- The declarations and the tags that some nodes add, one after another, to none. -/
inductive Writes : List Node → List Entry → List (String × String) → Prop
  | nil : Writes [] [] []
  | concat {nodes : List Node} {node : Node} {es es' : List Entry} {tags ts : List (String × String)}
      (hnodes : Writes nodes es tags) (hnode : Adds tags node es' ts) :
      Writes (nodes ++ [node]) (es ++ es') (tags ++ ts)

/-- A node takes the tag of its path, unless that is taken already. -/
theorem Adds.tags_cases (h : Adds tags node es ts) :
    ts = (node.taggedPath?.map fun a => (a, tagOfPath a)).toList ∨
      ts = [] ∧ ∀ a ∈ node.taggedPath?, a ∈ tags.map (·.1) := by
  cases h with
  | again m reused hfind =>
    refine .inr ⟨rfl, fun a ha => ?_⟩
    obtain ⟨_, hnode⟩ := Node.eq_module_of_taggedPath? ha
    obtain ⟨rfl, -, -⟩ := Node.module.inj hnode
    exact List.mem_map_of_mem hfind
  | skipped target reused hkind => cases reused <;> simp [Node.taggedPath?, hkind]
  | plain target hkind hsettings => exact .inl rfl
  | tagged hfresh hkind hsettings => simp [Node.taggedPath?, hkind]
  | function hkind => exact .inl rfl
  | functionSkipped hkind => exact .inl rfl
  | methodSkipped name => exact .inl rfl

/-- The tags that are written are those of the paths that can take one. -/
theorem Writes.mem_tags_iff (h : Writes nodes es tags) (entry : String × String) :
    entry ∈ tags ↔ ∃ a ∈ nodes.filterMap Node.taggedPath?, entry = (a, tagOfPath a) := by
  induction h generalizing entry with
  | nil => simp
  | concat hnodes hnode ih =>
    rename_i nodes node es es' tags ts
    have hnew : [node].filterMap Node.taggedPath? = node.taggedPath?.toList := by
      cases hpath : node.taggedPath? <;> simp [hpath]
    rw [List.mem_append, List.filterMap_append, hnew]
    rcases hnode.tags_cases with rfl | ⟨rfl, hold⟩
    · simp only [ih, Option.mem_toList, Option.map_eq_some_iff, List.mem_append,
        or_and_right, exists_or, @eq_comm _ entry]
    · simp only [ih, List.not_mem_nil, or_false, List.mem_append, or_and_right, exists_or]
      refine ⟨.inl, fun h => h.elim id fun ⟨a, ha, hentry⟩ => ?_⟩
      -- the path is that of a tag from before
      obtain ⟨old, hmem, rfl⟩ := List.mem_map.mp (hold a (Option.mem_toList.mp ha))
      obtain ⟨known, hknown, rfl⟩ := (ih old).mp hmem
      exact ⟨known, hknown, hentry⟩

/-- Visits that do not fail, behind those of other nodes, write what their nodes add. -/
theorem writes_of_visits {done : List Node} (hdone : Writes done es tags)
    (hfault : Visit.fault (visits tags nodes) = none) :
    Writes (done ++ nodes) (es ++ (visits tags nodes).flatMap Visit.declared)
      (tags ++ (visits tags nodes).filterMap Visit.taken?) := by
  induction nodes generalizing done es tags with
  | nil => simpa [visits] using hdone
  | cons node nodes ih =>
    rw [visits] at hfault ⊢
    cases hnode : (visit tags node).fault? with
    | some fault => simp [hnode, Visit.fault] at hfault
    | none =>
      simp only [hnode, Visit.fault, List.findSome?_cons] at hfault ⊢
      have hrest := ih (hdone.concat (adds_of_visit hnode)) hfault
      rw [List.append_assoc, List.singleton_append, List.append_assoc, List.append_assoc] at hrest
      rw [List.flatMap_cons]
      cases htaken : (visit tags node).taken? <;> simpa [htaken] using hrest

end Capture

/-- A capture that goes well on a fresh capturer gives the shape and, in a block, what the nodes of
the model add. -/
theorem Capturer.writes_of_capture {m : Model} {inputShape : Option (List Number)} {c : Capturer}
    (h : ({} : Capturer).capture m inputShape = (c, none)) :
    ∃ head es, Capture.shapeEntries inputShape = .ok head ∧
      Capture.Writes m.capturedNodes es c.tags ∧
      c.declarations =
        head ++ ⟨blockKey, blockStartWord⟩ :: (es ++ [⟨blockKey, blockEndWord⟩]) := by
  rw [capture_eq] at h
  cases hhead : Capture.shapeEntries inputShape with
  | error fault =>
    simp [hhead] at h
  | ok head =>
    simp only [hhead] at h
    split at h
    · cases h
    · rename_i hfault
      have hwrites := Capture.writes_of_visits .nil hfault
      obtain ⟨rfl, -⟩ := Prod.mk.inj h
      simp only [List.nil_append] at hwrites ⊢
      exact ⟨head, _, rfl, hwrites, by simp⟩

end NetPlan
