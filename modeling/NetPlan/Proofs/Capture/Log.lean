import Mathlib.Data.List.Induction
import NetPlan.Proofs.Capture.Node
import NetPlan.Proofs.Capture.Pass

/-!
# Logs of visits

A **log** is a list of visits of which each meets the tags that were taken before
(`Capture.Logged`). A visit comes in one of three ways (`Capture.comes_visit`): it shares the tag of
its path, it has no tag, or it takes the tag of its path. So a path takes its tag once
(`Logged.eq_of_taken`), and what is known of a shared layer is that an earlier visit to the same
path took its tag (`Logged.exists_taken`).
-/

namespace NetPlan

open Capture

/-- The declaration of the layer of a visit. -/
def Visit.layerDeclared? (v : Visit) : Option Entry :=
  v.layer?.map fun (kind, tag) => onwardEntry kind tag

namespace Capture

variable {tags : List (String × String)} {node : Node} {nodes : List Node} {u v : Visit}
  {vs ws : List Visit}

/-! ### What a visit can be -/

/-- The visits that are possible if some tags are taken: one that shares the tag of its path, one
that takes no tag and has none, or one that takes the tag of its path. -/
inductive Comes (tags : List (String × String)) (v : Visit) : Prop
  | again {target tag : String} (htarget : v.node.target? = some target)
      (hmem : (target, tag) ∈ tags) (htaken : v.taken? = none)
      (hlayer : v.layer? = some (.shared, tag))
  | untagged (hfresh : ∀ target ∈ v.node.target?, target ∉ tags.map (·.1)) (htaken : v.taken? = none)
      (hlayer : ∀ kind tag, v.layer? = some (kind, tag) → kind.isShared = false ∧ tag = "")
  | tagged {target : String} {m : Model} {kind : Kind} (hnode : v.node = .module target m true)
      (hfresh : target ∉ tags.map (·.1)) (hkind : m.kind? = some kind)
      (htaken : v.taken? = some (target, tagOfPath target))
      (hlayer : v.layer? = if v.fault? = none then some (kind, tagOfPath target) else none)

/-- A visit to a path without a tag takes the one of the path, or has none. -/
theorem comes_visitNew {target : String} (hfresh : target ∉ tags.map (·.1)) (m : Model)
    (reused : Bool) : Comes tags (visitNew target m reused) := by
  have hfresh' : ∀ a ∈ Node.target? (.module target m reused), a ∉ tags.map (·.1) := by
    rintro a ⟨⟩
    exact hfresh
  unfold visitNew
  cases hkind : m.kind? with
  | none => exact .untagged hfresh' rfl (by simp)
  | some kind =>
    have hplain := Model.isShared_of_kind? hkind
    cases reused with
    | false =>
      cases m.settings with
      | ok settings => exact .untagged hfresh' rfl (by simpa using hplain)
      | error fault => exact .untagged hfresh' rfl (by simp)
    | true =>
      cases m.settings with
      | ok settings => exact .tagged rfl hfresh hkind rfl rfl
      | error fault => exact .tagged rfl hfresh hkind rfl rfl

/-- A visit comes in one of these ways. -/
theorem comes_visit (tags : List (String × String)) (node : Node) :
    Comes tags (visit tags node) := by
  cases node with
  | module target m reused =>
    rcases visit_module_cases tags target m reused with ⟨tag, hmem, hvisit⟩ | ⟨hfresh, hvisit⟩
    · rw [hvisit]
      exact .again rfl hmem rfl rfl
    · rw [hvisit]
      exact comes_visitNew hfresh m reused
  | function f =>
    have hnone : ∀ a ∈ Node.target? (.function f), a ∉ tags.map (·.1) := by
      rintro a ⟨⟩
    simp only [visit]
    cases hkind : f.kind? with
    | some kind =>
      have hplain := Function.isShared_of_kind? hkind
      exact .untagged hnone rfl (by simpa using hplain)
    | none => exact .untagged hnone rfl (by simp)
  | method name =>
    have hnone : ∀ a ∈ Node.target? (.method name), a ∉ tags.map (·.1) := by
      rintro a ⟨⟩
    exact .untagged hnone rfl (by simp [visit])

/-! ### Logs of visits -/

/-- Each visit meets the tags that were taken before. -/
def Logged (tags : List (String × String)) : List Visit → Prop
  | [] => True
  | v :: vs => v = visit tags v.node ∧ Logged (tags ++ v.taken?.toList) vs

/-- A log goes on with visits that meet the tags taken by all before. -/
theorem logged_append_iff :
    Logged tags (vs ++ ws) ↔ Logged tags vs ∧ Logged (tags ++ vs.filterMap Visit.taken?) ws := by
  induction vs generalizing tags with
  | nil => simp [Logged]
  | cons v vs ih =>
    have htags : tags ++ v.taken?.toList ++ vs.filterMap Visit.taken? =
        tags ++ (v :: vs).filterMap Visit.taken? := by
      cases htaken : v.taken? <;> simp [htaken]
    rw [List.cons_append, Logged, Logged, ih, htags, and_assoc]

theorem logged_concat_iff :
    Logged tags (vs ++ [v]) ↔
      Logged tags vs ∧ v = visit (tags ++ vs.filterMap Visit.taken?) v.node := by
  rw [logged_append_iff, Logged, Logged, and_true]

theorem logged_visit_cons {rest : List Visit}
    (hrest : Logged (tags ++ (visit tags node).taken?.toList) rest) :
    Logged tags (visit tags node :: rest) :=
  ⟨by rw [node_visit], hrest⟩

theorem logged_visits (tags : List (String × String)) (nodes : List Node) :
    Logged tags (visits tags nodes) := by
  induction nodes generalizing tags with
  | nil => trivial
  | cons node nodes ih =>
    rw [visits]
    split
    · exact logged_visit_cons trivial
    · exact logged_visit_cons (ih _)

namespace Logged

/-- A visit in a log is that of its node, for some tags. -/
theorem exists_eq_visit (h : Logged tags vs) (hv : v ∈ vs) : ∃ tags', v = visit tags' v.node := by
  induction vs generalizing tags with
  | nil => cases hv
  | cons u vs ih =>
    rcases List.mem_cons.mp hv with rfl | hv
    · exact ⟨tags, h.1⟩
    · exact ih h.2 hv

/-- So it is one of those that can come of its node. -/
theorem exists_comes (h : Logged tags vs) (hv : v ∈ vs) : ∃ tags', Comes tags' v := by
  obtain ⟨tags', heq⟩ := h.exists_eq_visit hv
  have hcomes := comes_visit tags' v.node
  rw [← heq] at hcomes
  exact ⟨tags', hcomes⟩

/-- A tag is the one that its path gives. -/
theorem eq_tagOfPath (h : Logged tags vs) (hv : v ∈ vs) {target tag : String}
    (htaken : v.taken? = some (target, tag)) :
    tag = tagOfPath target ∧ ∃ m, v.node = .module target m true ∧ m.kind?.isSome := by
  obtain ⟨tags', hcomes⟩ := h.exists_comes hv
  cases hcomes with
  | again _ _ hnone | untagged _ hnone =>
    rw [hnone] at htaken
    cases htaken
  | @tagged path m kind hnode _ hkind htaken' _ =>
    obtain ⟨rfl, rfl⟩ := Prod.mk.inj (Option.some.inj (htaken'.symm.trans htaken))
    exact ⟨rfl, m, hnode, by rw [hkind]; rfl⟩

/-- The last visit of a log, given the tags that were taken before it. -/
theorem comes_last (h : Logged [] (vs ++ [v])) : Comes (vs.filterMap Visit.taken?) v := by
  have hv := (logged_concat_iff.mp h).2
  rw [List.nil_append] at hv
  have hcomes := comes_visit (vs.filterMap Visit.taken?) v.node
  rwa [← hv] at hcomes

/-- A shared layer has the tag that an earlier visit to its path has taken. -/
theorem exists_taken (h : Logged [] (vs ++ [v])) {tag : String}
    (hlayer : v.layer? = some (.shared, tag)) :
    ∃ u ∈ vs, ∃ target, v.node.target? = some target ∧ u.taken? = some (target, tag) := by
  cases h.comes_last with
  | @again target tag' htarget hmem _ hlayer' =>
    obtain ⟨-, rfl⟩ := Prod.mk.inj (Option.some.inj (hlayer'.symm.trans hlayer))
    obtain ⟨u, hu, htaken⟩ := List.mem_filterMap.mp hmem
    exact ⟨u, hu, target, htarget, htaken⟩
  | untagged _ _ hplain => cases (hplain _ _ hlayer).1
  | @tagged target m kind _ _ hkind _ hlayer' =>
    rw [hlayer'] at hlayer
    split at hlayer
    · have hplain := Model.isShared_of_kind? hkind
      obtain ⟨rfl, -⟩ := Prod.mk.inj (Option.some.inj hlayer)
      cases hplain
    · cases hlayer

/-- A visit that takes a tag and does not fail writes a layer with this tag. -/
theorem exists_layer (h : Logged tags vs) (hv : v ∈ vs) {target tag : String}
    (htaken : v.taken? = some (target, tag)) (hfault : v.fault? = none) :
    ∃ kind, v.layer? = some (kind, tag) ∧ kind.isShared = false := by
  obtain ⟨tags', hcomes⟩ := h.exists_comes hv
  cases hcomes with
  | again _ _ hnone | untagged _ hnone =>
    rw [hnone] at htaken
    cases htaken
  | @tagged path m kind _ _ hkind htaken' hlayer =>
    obtain ⟨rfl, rfl⟩ := Prod.mk.inj (Option.some.inj (htaken'.symm.trans htaken))
    exact ⟨kind, by rw [hlayer, if_pos hfault], Model.isShared_of_kind? hkind⟩

/-- A layer that has a tag and is not shared was written by a visit that took it. -/
theorem taken_of_layer (h : Logged tags vs) (hv : v ∈ vs) {kind : Kind} {tag : String}
    (hlayer : v.layer? = some (kind, tag)) (hkind : kind.isShared = false) (htag : tag ≠ "") :
    ∃ target, v.taken? = some (target, tag) ∧ v.fault? = none := by
  obtain ⟨tags', hcomes⟩ := h.exists_comes hv
  cases hcomes with
  | again _ _ _ hlayer' =>
    obtain ⟨rfl, -⟩ := Prod.mk.inj (Option.some.inj (hlayer'.symm.trans hlayer))
    cases hkind
  | untagged _ _ hplain => exact absurd (hplain _ _ hlayer).2 htag
  | @tagged path m kind' _ _ _ htaken hlayer' =>
    rw [hlayer'] at hlayer
    split at hlayer
    · rename_i hfault
      obtain ⟨-, rfl⟩ := Prod.mk.inj (Option.some.inj hlayer)
      exact ⟨path, htaken, hfault⟩
    · cases hlayer

/-- A path takes its tag once. -/
theorem eq_of_taken (h : Logged [] vs) (hu : u ∈ vs) (hv : v ∈ vs) {target tag tag' : String}
    (htaken : u.taken? = some (target, tag)) (htaken' : v.taken? = some (target, tag')) :
    u = v := by
  induction vs using List.reverseRecOn with
  | nil => cases hu
  | append_singleton vs w ih =>
    have hvs := (logged_concat_iff.mp h).1
    -- the last visit takes no tag that was taken before
    have hlast {x : Visit} (hx : x ∈ vs) {t t' : String} (hxt : x.taken? = some (target, t))
        (hwt : w.taken? = some (target, t')) : False := by
      cases h.comes_last with
      | again _ _ hnone | untagged _ hnone =>
        rw [hnone] at hwt
        cases hwt
      | @tagged path m kind _ hfresh _ hpath _ =>
        obtain ⟨rfl, -⟩ := Prod.mk.inj (Option.some.inj (hpath.symm.trans hwt))
        exact hfresh (List.mem_map_of_mem (List.mem_filterMap.mpr ⟨x, hx, hxt⟩))
    rw [List.mem_append, List.mem_singleton] at hu hv
    rcases hu with hu | rfl <;> rcases hv with hv | rfl
    · exact ih hvs hu hv
    · exact (hlast hu htaken htaken').elim
    · exact (hlast hv htaken' htaken).elim
    · rfl

end Logged

/-! ### Layers among declarations -/

/-- What a visit declares behind its layer are settings. -/
theorem role_of_mem_settings (tags : List (String × String)) (node : Node) :
    ∀ e ∈ (visit tags node).settings, e.role = .setting := by
  cases node with
  | module target m reused =>
    rcases visit_module_cases tags target m reused with ⟨tag, -, hvisit⟩ | ⟨-, hvisit⟩
    · rw [hvisit]
      exact List.forall_mem_nil _
    · rw [hvisit, visitNew]
      cases m.kind? with
      | none => exact List.forall_mem_nil _
      | some kind =>
        cases hsettings : m.settings with
        | ok settings => exact Model.role_of_settings hsettings
        | error fault => exact List.forall_mem_nil _
  | function f =>
    simp only [visit]
    cases f.kind? <;> exact List.forall_mem_nil _
  | method name => exact List.forall_mem_nil _

theorem filter_declared_visit (tags : List (String × String)) (node : Node) :
    (visit tags node).declared.filter (·.role = .layer) =
      (visit tags node).layerDeclared?.toList := by
  have hnone : (visit tags node).settings.filter (·.role = .layer) = [] := by
    rw [List.filter_eq_nil_iff]
    intro e he
    simp [role_of_mem_settings tags node e he]
  unfold Visit.declared Visit.layerDeclared?
  cases (visit tags node).layer? with
  | none => rfl
  | some layer => simp [role_onwardEntry, hnone]

/-- The layers that a log declares are those of its visits, in order. -/
theorem filter_declared (h : Logged tags vs) :
    (vs.flatMap Visit.declared).filter (·.role = .layer) = vs.filterMap Visit.layerDeclared? := by
  induction vs generalizing tags with
  | nil => rfl
  | cons v vs ih =>
    have hv : v.declared.filter (·.role = .layer) = v.layerDeclared?.toList := by
      have hown := filter_declared_visit tags v.node
      rwa [← h.1] at hown
    rw [List.flatMap_cons, List.filter_append, hv, ih h.2]
    cases hentry : v.layerDeclared? <;> simp [hentry]

end Capture

end NetPlan
