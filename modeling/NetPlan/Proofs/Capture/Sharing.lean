import NetPlan.Proofs.Capture.Log

/-!
# Sharing across captures

A capturer that captures one model after another keeps the tags of all of them. Its log lists the
visits of each capture, and these are all that it writes
(`Capturer.filter_declarations_captureAll`).

Sharing is **sound** if each shared layer stands behind a layer that is not shared, has the same tag
and was written down for the very same module (`SharesSoundly`). Within one capture of a well-formed
model a path leads to one module, so sharing is sound there. Across captures it is sound as long as
a path for which a tag was taken **keeps** its module, and only then, if different paths have
different tags (`Capturer.sharesSoundly_log_iff`).
-/

namespace NetPlan

open Capture

/-- A later visit to a path for which an earlier one took a tag finds the same module, and the
earlier one did not fail. -/
def Visit.Keeps (u v : Visit) : Prop :=
  ∀ target tag, u.taken? = some (target, tag) → v.node.target? = some target →
    u.fault? = none ∧ u.node.object? = v.node.object?

/-- Each shared layer stands behind one that is not shared, has the same tag and was written down
for the same module. -/
def SharesSoundly (vs : List Visit) : Prop :=
  ∀ before v after tag, vs = before ++ v :: after → v.layer? = some (.shared, tag) →
    ∃ u ∈ before, ∃ kind, u.layer? = some (kind, tag) ∧ kind.isShared = false ∧
      u.node.object? = v.node.object?

instance (u v : Visit) : Decidable (u.Keeps v) :=
  decidable_of_iff (∀ taken ∈ u.taken?, v.node.target? = some taken.1 →
      u.fault? = none ∧ u.node.object? = v.node.object?)
    ⟨fun h target tag htaken => h (target, tag) htaken, fun h (_, _) htaken => h _ _ htaken⟩

namespace Capture

variable {tags : List (String × String)} {node : Node} {nodes : List Node} {u v : Visit}
  {vs : List Visit}

/-! ### Sound sharing -/

/-- Paths that keep their modules make sharing sound. -/
theorem sharesSoundly_of_pairwise (h : Logged [] vs) (hkeeps : vs.Pairwise Visit.Keeps) :
    SharesSoundly vs := by
  rintro before v after tag rfl hlayer
  have hbefore : Logged [] (before ++ [v]) := by
    rw [← List.singleton_append, ← List.append_assoc] at h
    exact (logged_append_iff.mp h).1
  obtain ⟨u, hu, target, htarget, htaken⟩ := hbefore.exists_taken hlayer
  have hpair : u.Keeps v := (List.pairwise_append.mp hkeeps).2.2 u hu v List.mem_cons_self
  obtain ⟨hfault, hobject⟩ := hpair target tag htaken htarget
  obtain ⟨kind, hkind, hplain⟩ := (logged_concat_iff.mp hbefore).1.exists_layer hu htaken hfault
  exact ⟨u, hu, kind, hkind, hplain, hobject⟩

/-- Sound sharing makes them keep their modules, if no tag is empty and different paths have taken
different tags. -/
theorem pairwise_of_sharesSoundly (h : Logged [] vs)
    (hapart : ∀ e ∈ vs.filterMap Visit.taken?, ∀ e' ∈ vs.filterMap Visit.taken?,
      e.2 = e'.2 → e = e')
    (hnonempty : ∀ e ∈ vs.filterMap Visit.taken?, e.2 ≠ "") (hshares : SharesSoundly vs) :
    vs.Pairwise Visit.Keeps := by
  induction vs using List.reverseRecOn with
  | nil => exact .nil
  | append_singleton vs v ih =>
    have hvs := (logged_concat_iff.mp h).1
    have hsub : ∀ e ∈ vs.filterMap Visit.taken?, e ∈ (vs ++ [v]).filterMap Visit.taken? :=
      fun e he => by rw [List.filterMap_append]; exact List.mem_append_left _ he
    have hpairs : vs.Pairwise Visit.Keeps := by
      refine ih hvs (fun e he e' he' => hapart e (hsub e he) e' (hsub e' he'))
        (fun e he => hnonempty e (hsub e he)) ?_
      rintro before w after tag rfl
      exact hshares before w (after ++ [v]) tag (by simp)
    refine List.pairwise_append.mpr ⟨hpairs, List.pairwise_singleton _ _, ?_⟩
    rintro u hu v' hv' target tag htaken htarget
    obtain rfl := List.mem_singleton.mp hv'
    have hmem : (target, tag) ∈ vs.filterMap Visit.taken? := List.mem_filterMap.mpr ⟨u, hu, htaken⟩
    -- the path has a tag, so the last visit shares it
    obtain ⟨tag', hmem', hlayer⟩ : ∃ tag', (target, tag') ∈ vs.filterMap Visit.taken? ∧
        v'.layer? = some (.shared, tag') := by
      cases h.comes_last with
      | @again path tag' htarget' hmem' _ hlayer =>
        obtain rfl := Option.some.inj (htarget'.symm.trans htarget)
        exact ⟨tag', hmem', hlayer⟩
      | untagged hfresh => exact absurd (List.mem_map_of_mem hmem) (hfresh target htarget)
      | @tagged path m kind hnode hfresh =>
        rw [hnode] at htarget
        obtain rfl := Option.some.inj htarget
        exact absurd (List.mem_map_of_mem hmem) hfresh
    obtain ⟨w, hw, kind, hkind, hplain, hobject⟩ := hshares vs v' [] tag' rfl hlayer
    obtain ⟨path, hpath, hfault⟩ :=
      hvs.taken_of_layer hw hkind hplain (hnonempty _ (hsub _ hmem'))
    -- the layer that is shared was written by the visit that took the tag
    have hsame : (path, tag') = (target, tag') :=
      hapart _ (hsub _ (List.mem_filterMap.mpr ⟨w, hw, hpath⟩)) _ (hsub _ hmem') rfl
    obtain ⟨rfl, -⟩ := Prod.mk.inj hsame
    obtain rfl := hvs.eq_of_taken hu hw htaken hpath
    exact ⟨hfault, hobject⟩

/-! ### Single captures -/

theorem node_mem_of_mem_visits (hv : v ∈ visits tags nodes) : v.node ∈ nodes := by
  induction nodes generalizing tags with
  | nil => cases hv
  | cons node nodes ih =>
    rw [visits] at hv
    split at hv
    · rw [List.mem_singleton.mp hv, node_visit]
      exact List.mem_cons_self
    · rcases List.mem_cons.mp hv with rfl | hv
      · rw [node_visit]
        exact List.mem_cons_self
      · exact List.mem_cons_of_mem _ (ih hv)

/-- Where a path tells the module, it keeps it. -/
theorem pairwise_visits (hnodes : ∀ target x y reused reused', .module target x reused ∈ nodes →
      .module target y reused' ∈ nodes → x = y) : (visits tags nodes).Pairwise Visit.Keeps := by
  induction nodes generalizing tags with
  | nil => exact .nil
  | cons node nodes ih =>
    rw [visits]
    split
    · exact List.pairwise_singleton _ _
    · rename_i hfault
      refine .cons (fun w hw target tag htaken htarget => ⟨hfault, ?_⟩)
        (ih fun target x y reused reused' hx hy => hnodes target x y reused reused'
          (List.mem_cons_of_mem _ hx) (List.mem_cons_of_mem _ hy))
      have hfirst : Logged tags [visit tags node] := logged_visit_cons trivial
      obtain ⟨-, m, hnode, -⟩ := hfirst.eq_tagOfPath List.mem_cons_self htaken
      have hmem := node_mem_of_mem_visits hw
      cases hnode' : w.node with
      | function f | method name =>
        rw [hnode'] at htarget
        cases htarget
      | module path y reused =>
        rw [hnode'] at htarget hmem
        obtain rfl := Option.some.inj htarget
        have hown : node = .module path m true := (node_visit tags node).symm.trans hnode
        have hsame : m = y := hnodes path m y true reused (hown ▸ List.mem_cons_self)
          (List.mem_cons_of_mem _ hmem)
        rw [hnode, hsame]
        rfl

/-- The shape of the input is not a layer. -/
theorem filter_shapeEntries {inputShape : Option (List Number)} {head : List Entry}
    (h : shapeEntries inputShape = .ok head) : head.filter (·.role = .layer) = [] := by
  cases inputShape with
  | none =>
    obtain rfl := Except.ok.inj h
    rfl
  | some dimensions =>
    obtain ⟨sides, -, rfl⟩ := shapeEntries_some_eq_ok_iff.mp h
    have hrole (value : String) : Entry.role ⟨inputShapeKey, value⟩ = .inputShape :=
      Entry.role_eq_inputShape_iff.mpr rfl
    simp [hrole]

end Capture

namespace Capturer

variable {c : Capturer} {m : Model} {inputShape : Option (List Number)}
  {history : List (Model × Option (List Number))}

theorem logged_visits_capturer (c : Capturer) (m : Model) (inputShape : Option (List Number)) :
    Logged c.tags (c.visits m inputShape) := by
  unfold visits
  cases shapeEntries inputShape with
  | error fault => trivial
  | ok head => exact logged_visits c.tags m.capturedNodes

/-- A capture adds the tags that its visits take. -/
theorem tags_capture (c : Capturer) (m : Model) (inputShape : Option (List Number)) :
    (c.capture m inputShape).1.tags =
      c.tags ++ (c.visits m inputShape).filterMap Visit.taken? := by
  rw [capture_eq, visits]
  cases shapeEntries inputShape with
  | error fault => simp
  | ok head =>
    dsimp only
    cases Visit.fault (Capture.visits c.tags m.capturedNodes) <;> rfl

/-- A capture adds the layers of its visits, and no others. -/
theorem filter_declarations_capture (c : Capturer) (m : Model)
    (inputShape : Option (List Number)) :
    (c.capture m inputShape).1.declarations.filter (·.role = .layer) =
      c.declarations.filter (·.role = .layer) ++
        (c.visits m inputShape).filterMap Visit.layerDeclared? := by
  rw [capture_eq, visits]
  cases hhead : shapeEntries inputShape with
  | error fault => simp
  | ok head =>
    have hlayers := filter_declared (logged_visits c.tags m.capturedNodes)
    have hends : ([⟨blockKey, blockStartWord⟩] : List Entry).filter (·.role = .layer) = [] ∧
        ([⟨blockKey, blockEndWord⟩] : List Entry).filter (·.role = .layer) = [] := by decide
    dsimp only
    cases Visit.fault (Capture.visits c.tags m.capturedNodes) <;>
      simp only [List.filter_append, filter_shapeEntries hhead, hends.1, hends.2, hlayers,
        List.append_nil]

/-! ### Histories -/

/-- The capturer behind captures of each of some models in order, also behind those that fail. -/
def captureAll (c : Capturer) (history : List (Model × Option (List Number))) : Capturer :=
  history.foldl (fun c (m, inputShape) => (c.capture m inputShape).1) c

/-- The visits of each capture. -/
def log (c : Capturer) : List (Model × Option (List Number)) → List (List Visit)
  | [] => []
  | (m, inputShape) :: rest =>
    c.visits m inputShape :: (c.capture m inputShape).1.log rest

/-- The visits of all captures together are one log, since tags are kept from one capture to the
next. -/
theorem logged_log (c : Capturer) (history : List (Model × Option (List Number))) :
    Logged c.tags (c.log history).flatten := by
  induction history generalizing c with
  | nil => trivial
  | cons x rest ih =>
    rw [log, List.flatten_cons, logged_append_iff, ← tags_capture]
    exact ⟨logged_visits_capturer c x.1 x.2, ih _⟩

/-- The tags behind captures are those that their visits took, in order. -/
theorem tags_captureAll (c : Capturer) (history : List (Model × Option (List Number))) :
    (c.captureAll history).tags = c.tags ++ (c.log history).flatten.filterMap Visit.taken? := by
  induction history generalizing c with
  | nil => simp [captureAll, log]
  | cons x rest ih =>
    have hrest := ih (c.capture x.1 x.2).1
    rw [tags_capture, List.append_assoc, ← List.filterMap_append] at hrest
    rw [log, List.flatten_cons]
    exact hrest

/-- The layers that captures declare are those of their visits. -/
theorem filter_declarations_captureAll (c : Capturer)
    (history : List (Model × Option (List Number))) :
    (c.captureAll history).declarations.filter (·.role = .layer) =
      c.declarations.filter (·.role = .layer) ++
        (c.log history).flatten.filterMap Visit.layerDeclared? := by
  induction history generalizing c with
  | nil => simp [captureAll, log]
  | cons x rest ih =>
    have hrest := ih (c.capture x.1 x.2).1
    rw [filter_declarations_capture, List.append_assoc, ← List.filterMap_append] at hrest
    rw [log, List.flatten_cons]
    exact hrest

/-- Each capture in a log is one of a model of the history. -/
theorem exists_visits_of_mem_log {vs : List Visit} (hvs : vs ∈ c.log history) :
    ∃ x ∈ history, ∃ c' : Capturer, vs = c'.visits x.1 x.2 := by
  induction history generalizing c with
  | nil => cases hvs
  | cons x rest ih =>
    rcases List.mem_cons.mp hvs with rfl | hvs
    · exact ⟨x, List.mem_cons_self, c, rfl⟩
    · obtain ⟨y, hy, c', heq⟩ := ih hvs
      exact ⟨y, List.mem_cons_of_mem _ hy, c', heq⟩

/-- Within one capture of a well-formed model, paths keep their modules. -/
theorem pairwise_visits_capturer (hm : m.WellFormed) (c : Capturer)
    (inputShape : Option (List Number)) : (c.visits m inputShape).Pairwise Visit.Keeps := by
  unfold visits
  split
  · exact pairwise_visits fun target x y reused reused' hx hy => hm.eq_of_mem_capturedNodes hx hy
  · exact .nil

/-- In a well-formed model, a tag that is taken is not empty. -/
theorem ne_empty_of_mem_taken (hm : m.WellFormed) {e : String × String}
    (he : e ∈ (c.visits m inputShape).filterMap Visit.taken?) : e.2 ≠ "" := by
  obtain ⟨v, hv, htaken⟩ := List.mem_filterMap.mp he
  obtain ⟨htag, x, hnode, hkind⟩ := (logged_visits_capturer c m inputShape).eq_tagOfPath hv htaken
  have hmem : v.node ∈ m.capturedNodes := by
    unfold visits at hv
    split at hv
    · exact node_mem_of_mem_visits hv
    · cases hv
  rw [htag]
  refine tagOfPath_ne_empty (hm.ne_empty_of_mem_taggedPaths ?_)
  exact List.mem_filterMap.mpr ⟨v.node, hmem, by rw [hnode, Node.taggedPath?, if_pos hkind]⟩

/-- **When sharing is sound across captures.** Let well-formed models be captured one after another
by a new capturer, whether or not all captures go well. Its layers are those of the visits, in
order, and a shared layer has the tag that an earlier visit to its path took. If each capture finds,
at the paths for which an earlier one took a tag, the module for which it was written down, sharing
is sound; and if different paths have taken different tags, it is sound in no other case. -/
theorem sharesSoundly_log_iff (hmodels : ∀ x ∈ history, x.1.WellFormed) :
    let c := ({} : Capturer).captureAll history
    let log := ({} : Capturer).log history
    c.declarations.filter (·.role = .layer) = log.flatten.filterMap Visit.layerDeclared? ∧
    (∀ before v after tag, log.flatten = before ++ v :: after → v.layer? = some (.shared, tag) →
      ∃ u ∈ before, ∃ target, v.node.target? = some target ∧ u.node.target? = some target ∧
        u.taken? = some (target, tag) ∧ tag = tagOfPath target) ∧
    (log.Pairwise (fun vs ws => ∀ u ∈ vs, ∀ v ∈ ws, u.Keeps v) → SharesSoundly log.flatten) ∧
    ((∀ e ∈ c.tags, ∀ e' ∈ c.tags, e.2 = e'.2 → e = e') → SharesSoundly log.flatten →
      log.Pairwise fun vs ws => ∀ u ∈ vs, ∀ v ∈ ws, u.Keeps v) := by
  intro c log
  have hlogged : Logged [] log.flatten := logged_log {} history
  have htags : c.tags = log.flatten.filterMap Visit.taken? := tags_captureAll {} history
  have hwithin : ∀ vs ∈ log, vs.Pairwise Visit.Keeps := by
    intro vs hvs
    obtain ⟨x, hx, c', rfl⟩ := exists_visits_of_mem_log hvs
    exact pairwise_visits_capturer (hmodels x hx) c' x.2
  refine ⟨filter_declarations_captureAll {} history, ?_, fun hacross => ?_,
    fun hapart hshares => ?_⟩
  · intro before v after tag heq hlayer
    rw [heq, ← List.singleton_append, ← List.append_assoc] at hlogged
    have hbefore := (logged_append_iff.mp hlogged).1
    obtain ⟨u, hu, target, htarget, htaken⟩ := hbefore.exists_taken hlayer
    obtain ⟨htag, m, hnode, -⟩ := (logged_concat_iff.mp hbefore).1.eq_tagOfPath hu htaken
    exact ⟨u, hu, target, htarget, by rw [hnode]; rfl, htaken, htag⟩
  · exact sharesSoundly_of_pairwise hlogged (List.pairwise_flatten.mpr ⟨hwithin, hacross⟩)
  · rw [htags] at hapart
    refine (List.pairwise_flatten.mp (pairwise_of_sharesSoundly hlogged hapart ?_ hshares)).2
    intro e he
    obtain ⟨v, hv, htaken⟩ := List.mem_filterMap.mp he
    obtain ⟨vs, hvs, hv⟩ := List.mem_flatten.mp hv
    obtain ⟨x, hx, c', rfl⟩ := exists_visits_of_mem_log hvs
    exact ne_empty_of_mem_taken (hmodels x hx) (List.mem_filterMap.mpr ⟨v, hv, htaken⟩)

/-- A model that calls one linear map a number of times. -/
def calling (id width calls : Nat) : Model :=
  .composite id (.steps (List.replicate calls (.call "a")))
    [("a", .leaf (id + 1) (.linear true (.whole width) true))]

theorem wellFormed_calling (id width calls : Nat) : (calling id width calls).WellFormed := by
  refine .of_nodup (fun part hpart => ?_) (fun x hx => ?_) ?_
  · rw [List.mem_singleton.mp hpart]
    exact (by decide : IsName "a")
  · rcases List.mem_cons.mp hx with rfl | hx
    · exact List.nodup_singleton _
    · rw [List.mem_singleton.mp hx]
      exact List.nodup_nil
  · change [id, id + 1].Nodup
    simp

theorem capturedNodes_calling_twice : (calling 0 4 2).capturedNodes =
    List.replicate 2 (.module "a" (.leaf 1 (.linear true (.whole 4) true)) true) := by
  have hgraph := Model.remarkedGraph_eq_ok (m := calling 0 4 2) (k := 0) rfl rfl (by decide +kernel)
    (by decide +kernel) (by decide +kernel) rfl rfl rfl
  unfold Model.capturedNodes Model.graph
  rw [hgraph]
  rfl

theorem capturedNodes_calling_once : (calling 2 7 1).capturedNodes =
    [.module "a" (.leaf 3 (.linear true (.whole 7) true)) false] := by
  have hgraph := Model.remarkedGraph_eq_ok (m := calling 2 7 1) (k := 0) rfl rfl (by decide +kernel)
    (by decide +kernel) (by decide +kernel) rfl rfl rfl
  unfold Model.capturedNodes Model.graph
  rw [hgraph]
  rfl

/-- The visits to a model that calls a map twice: the first one takes the tag. -/
theorem visits_calling_twice : ({} : Capturer).visits (calling 0 4 2) none =
    [{ node := .module "a" (.leaf 1 (.linear true (.whole 4) true)) true,
       layer? := some (.fullc, "a"), settings := [⟨"nhidden", "4"⟩], taken? := some ("a", "a") },
     { node := .module "a" (.leaf 1 (.linear true (.whole 4) true)) true,
       layer? := some (.shared, "a") }] := by
  unfold visits
  rw [capturedNodes_calling_twice]
  rfl

/-- A history that begins with a model that calls a map twice. -/
def twiceThen (m : Model) : List (Model × Option (List Number)) :=
  [(calling 0 4 2, none), (m, none)]

theorem wellFormed_of_mem_twiceThen (hm : m.WellFormed) : ∀ x ∈ twiceThen m, x.1.WellFormed :=
  List.forall_mem_cons.mpr ⟨wellFormed_calling 0 4 2, List.forall_mem_singleton.mpr hm⟩

theorem log_twiceThen (m : Model) : ({} : Capturer).log (twiceThen m) =
    [({} : Capturer).visits (calling 0 4 2) none, Capture.visits [("a", "a")] m.capturedNodes] := by
  have htags : (({} : Capturer).capture (calling 0 4 2) none).1.tags = [("a", "a")] := by
    rw [tags_capture, visits_calling_twice]
    rfl
  rw [twiceThen, log, log, log, ← htags]
  rfl

/-- A model that is captured again shares its own layers. -/
theorem sharesSoundly_log_again :
    (∀ x ∈ twiceThen (calling 0 4 2), x.1.WellFormed) ∧
      (({} : Capturer).log (twiceThen (calling 0 4 2))).Pairwise
        (fun vs ws => ∀ u ∈ vs, ∀ v ∈ ws, u.Keeps v) ∧
      SharesSoundly (({} : Capturer).log (twiceThen (calling 0 4 2))).flatten := by
  have hmodels := wellFormed_of_mem_twiceThen (wellFormed_calling 0 4 2)
  have hkeeps : (({} : Capturer).log (twiceThen (calling 0 4 2))).Pairwise
      (fun vs ws => ∀ u ∈ vs, ∀ v ∈ ws, u.Keeps v) := by
    rw [log_twiceThen, visits_calling_twice, capturedNodes_calling_twice]
    decide
  exact ⟨hmodels, hkeeps, (sharesSoundly_log_iff hmodels).2.2.1 hkeeps⟩

/-- Models that call different maps at one path share a layer: the third layer stands for a map of
its own, and shares the one that the first model wrote down. -/
theorem not_sharesSoundly_log :
    (∀ x ∈ twiceThen (calling 2 7 1), x.1.WellFormed) ∧
      (({} : Capturer).captureAll (twiceThen (calling 2 7 1))).declarations.filter
          (·.role = .layer) =
        [⟨"layer[+1]", "fullc:a"⟩, ⟨"layer[+1]", "shared:a"⟩, ⟨"layer[+1]", "shared:a"⟩] ∧
      ¬SharesSoundly (({} : Capturer).log (twiceThen (calling 2 7 1))).flatten := by
  have hlog := log_twiceThen (calling 2 7 1)
  rw [visits_calling_twice, capturedNodes_calling_once] at hlog
  refine ⟨wellFormed_of_mem_twiceThen (wellFormed_calling 2 7 1), ?_, fun hshares => ?_⟩
  · rw [filter_declarations_captureAll, hlog]
    rfl
  · rw [hlog] at hshares
    obtain ⟨u, hu, kind, -, -, hobject⟩ := hshares [_, _] _ [] "a" rfl rfl
    revert u
    decide

end Capturer

end NetPlan
