import NetPlan.Proofs.Capture.Sharing

/-!
# Tags without layers

A tag is taken before the settings of its module are looked at. If they cannot be given, the capture
stops there, and the tag is left without a layer; later captures share it all the same.

A capturer is **grounded** if it has a layer for each of its tags, and declares none as shared
before the layer with its tag (`Capturer.Grounded`). A visit **introduces** a tag if it takes it and
does not fail (`Visit.Introduces`), and the layers for a tag are those of the visits that introduce
it. So a capturer is grounded behind captures of which none has failed at a module that takes a tag,
and, if different paths have different tags, behind no others (`Capturer.grounded_captureAll`).
-/

namespace NetPlan

open Capture

/-- The visit takes the tag and does not fail. -/
def Visit.Introduces (v : Visit) (tag : String) : Prop :=
  v.fault? = none ∧ ∃ target, v.taken? = some (target, tag)

/-- A layer that is not shared is declared with the tag. -/
def Defines (es : List Entry) (tag : String) : Prop :=
  ∃ kind, kind.isShared = false ∧ onwardEntry kind tag ∈ es

instance (es : List Entry) (tag : String) : Decidable (Defines es tag) :=
  decidable_of_iff (∃ kind ∈ Kind.all, kind.isShared = false ∧ onwardEntry kind tag ∈ es)
    ⟨fun ⟨kind, _, h⟩ => ⟨kind, h⟩, fun ⟨kind, h⟩ => ⟨kind, by cases kind <;> decide, h⟩⟩

/-- Each tag has a layer, and each layer that is declared as shared stands behind the one with its
tag. -/
structure Capturer.Grounded (c : Capturer) : Prop where
  tags : ∀ e ∈ c.tags, Defines c.declarations e.2
  shared : ∀ before tag after, c.declarations = before ++ onwardEntry .shared tag :: after →
    Defines before tag

namespace Capture

variable {tags : List (String × String)} {v : Visit} {vs : List Visit} {es : List Entry}
  {tag : String}

theorem defines_filter_iff : Defines (es.filter (·.role = .layer)) tag ↔ Defines es tag := by
  simp [Defines, role_onwardEntry]

theorem layerDeclared?_eq_some_iff {kind : Kind} :
    v.layerDeclared? = some (onwardEntry kind tag) ↔ v.layer? = some (kind, tag) := by
  simp [Visit.layerDeclared?, onwardEntry_inj]

/-- The layers for a tag are those of the visits that introduce it. -/
theorem Logged.defines_iff (h : Logged tags vs) (htag : tag ≠ "") :
    Defines (vs.filterMap Visit.layerDeclared?) tag ↔ ∃ v ∈ vs, v.Introduces tag := by
  constructor
  · rintro ⟨kind, hplain, hmem⟩
    obtain ⟨v, hv, hentry⟩ := List.mem_filterMap.mp hmem
    obtain ⟨target, htaken, hfault⟩ :=
      h.taken_of_layer hv (layerDeclared?_eq_some_iff.mp hentry) hplain htag
    exact ⟨v, hv, hfault, target, htaken⟩
  · rintro ⟨v, hv, hfault, target, htaken⟩
    obtain ⟨kind, hlayer, hplain⟩ := h.exists_layer hv htaken hfault
    exact ⟨kind, hplain, List.mem_filterMap.mpr ⟨v, hv, layerDeclared?_eq_some_iff.mpr hlayer⟩⟩

/-- A visit that takes a tag and fails is that of a module whose settings cannot be given. -/
theorem Logged.settings_eq_error (h : Logged tags vs) (hv : v ∈ vs) {target : String}
    {fault : Fault} (htaken : v.taken? = some (target, tag)) (hfault : v.fault? = some fault) :
    ∃ m, v.node = .module target m true ∧ m.settings = .error fault := by
  obtain ⟨-, m, hnode, -⟩ := h.eq_tagOfPath hv htaken
  obtain ⟨tags', heq⟩ := h.exists_eq_visit hv
  refine ⟨m, hnode, ?_⟩
  rw [heq, hnode] at htaken hfault
  rcases visit_module_cases tags' target m true with ⟨found, -, hvisit⟩ | ⟨-, hvisit⟩
  · rw [hvisit] at htaken
    cases htaken
  · rw [hvisit, visitNew] at hfault
    cases hkind : m.kind? with
    | none => simp [hkind] at hfault
    | some kind =>
      cases hsettings : m.settings with
      | ok settings => simp [hkind, hsettings] at hfault
      | error fault' =>
        simp only [hkind, hsettings] at hfault
        rw [Option.some.inj hfault]

/-- If some layers are declared by visits, then those before one of them are declared by the visits
before its visit. -/
theorem exists_visit_of_layers {before after : List Entry} {kind : Kind}
    (h : (before ++ onwardEntry kind tag :: after).filter (·.role = .layer) =
      vs.filterMap Visit.layerDeclared?) :
    ∃ us v ws, vs = us ++ v :: ws ∧ v.layer? = some (kind, tag) ∧
      before.filter (·.role = .layer) = us.filterMap Visit.layerDeclared? := by
  rw [List.filter_append, List.filter_cons_of_pos (by simp [role_onwardEntry])] at h
  obtain ⟨us, rest, rfl, hus, hrest⟩ := List.filterMap_eq_append_iff.mp h.symm
  obtain ⟨gap, v, ws, rfl, hgap, hentry, -⟩ := List.filterMap_eq_cons_iff.mp hrest
  refine ⟨us ++ gap, v, ws, (List.append_assoc ..).symm, layerDeclared?_eq_some_iff.mp hentry, ?_⟩
  rw [List.filterMap_append, hus, List.filterMap_eq_nil_iff.mpr hgap, List.append_nil]

end Capture

namespace Capturer

variable {history : List (Model × Option (List Number))}

/-- A tag that some capture of a well-formed model takes is not empty. -/
theorem ne_empty_of_mem_log (hmodels : ∀ x ∈ history, x.1.WellFormed) {v : Visit}
    (hv : v ∈ (({} : Capturer).log history).flatten) {target tag : String}
    (htaken : v.taken? = some (target, tag)) : tag ≠ "" := by
  obtain ⟨vs, hvs, hv⟩ := List.mem_flatten.mp hv
  obtain ⟨x, hx, c', rfl⟩ := exists_visits_of_mem_log hvs
  exact ne_empty_of_mem_taken (hmodels x hx) (List.mem_filterMap.mpr ⟨v, hv, htaken⟩)

/-- Behind captures, the layers for a tag are those of the visits that introduce it. -/
theorem defines_captureAll_iff {tag : String} (htag : tag ≠ "") :
    Defines (({} : Capturer).captureAll history).declarations tag ↔
      ∃ v ∈ (({} : Capturer).log history).flatten, v.Introduces tag := by
  have hlogged : Logged [] (({} : Capturer).log history).flatten := logged_log {} history
  rw [← defines_filter_iff, filter_declarations_captureAll, ← hlogged.defines_iff htag]
  rfl

/-- A layer that is declared as shared is that of a visit, and the layers for its tag before it are
those of the earlier visits that introduce the tag. -/
theorem exists_visit_of_shared (hmodels : ∀ x ∈ history, x.1.WellFormed) {tag : String}
    {before after : List Entry}
    (h : (({} : Capturer).captureAll history).declarations =
      before ++ onwardEntry .shared tag :: after) :
    ∃ us v ws, (({} : Capturer).log history).flatten = us ++ v :: ws ∧
      v.layer? = some (.shared, tag) ∧ (∃ u ∈ us, ∃ target, u.taken? = some (target, tag)) ∧
      (Defines before tag ↔ ∃ u ∈ us, u.Introduces tag) := by
  have hlayers := filter_declarations_captureAll {} history
  rw [h] at hlayers
  obtain ⟨us, v, ws, hlog, hlayer, hbefore⟩ := exists_visit_of_layers hlayers
  have hlogged : Logged [] (us ++ [v]) := by
    have hall : Logged [] (({} : Capturer).log history).flatten := logged_log {} history
    rw [hlog, ← List.singleton_append, ← List.append_assoc] at hall
    exact (logged_append_iff.mp hall).1
  obtain ⟨u, hu, target, -, htaken⟩ := hlogged.exists_taken hlayer
  have htag : tag ≠ "" :=
    ne_empty_of_mem_log hmodels (hlog ▸ List.mem_append_left _ hu) htaken
  refine ⟨us, v, ws, hlog, hlayer, ⟨u, hu, target, htaken⟩, ?_⟩
  rw [← defines_filter_iff, hbefore, (logged_concat_iff.mp hlogged).1.defines_iff htag]

/-- Captures that do not fail at a module that takes a tag leave a grounded capturer. -/
theorem grounded_of_fault_eq_none (hmodels : ∀ x ∈ history, x.1.WellFormed)
    (hgood : ∀ v ∈ (({} : Capturer).log history).flatten, v.taken?.isSome → v.fault? = none) :
    (({} : Capturer).captureAll history).Grounded where
  tags e he := by
    rw [tags_captureAll] at he
    obtain ⟨v, hv, htaken⟩ := List.mem_filterMap.mp he
    have htag : e.2 ≠ "" := ne_empty_of_mem_log hmodels hv htaken
    exact (defines_captureAll_iff htag).mpr ⟨v, hv, hgood v hv (by rw [htaken]; rfl), e.1, htaken⟩
  shared before tag after hdeclared := by
    obtain ⟨us, v, ws, hlog, -, ⟨u, hu, target, htaken⟩, hiff⟩ :=
      exists_visit_of_shared hmodels hdeclared
    have hmem : u ∈ (({} : Capturer).log history).flatten := by
      rw [hlog]
      exact List.mem_append_left _ hu
    exact hiff.mpr ⟨u, hu, hgood u hmem (by rw [htaken]; rfl), target, htaken⟩

/-- Where different paths have different tags, no others do. -/
theorem fault_eq_none_of_grounded (hmodels : ∀ x ∈ history, x.1.WellFormed)
    (hapart : ∀ e ∈ (({} : Capturer).captureAll history).tags,
      ∀ e' ∈ (({} : Capturer).captureAll history).tags, e.2 = e'.2 → e = e')
    (hgrounded : (({} : Capturer).captureAll history).Grounded) {v : Visit}
    (hv : v ∈ (({} : Capturer).log history).flatten) (htaken : v.taken?.isSome) :
    v.fault? = none := by
  have hlogged : Logged [] (({} : Capturer).log history).flatten := logged_log {} history
  have hmem {w : Visit} {e : String × String} (hw : w ∈ (({} : Capturer).log history).flatten)
      (he : w.taken? = some e) : e ∈ (({} : Capturer).captureAll history).tags := by
    rw [tags_captureAll]
    exact List.mem_filterMap.mpr ⟨w, hw, he⟩
  obtain ⟨⟨target, tag⟩, he⟩ := Option.isSome_iff_exists.mp htaken
  obtain ⟨w, hw, hfault, path, hintroduced⟩ :=
    (defines_captureAll_iff (ne_empty_of_mem_log hmodels hv he)).mp (hgrounded.tags _ (hmem hv he))
  -- the visit that introduces the tag is the one that has taken it for this path
  have hsame : (path, tag) = (target, tag) := hapart _ (hmem hw hintroduced) _ (hmem hv he) rfl
  obtain ⟨rfl, -⟩ := Prod.mk.inj hsame
  rw [hlogged.eq_of_taken hv hw he hintroduced]
  exact hfault

/-- **When each tag has a layer.** Let well-formed models be captured one after another by a new
capturer, whether or not all captures go well. A tag has a layer exactly if a visit introduces it,
and there is such a layer before one that is declared as shared exactly if an earlier visit does. A
visit that takes a tag introduces it, unless the settings of its module cannot be given and the
capture fails there. So the capturer is grounded if no visit that takes a tag fails, and, if
different paths have different tags, in no other case. -/
theorem grounded_captureAll (hmodels : ∀ x ∈ history, x.1.WellFormed) :
    let c := ({} : Capturer).captureAll history
    let vs := (({} : Capturer).log history).flatten
    (∀ e ∈ c.tags, Defines c.declarations e.2 ↔ ∃ v ∈ vs, v.Introduces e.2) ∧
    (∀ before tag after, c.declarations = before ++ onwardEntry .shared tag :: after →
      ∃ us v ws, vs = us ++ v :: ws ∧ v.layer? = some (.shared, tag) ∧
        (Defines before tag ↔ ∃ u ∈ us, u.Introduces tag)) ∧
    (∀ v ∈ vs, ∀ target tag fault, v.taken? = some (target, tag) → v.fault? = some fault →
      ∃ m, v.node = .module target m true ∧ m.settings = .error fault) ∧
    ((∀ v ∈ vs, v.taken?.isSome → v.fault? = none) → c.Grounded) ∧
    ((∀ e ∈ c.tags, ∀ e' ∈ c.tags, e.2 = e'.2 → e = e') → c.Grounded →
      ∀ v ∈ vs, v.taken?.isSome → v.fault? = none) := by
  intro c vs
  refine ⟨fun e he => ?_, fun before tag after hdeclared => ?_, fun v hv target tag fault => ?_,
    grounded_of_fault_eq_none hmodels,
    fun hapart hgrounded v => fault_eq_none_of_grounded hmodels hapart hgrounded⟩
  · have htags : c.tags = vs.filterMap Visit.taken? := tags_captureAll {} history
    rw [htags] at he
    obtain ⟨v, hv, htaken⟩ := List.mem_filterMap.mp he
    exact defines_captureAll_iff (ne_empty_of_mem_log hmodels hv htaken)
  · obtain ⟨us, v, ws, hlog, hlayer, -, hiff⟩ := exists_visit_of_shared hmodels hdeclared
    exact ⟨us, v, ws, hlog, hlayer, hiff⟩
  · have hlogged : Logged [] vs := logged_log {} history
    exact hlogged.settings_eq_error hv

/-- A model that is captured again leaves its tag with a layer. -/
theorem grounded_captureAll_again :
    (∀ x ∈ twiceThen (calling 0 4 2), x.1.WellFormed) ∧
      (∀ v ∈ (({} : Capturer).log (twiceThen (calling 0 4 2))).flatten,
        v.taken?.isSome → v.fault? = none) ∧
      (({} : Capturer).captureAll (twiceThen (calling 0 4 2))).Grounded := by
  have hmodels := wellFormed_of_mem_twiceThen (wellFormed_calling 0 4 2)
  have hgood : ∀ v ∈ (({} : Capturer).log (twiceThen (calling 0 4 2))).flatten,
      v.taken?.isSome → v.fault? = none := by
    rw [log_twiceThen, visits_calling_twice, capturedNodes_calling_twice]
    decide
  exact ⟨hmodels, hgood, (grounded_captureAll hmodels).2.2.2.1 hgood⟩

/-- A model that calls a convolution twice whose padding is a rule. -/
def callingRule : Model :=
  .composite 0 (.steps [.call "a", .call "a"])
    [("a", .leaf 1 (.conv2d ⟨.whole 4, .uniform (.whole 3), .uniform (.whole 1), .rule "same",
      .whole 1, true⟩))]

theorem capturedNodes_callingRule : callingRule.capturedNodes =
    List.replicate 2 (.module "a" (.leaf 1 (.conv2d ⟨.whole 4, .uniform (.whole 3),
      .uniform (.whole 1), .rule "same", .whole 1, true⟩)) true) := by
  have hgraph := Model.remarkedGraph_eq_ok (m := callingRule) (k := 0) rfl rfl (by decide +kernel)
    (by decide +kernel) (by decide +kernel) rfl rfl rfl
  unfold Model.capturedNodes Model.graph
  rw [hgraph]
  rfl

/-- The padding stops the first capture of the model behind the tag. The second capture finds the
tag, and goes well: it declares two layers that share under a tag for which there is no layer. -/
theorem not_grounded_captureAll :
    callingRule.WellFormed ∧
      (({} : Capturer).capture callingRule none).1.tags = [("a", "a")] ∧
      ¬Defines (({} : Capturer).capture callingRule none).1.declarations "a" ∧
      (({} : Capturer).capture callingRule none).2 = some (.textualSize "same") ∧
      (({} : Capturer).captureAll [(callingRule, none), (callingRule, none)]).declarations =
        [⟨"netconfig", "start"⟩, ⟨"netconfig", "start"⟩, ⟨"layer[+1]", "shared:a"⟩,
          ⟨"layer[+1]", "shared:a"⟩, ⟨"netconfig", "end"⟩] ∧
      ¬(({} : Capturer).captureAll [(callingRule, none), (callingRule, none)]).Grounded := by
  have hfirst : (({} : Capturer).capture callingRule none) =
      (⟨[⟨"netconfig", "start"⟩], [("a", "a")], callingRule.headNotices ++ []⟩,
        some (.textualSize "same")) := by
    rw [capture_eq, capturedNodes_callingRule]
    rfl
  have hsecond : (({} : Capturer).captureAll [(callingRule, none), (callingRule, none)]) =
      ⟨[⟨"netconfig", "start"⟩, ⟨"netconfig", "start"⟩, ⟨"layer[+1]", "shared:a"⟩,
        ⟨"layer[+1]", "shared:a"⟩, ⟨"netconfig", "end"⟩], [("a", "a")],
        callingRule.headNotices ++ []⟩ := by
    change ((({} : Capturer).capture callingRule none).1.capture callingRule none).1 = _
    rw [hfirst, capture_eq, capturedNodes_callingRule]
    rfl
  rw [hfirst, hsecond]
  refine ⟨.of_nodup (by decide) (by decide) (by decide), rfl, by decide, rfl, rfl,
    fun hgrounded => ?_⟩
  exact absurd (hgrounded.tags ("a", "a") List.mem_cons_self) (by decide)

end Capturer

end NetPlan
