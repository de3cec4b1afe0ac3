import NetPlan.Proofs.Declaration.Reading
import NetPlan.Proofs.Plan.Revalidation

/-!
# Well-formed plans

A plan is **well formed** if its header counts its layers and nodes, its layers are sound, its tags
lead to different layers that are not shared, and there is one list of settings for each layer,
which is empty for a shared one.

The invariant is kept by each move of a pass (`Pass.Advances.wellFormed`), so by a whole pass, and
what such a pass leaves on a well-formed plan is well formed (`Plan.WellFormed.of_completes`). A
configuration that fails only drops settings, hence `Plan.WellFormed.configure` for all feeds.
-/

namespace NetPlan

/-! ### Tags that lead to layers -/

/-- Different tags lead to different layers, none of them shared. -/
structure Registry.PointsInto (tags : Registry) (ls : List Layer) : Prop where
  tags_nodup : (tags.map (·.1)).Nodup
  indices_nodup : (tags.map (·.2)).Nodup
  plain : ∀ t ∈ tags, ∃ (i : Nat) (l : Layer), t.2 = i ∧ ls[i]? = some l ∧ l.isShared = false

namespace Registry.PointsInto

variable {tags : Registry} {ls ls' : List Layer}

theorem nil (ls : List Layer) : PointsInto [] ls :=
  ⟨by simp, by simp, by simp⟩

/-- Tags that lead to layers lead to the same ones when more layers stand behind. -/
theorem mono (h : tags.PointsInto ls) (hpre : ls <+: ls') : tags.PointsInto ls' := by
  refine ⟨h.tags_nodup, h.indices_nodup, fun t ht => ?_⟩
  obtain ⟨i, l, hi, hl, hplain⟩ := h.plain t ht
  exact ⟨i, l, hi, hpre.getElem?_eq_some hl, hplain⟩

/-- A new tag for a layer at the end. -/
theorem concat (h : tags.PointsInto ls) {tag : String} {l : Layer} (htag : tag ∉ tags.map (·.1))
    (hl : l.isShared = false) : (tags ++ [(tag, (ls.length : Int))]).PointsInto (ls ++ [l]) := by
  refine ⟨?_, ?_, fun t ht => ?_⟩
  · rw [List.map_append, List.nodup_append]
    refine ⟨h.tags_nodup, by simp, fun t ht t' ht' heq => htag ?_⟩
    obtain rfl : t' = tag := by simpa using ht'
    exact heq ▸ ht
  · rw [List.map_append, List.nodup_append]
    refine ⟨h.indices_nodup, by simp, fun n hn m hm => ?_⟩
    -- the indices that are taken are those of layers before the end
    obtain ⟨t, ht, rfl⟩ := List.mem_map.mp hn
    obtain ⟨i, k, hi, hk, -⟩ := h.plain t ht
    have hlt := (List.getElem?_eq_some_iff.mp hk).1
    obtain rfl : m = (ls.length : Int) := by simpa using hm
    omega
  · rcases List.mem_append.mp ht with ht | ht
    · exact (h.mono (List.prefix_append ls [l])).plain t ht
    · obtain rfl := List.mem_singleton.mp ht
      exact ⟨ls.length, l, rfl, by simp, hl⟩

end Registry.PointsInto

namespace Pass

variable {base : Outline} {p p' q : Pass} {e : Entry} {es : List Entry}

/-! ### Passes -/

/-- What a pass has collected makes sense. -/
structure WellFormed (p : Pass) : Prop where
  layers : LayersSound p.layers
  tags : p.tags.PointsInto p.layers
  settings : ∀ slot ∈ p.slots, slot.layer.isShared = true → slot.settings = []
  shape : p.shape.InRange

theorem wellFormed_start {p : Plan} (h : p.header.shape.InRange) : (start p).WellFormed :=
  ⟨layersSound_nil, .nil _, by simp [start], h⟩

theorem top_nonneg (h : LayersSound p.layers) : 0 ≤ p.top := by
  unfold top
  split
  · exact Int.le_refl 0
  · rename_i slot older hslots
    obtain ⟨a, b, -, hout, -, hb⟩ := h.joins slot.layer (by simp [Pass.layers, hslots])
    simpa [hout] using hb.1

/-- A layer that a declaration gives can be added at the end, with its tag. -/
private theorem WellFormed.declare (h : p.WellFormed) {l : Layer} {tags : Registry}
    (hread : Declaration.read e p.top p.slots.length p.tags = .ok (l, tags)) :
    LayersSound (p.layers ++ [l]) ∧ tags.PointsInto (p.layers ++ [l]) := by
  have hjoins := Declaration.joinsNodes_of_read (top_nonneg h.layers) hread
  have hpre := List.prefix_append p.layers [l]
  obtain ⟨hs, rfl, tag, htag⟩ | ⟨hs, hprimary, htags⟩ := Declaration.tag_cases_of_read hread
  · -- a tag leads to an earlier layer that is not shared, and this one becomes the primary layer
    refine ⟨h.layers.concat hjoins (by simp [hs]) fun _ => ?_, h.tags.mono hpre⟩
    obtain ⟨j, k, hj, hk, hks⟩ := h.tags.plain _ htag
    exact ⟨j, k, hj, hk, hks⟩
  · refine ⟨h.layers.concat hjoins (fun _ => hprimary) (by simp [hs]), ?_⟩
    obtain rfl | ⟨tag, htag, rfl⟩ := htags
    · exact h.tags.mono hpre
    · rw [← length_layers]
      exact h.tags.concat htag hs

namespace Advances

/-- **Each move keeps a pass well formed.** -/
theorem wellFormed (h : Advances base p e p') (hp : p.WellFormed) : p'.WellFormed := by
  cases h with
  | shapeIgnored | updater | blockStart | blockEnd | blockMarker | globalSetting =>
    exact ⟨hp.layers, hp.tags, hp.settings, hp.shape⟩
  | shape hrole hfin hread =>
    exact ⟨hp.layers, hp.tags, hp.settings, Shape.inRange_of_read hread⟩
  | @layer l tags hrole hread hadmits =>
    obtain ⟨hlayers, htags⟩ := hp.declare hread
    have heq : Pass.layers { p with slots := { layer := l } :: p.slots, tags, mode := .layerSeen } =
        p.layers ++ [l] := by
      simp [Pass.layers]
    refine ⟨heq ▸ hlayers, heq ▸ htags, fun slot hslot hs => ?_, hp.shape⟩
    rcases List.mem_cons.mp hslot with rfl | hslot
    · rfl
    · exact hp.settings slot hslot hs
  | @ownSetting slot older hrole hmode hslots hshared =>
    have heq : Pass.layers
        { p with slots := { slot with settings := slot.settings ++ [e] } :: older } = p.layers := by
      simp [Pass.layers, hslots]
    refine ⟨heq ▸ hp.layers, heq ▸ hp.tags, fun slot' hslot' hs => ?_, hp.shape⟩
    rcases List.mem_cons.mp hslot' with rfl | hslot'
    · rw [hshared] at hs
      cases hs
    · exact hp.settings slot' (by simp [hslots, hslot']) hs

end Advances

/-- A pass over a list keeps what it has collected well formed. -/
theorem Completes.wellFormed (h : Completes base p es q) (hp : p.WellFormed) : q.WellFormed :=
  h.preserves (fun hmove => hmove.wellFormed) hp

/-- A shared layer in a well-formed pass has no settings of its own. -/
theorem WellFormed.locals_eq_nil (h : p.WellFormed) {i : Nat} {l : Layer}
    (hl : p.layers[i]? = some l) (hs : l.isShared = true) : p.locals[i]? = some [] := by
  rw [Pass.layers, List.getElem?_map, Option.map_eq_some_iff] at hl
  obtain ⟨slot, hslot, rfl⟩ := hl
  have hmem : slot ∈ p.slots := by simpa using List.mem_of_getElem? hslot
  rw [Pass.locals, List.getElem?_map, hslot, Option.map_some, h.settings slot hmem hs]

/-- A shared layer has no settings of its own, whether it is declared in the pass or only fixed. -/
theorem WellFormed.rightpad_locals_eq_nil (h : p.WellFormed) {ls : List Layer}
    (hpre : p.layers <+: ls) {i : Nat} {l : Layer} (hl : ls[i]? = some l)
    (hs : l.isShared = true) : (p.locals.rightpad ls.length [])[i]? = some [] := by
  have hi := (List.getElem?_eq_some_iff.mp hl).1
  rcases Nat.lt_or_ge i p.locals.length with hlt | hge
  · obtain ⟨k, hk⟩ : ∃ k, p.layers[i]? = some k :=
      ⟨_, List.getElem?_eq_getElem (by simpa using hlt)⟩
    obtain rfl := Option.some.inj ((hpre.getElem?_eq_some hk).symm.trans hl)
    rw [List.rightpad, List.getElem?_append_left hlt]
    exact h.locals_eq_nil hk hs
  · rw [List.rightpad, List.getElem?_append_right hge, List.getElem?_replicate, if_pos (by omega)]

end Pass

/-! ### Plans -/

/-- An outline as building and loading make it. -/
structure Outline.WellFormed (o : Outline) : Prop where
  layerCount : o.header.layerCount = o.layers.length
  nodeCount : o.header.finalized = true → o.header.nodeCount = countNodes o.layers
  unfinished : o.header.finalized = false → o.layers = []
  layers : LayersSound o.layers
  shape : o.header.shape.InRange

namespace Plan

open Pass

/-- A plan as operations make it. -/
structure WellFormed (p : Plan) : Prop where
  outline : p.outline.WellFormed
  localCount : p.locals.length = p.layers.length
  settings : ∀ (i : Nat) (l : Layer), p.layers[i]? = some l → l.isShared = true →
    p.locals[i]? = some []
  tags : p.tags.PointsInto p.layers

theorem wellFormed_new : ({} : Plan).WellFormed where
  outline :=
    { layerCount := rfl
      nodeCount := fun _ => rfl
      unfinished := fun _ => rfl
      layers := layersSound_nil
      shape := ⟨by decide, by decide, by decide⟩ }
  localCount := rfl
  settings := by simp [layers]
  tags := .nil _

/-- Without settings, a plan is well formed as soon as its outline is and its tags lead there. -/
theorem wellFormed_clearSettings {p : Plan} (houtline : p.outline.WellFormed)
    (htags : p.tags.PointsInto p.layers) : p.clearSettings.WellFormed where
  outline := houtline
  localCount := by simp [clearSettings, layers]
  settings i l hl _ := by
    change p.layers[i]? = some l at hl
    simp only [clearSettings, List.getElem?_map, hl, Option.map_some]
  tags := htags

/-- A plan that takes over a well-formed outline, and drops its tags and settings for it, is well
formed. -/
theorem wellFormed_adopt (p : Plan) {o : Outline} (ho : o.WellFormed) : (p.adopt o).WellFormed :=
  wellFormed_clearSettings ho (.nil _)

/-- What a pass that ends well leaves on a well-formed plan is well formed. -/
theorem WellFormed.of_completes {p : Plan} {es : List Entry} {q : Pass} (hp : p.WellFormed)
    (h : Completes p.outline (start p) es q) : (q.plan p.outline).WellFormed := by
  have hq := h.wellFormed (wellFormed_start hp.outline.shape)
  cases hfin : p.outline.header.finalized with
  | false =>
    -- the outline is the one that the pass has built
    rw [plan_of_unfinished hfin (hp.outline.unfinished hfin)]
    exact
      { outline :=
          { layerCount := rfl
            nodeCount := fun _ => rfl
            unfinished := by simp
            layers := hq.layers
            shape := hq.shape }
        localCount := by simp [layers]
        settings := fun i l hl hs => hq.locals_eq_nil hl hs
        tags := hq.tags }
  | true =>
    -- the outline stands, and the pass has declared a beginning of it
    have hpre := h.prefix_of_finalized hfin List.nil_prefix
    have hlength : q.locals.length ≤ p.outline.layers.length := by
      simpa using hpre.length_le
    rw [plan_of_finalized hfin]
    exact
      { outline := hp.outline
        localCount := by
          change (q.locals.rightpad _ _).length = p.outline.layers.length
          simp only [List.rightpad, List.length_append, List.length_replicate]
          omega
        settings := fun i l hl hs => hq.rightpad_locals_eq_nil hpre hl hs
        tags := hq.tags.mono hpre }

/-- A configuration, whatever its feed and however it ends, leaves a well-formed plan. -/
theorem WellFormed.configure {p : Plan} (hp : p.WellFormed) (feed : Feed) :
    (p.configure feed).plan.WellFormed := by
  obtain ⟨q, -, hq, heq⟩ | ⟨f, -, heq⟩ := configure_cases p feed
  · rw [heq]
    exact hp.of_completes hq
  · rw [heq]
    exact wellFormed_clearSettings hp.outline hp.tags

/-- The same for a configuration from a text. -/
theorem WellFormed.configureText {p : Plan} (hp : p.WellFormed) (text : String) :
    (p.configureText text).plan.WellFormed := by
  unfold Plan.configureText
  split
  · exact hp.configure _
  · exact hp

end Plan

end NetPlan
