import NetPlan.Proofs.Declaration.Reading
import NetPlan.Proofs.Layer.Sound
import NetPlan.Proofs.Plan.Failure
import NetPlan.Proofs.Plan.Revalidation

/-!
# Longer configurations

A configuration from some entries is compared with one that has further entries behind them. A pass
looks at one entry after another and only adds at the end of what it has collected, so at each point
it **begins** what it will be later (`Pass.Begins`): one move adds a layer, a tag, a setting or a
notice behind the others, or nothing.

So entries that are turned down are turned down in the same way whatever stands behind them, and if
entries are accepted, so are those at their start, which leave the beginning of what all of them
leave (`Plan.configure_append`).
-/

namespace NetPlan

/-! ### Beginnings -/

section

variable {α : Type} {xs ys : List α} {xss yss zss : List (List α)}

/-- Each list among some begins the one at its place among others. -/
def BeginsEach (xss yss : List (List α)) : Prop :=
  ∀ (k : Nat) (xs : List α), xss[k]? = some xs → ∃ ys, yss[k]? = some ys ∧ xs <+: ys

namespace BeginsEach

theorem refl (xss : List (List α)) : BeginsEach xss xss := by
  intro k xs hxs
  exact ⟨xs, hxs, List.prefix_rfl⟩

theorem trans (h : BeginsEach xss yss) (h' : BeginsEach yss zss) : BeginsEach xss zss := by
  intro k xs hxs
  obtain ⟨ys, hys, hpre⟩ := h k xs hxs
  obtain ⟨zs, hzs, hpre'⟩ := h' k ys hys
  exact ⟨zs, hzs, hpre.trans hpre'⟩

/-- More lists behind some do not change those at the places so far. -/
theorem of_prefix (h : xss <+: yss) : BeginsEach xss yss := by
  intro k xs hxs
  exact ⟨xs, h.getElem?_eq_some hxs, List.prefix_rfl⟩

/-- The list at the end may grow. -/
theorem concat (xss : List (List α)) (h : xs <+: ys) : BeginsEach (xss ++ [xs]) (xss ++ [ys]) := by
  intro k zs hzs
  obtain hzs | ⟨rfl, rfl⟩ := List.getElem?_concat_eq_some_iff.mp hzs
  · exact ⟨zs, List.getElem?_concat_eq_some_iff.mpr (.inl hzs), List.prefix_rfl⟩
  · exact ⟨ys, List.getElem?_concat_length, h⟩

/-- Empty lists may be put behind, here not more than there. -/
theorem rightpad {m n : Nat} (h : BeginsEach xss yss) (hmn : m ≤ n) :
    BeginsEach (xss.rightpad m []) (yss.rightpad n []) := by
  intro k xs hxs
  by_cases hk : k < xss.length
  · rw [List.rightpad, List.getElem?_append_left hk] at hxs
    obtain ⟨ys, hys, hpre⟩ := h k xs hxs
    exact ⟨ys, (List.prefix_append ..).getElem?_eq_some hys, hpre⟩
  · rw [List.rightpad, List.getElem?_append_right (Nat.le_of_not_lt hk),
      List.getElem?_replicate] at hxs
    split at hxs
    · -- an empty list begins whatever stands at its place
      obtain rfl := Option.some.inj hxs
      have hk' : k < (yss.rightpad n []).length := by
        simp only [List.rightpad, List.length_append, List.length_replicate]
        omega
      exact ⟨_, List.getElem?_eq_getElem hk', List.nil_prefix⟩
    · cases hxs

end BeginsEach

end

/-- More layers touch no fewer nodes. -/
theorem countNodes_mono {ls ms : List Layer} (h : ls <+: ms) : countNodes ls ≤ countNodes ms := by
  obtain heq | ⟨l, hl, n, hn, heq⟩ := countNodes_eq_zero_or ls
  · rw [heq]
    exact countNodes_nonneg ms
  · have hlt : n < countNodes ms := lt_countNodes (h.subset hl) hn
    omega

/-- A plan holds the beginning of what another one holds. -/
structure Plan.Begins (p q : Plan) : Prop where
  layers : p.layers <+: q.layers
  tags : p.tags <+: q.tags
  globals : p.globals <+: q.globals
  locals : BeginsEach p.locals q.locals
  nodeCount : p.header.nodeCount ≤ q.header.nodeCount

namespace Pass

variable {base : Outline} {p p' q r : Pass} {e : Entry} {es : List Entry} {f : Fault}

/-- A pass has collected the beginning of what another one has collected. -/
structure Begins (p q : Pass) : Prop where
  layers : p.layers <+: q.layers
  tags : p.tags <+: q.tags
  globals : p.globals <+: q.globals
  locals : BeginsEach p.locals q.locals
  notices : p.notices <+: q.notices

namespace Begins

theorem refl (p : Pass) : Begins p p :=
  ⟨List.prefix_rfl, List.prefix_rfl, List.prefix_rfl, .refl _, List.prefix_rfl⟩

theorem trans (h : Begins p q) (h' : Begins q r) : Begins p r :=
  ⟨h.layers.trans h'.layers, h.tags.trans h'.tags, h.globals.trans h'.globals,
    h.locals.trans h'.locals, h.notices.trans h'.notices⟩

/-- Passes of which one begins the other leave outlines of which one begins the other. -/
theorem outline (h : Begins p q) (base : Outline) :
    (p.outline base).layers <+: (q.outline base).layers ∧
      (p.outline base).header.nodeCount ≤ (q.outline base).header.nodeCount := by
  unfold Pass.outline
  split
  · exact ⟨List.prefix_rfl, Int.le_refl _⟩
  · have hlayers : base.layers ++ p.layers <+: base.layers ++ q.layers :=
      (List.prefix_append_right_inj _).mpr h.layers
    exact ⟨hlayers, countNodes_mono hlayers⟩

/-- Passes of which one begins the other leave plans of which one begins the other. -/
theorem plan (h : Begins p q) (base : Outline) : (p.plan base).Begins (q.plan base) := by
  obtain ⟨hlayers, hcount⟩ := h.outline base
  refine ⟨hlayers, h.tags, h.globals, ?_, hcount⟩
  rw [locals_plan, locals_plan]
  exact h.locals.rightpad hlayers.length_le

end Begins

/-- One move adds at the end. -/
theorem Advances.begins (h : Advances base p e p') : Begins p p' := by
  have hsame := Begins.refl p
  cases h with
  | shapeIgnored | blockMarker => exact { hsame with notices := List.prefix_append .. }
  | shape | updater | blockStart | blockEnd => exact { hsame with }
  | globalSetting => exact { hsame with globals := List.prefix_append .. }
  | @layer l tags hrole hread hadmits =>
    have hlocals : p.locals <+: p.locals ++ [[]] := List.prefix_append ..
    have htags : p.tags <+: tags := by
      obtain ⟨-, rfl, -⟩ | ⟨-, -, rfl | ⟨tag, -, rfl⟩⟩ := Declaration.tag_cases_of_read hread
      · exact List.prefix_rfl
      · exact List.prefix_rfl
      · exact List.prefix_append ..
    exact { hsame with
      layers := by simp [Pass.layers]
      locals := by simpa [Pass.locals] using BeginsEach.of_prefix hlocals
      tags := htags }
  | @ownSetting slot older hrole hmode hslots hshared =>
    -- the settings of the layer declared last stand at the end
    have hlocals := BeginsEach.concat (older.reverse.map (·.settings))
      (List.prefix_append slot.settings [e])
    exact { hsame with
      layers := by simp [Pass.layers, hslots]
      locals := by simpa [Pass.locals, hslots] using hlocals }

/-- So a pass begins what it is behind further entries. -/
theorem Completes.begins (h : Completes base p es p') : Begins p p' :=
  h.preserves (P := fun q => Begins p q) (fun hmove hq => hq.trans hmove.begins) (.refl p)

end Pass

namespace Plan

open Pass

/-- **Configurations are told from their start on.** On any plan, entries that are turned down are
turned down likewise with others behind them: with the same fault, the same notices and the same
plan left. Entries that are accepted with others behind them are accepted by themselves, and what
they leave begins what all of them leave, as do their notices. -/
theorem configure_append (p : Plan) (es fs : List Entry) :
    let shorter := p.configure (.ofList es)
    let longer := p.configure (.ofList (es ++ fs))
    (shorter.fault ≠ none → longer = shorter) ∧
    (longer.fault = none →
      shorter.fault = none ∧ shorter.plan.Begins longer.plan ∧
        shorter.notices <+: longer.notices) := by
  intro shorter longer
  refine ⟨fun h => ?_, fun h => ?_⟩
  · obtain ⟨f, hf⟩ := Option.ne_none_iff_exists'.mp h
    have hrun : (run p.outline (start p) es).2 = some f :=
      (fault_configure_ofList p es).symm.trans hf
    have happend := run_append_of_error hrun fs
    change configure p _ = configure p _
    rw [configure, configure, Feed.entries_ofList, Feed.entries_ofList, happend]
    rfl
  · -- the pass over all entries goes on from where the one over the first of them ends
    obtain ⟨q, -, hq, hlonger⟩ := completes_of_configure h
    obtain ⟨r, hr, hrest⟩ := completes_append_iff.mp hq
    have hshorter : shorter = { plan := r.plan p.outline, notices := r.notices } :=
      configure_of_completes rfl hr
    have hbegins : Pass.Begins r q := hrest.begins
    rw [hshorter, show longer = _ from hlonger]
    exact ⟨rfl, hbegins.plan p.outline, hbegins.notices⟩

end Plan

end NetPlan
