import NetPlan.Plan.Storage
import NetPlan.Proofs.Archive.RoundTrip
import NetPlan.Proofs.Plan.WellFormed

/-!
# Plans that are saved and loaded

The archive of a well-formed outline is complete as long as its numbers of nodes and layers fit a
word, and otherwise it is empty (`Outline.WellFormed.write_bytes_eq_nil`). So what can be loaded
from it, whatever the source, is the outline itself (`Outline.WellFormed.eq_of_read`).

Saving, loading and configuring anew close: from a configured plan they lead back to this plan.
-/

namespace NetPlan

open Archive

theorem IsNode.fitsSigned {n : Int} (h : IsNode n) : FitsSigned n := by
  obtain ⟨hlow, hhigh⟩ := h
  simp only [maxNodeIndex] at hhigh
  exact ⟨by omega, by omega⟩

theorem IsDimension.fitsUnsigned {n : Int} (h : IsDimension n) : FitsUnsigned n := by
  obtain ⟨hlow, hhigh⟩ := h
  simp only [maxDimension] at hhigh
  exact ⟨hlow, by omega⟩

/-- The numbers of sound layers fit, if there are not too many layers to count. -/
theorem LayersSound.fits {ls : List Layer} (h : LayersSound ls)
    (hlength : (ls.length : Int) < 2147483648) {l : Layer} (hl : l ∈ ls) : l.Fits := by
  have hnode {n : Int} (hn : n ∈ l.nodes) : FitsSigned n := ((h.joins l hl).isNode hn).fitsSigned
  refine ⟨?_, fun n hn => hnode (List.mem_append_left _ hn),
    fun n hn => hnode (List.mem_append_right _ hn)⟩
  cases hs : l.isShared with
  | false => exact h.plain l hl hs ▸ by decide
  | true =>
    obtain ⟨i, hi⟩ := List.getElem?_of_mem hl
    obtain ⟨j, hj, hprimary, -⟩ := h.shared i l hi hs
    have hlt := (List.getElem?_eq_some_iff.mp hi).1
    rw [hprimary]
    exact ⟨by omega, by omega⟩

/-- A sequence of nodes of a sound layer has a single node. -/
theorem LayersSound.length_nodes_le {ls : List Layer} (h : LayersSound ls) {l : Layer}
    (hl : l ∈ ls) :
    l.inputs.length ≤ maxSequenceLength ∧ l.outputs.length ≤ maxSequenceLength := by
  obtain ⟨a, b, hin, hout, -, -⟩ := h.joins l hl
  rw [hin, hout, List.length_singleton, List.length_singleton]
  exact ⟨by decide, by decide⟩

namespace Outline.WellFormed

variable {o : Outline}

/-- The header of a finalized outline fits, if there are not too many layers to count. -/
theorem header_fits (h : o.WellFormed) (hfin : o.header.finalized = true)
    (hlength : (o.layers.length : Int) < 2147483648) : o.header.Fits := by
  have hnonneg := countNodes_nonneg o.layers
  have hle := h.layers.countNodes_le
  simp only [maxNodeIndex] at hle
  refine ⟨?_, ?_, h.shape.channels.fitsUnsigned, h.shape.height.fitsUnsigned,
    h.shape.width.fitsUnsigned⟩
  · rw [h.nodeCount hfin]
    exact ⟨by omega, by omega⟩
  · rw [h.layerCount]
    exact ⟨by omega, by omega⟩

/-- A well-formed outline is written to its end if its header fits. -/
theorem write_fault_eq_none_iff (h : o.WellFormed) :
    (write o).fault = none ↔ o.header.Fits := by
  rw [Archive.write_fault_eq_none_iff]
  refine ⟨fun hfits => hfits.2.1, fun hheader => ⟨h.layerCount, hheader, fun l hl => ?_⟩⟩
  have hcount := hheader.layerCount.2
  rw [h.layerCount] at hcount
  exact h.layers.fits hcount hl

/-- Nothing at all is written of an outline that cannot be written as a whole. -/
theorem write_bytes_eq_nil (h : o.WellFormed) (hfault : (write o).fault ≠ none) :
    (write o).bytes = [] :=
  write_bytes_eq_nil_of_not_fits fun hfits => hfault (h.write_fault_eq_none_iff.mpr hfits)

end Outline.WellFormed

/-- From the archive of a well-formed outline nothing else can be read. -/
theorem Outline.WellFormed.eq_of_read {o o' : Outline} (h : o.WellFormed) {s s' : Source}
    (hs : s.rest = (write o).bytes) (hread : read.run s = .ok o' s') : o' = o := by
  by_cases hfault : (write o).fault = none
  · have hyields := yields_read hfault fun l hl => h.layers.length_nodes_le hl
    exact (uniform_read.eq_of_yields hyields (hs.trans (List.append_nil _).symm) hread).1
  · -- the archive is empty, and a reader needs a record at least
    have hle := recordSize_le_of_read hread
    rw [hs, h.write_bytes_eq_nil hfault] at hle
    cases hle

namespace Plan

variable {p q : Plan} {s : Source} {es : List Entry}

/-- Loading an archive of a well-formed plan leaves a well-formed plan, even if it fails. -/
theorem WellFormed.load (hp : p.WellFormed) (hq : q.WellFormed) (hs : s.rest = q.save.bytes) :
    (p.load s).1.plan.WellFormed := by
  unfold Plan.load
  cases hread : read.run s with
  | error fault s' => exact hp
  | ok o s' =>
    obtain rfl := hq.outline.eq_of_read hs hread
    exact wellFormed_adopt p hq.outline

theorem WellFormed.ofSource (hq : q.WellFormed) (hs : s.rest = q.save.bytes)
    (h : Plan.ofSource s = .ok p) : p.WellFormed := by
  unfold Plan.ofSource at h
  cases hread : read.run s with
  | error fault s' => simp [hread] at h
  | ok o s' =>
    obtain rfl := hq.outline.eq_of_read hs hread
    simp only [hread, Except.ok.injEq] at h
    exact h ▸ wellFormed_adopt {} hq.outline

/-! ### The way back -/

/-- A plan that holds the outline of a configured plan is configured to that plan by the same
entries, as long as it ends up with the same updater. -/
theorem configure_eq_of_outline_eq (h : (({} : Plan).configure (.ofList es)).fault = none)
    (houtline : p.outline = (({} : Plan).configure (.ofList es)).plan.outline)
    (hupdater : (lastUpdater? es).getD p.updater = (lastUpdater? es).getD "sgd") :
    (p.configure (.ofList es)).fault = none ∧
      (p.configure (.ofList es)).plan = (({} : Plan).configure (.ofList es)).plan := by
  obtain ⟨hdecl, htags, hglobals, hlocals⟩ := declared_of_configure h
  have hnew := updater_of_configure h
  rw [Feed.entries_ofList] at hdecl htags hglobals hlocals hnew
  have hlayers : p.layers = (({} : Plan).configure (.ofList es)).plan.layers :=
    congrArg Outline.layers houtline
  have hfin : p.finalized = true := by
    rw [finalized, header, houtline]
    exact finalized_of_configure h
  have hpre : (declared es).plan.layers <+: p.layers :=
    ⟨[], by rw [List.append_nil, layers_declared h, hlayers]⟩
  obtain ⟨hok, hplan⟩ := configure_of_declared hfin hdecl hpre
  refine ⟨hok, hplan.trans ?_⟩
  rw [houtline, hlayers, hupdater, ← htags, ← hnew, ← hglobals, ← hlocals]

/-- The archive of a plan is complete if the plan was configured with few enough layers. -/
theorem save_fault_of_configure (h : (({} : Plan).configure (.ofList es)).fault = none)
    (hcount : es.countP (isLayerKey ·.key) < 2 ^ 31) :
    (({} : Plan).configure (.ofList es)).plan.save.fault = none := by
  have hwf := (wellFormed_new.configure (.ofList es)).outline
  refine hwf.write_fault_eq_none_iff.mpr (hwf.header_fits (finalized_of_configure h) ?_)
  obtain ⟨q, -, hq, heq⟩ := completes_of_configure h
  have hlength := hq.length_layers
  have hroles : es.countP (·.role = .layer) = es.countP (isLayerKey ·.key) :=
    List.countP_congr fun e _ => by simp [Entry.role_eq_layer_iff]
  rw [Feed.entries_ofList, hroles, Pass.layers_start, List.length_nil, Nat.zero_add] at hlength
  rw [heq]
  have hlayers := congrArg List.length (Pass.layers_plan_new q)
  change ((q.plan {}).layers.length : Int) < _
  omega

/-- An archive that is complete makes the plan of the outline that was saved. -/
theorem ofSource_save (hp : p.WellFormed) (h : p.save.fault = none) (sized : Bool) :
    Plan.ofSource { rest := p.save.bytes, sized } = .ok (.ofOutline p.outline) := by
  have hyields := yields_read h fun l hl => hp.outline.layers.length_nodes_le hl
  have hrun := hyields { rest := p.save.bytes, sized } [] rfl (List.append_nil _).symm
  rw [Plan.ofSource, hrun]

/-- **Saving and configuring anew close.** A plan that entries configure, with fewer than `2 ^ 31`
layers, can be saved; its archive makes a plan with its outline; and the same entries configure that
plan, and the plan itself a second time, to the plan as it was. -/
theorem configure_save_load (es : List Entry)
    (h : (({} : Plan).configure (.ofList es)).fault = none)
    (hcount : es.countP (isLayerKey ·.key) < 2 ^ 31) (sized : Bool) :
    let p := (({} : Plan).configure (.ofList es)).plan
    p.save.fault = none ∧
    (∃ q, Plan.ofSource { rest := p.save.bytes, sized } = .ok q ∧ q.outline = p.outline ∧
      (q.configure (.ofList es)).fault = none ∧ (q.configure (.ofList es)).plan = p) ∧
    (p.configure (.ofList es)).fault = none ∧ (p.configure (.ofList es)).plan = p := by
  intro p
  have hsave := save_fault_of_configure h hcount
  have hagain : (p.configure (.ofList es)).fault = none ∧ (p.configure (.ofList es)).plan = p := by
    refine configure_eq_of_outline_eq h rfl ?_
    have hupdater : p.updater = (lastUpdater? es).getD "sgd" := updater_of_configure h
    rw [hupdater]
    cases lastUpdater? es <;> rfl
  refine ⟨hsave, ⟨.ofOutline p.outline, ?_, rfl, ?_⟩, hagain⟩
  · exact ofSource_save (wellFormed_new.configure _) hsave sized
  · exact configure_eq_of_outline_eq h rfl rfl

/-- Entries for two layers that share their parameters. -/
def tiedEntries : List Entry :=
  [⟨"input_shape", "1,28,28"⟩, ⟨"updater", "adam"⟩, ⟨"layer[0->1]", "fullc:fc"⟩, ⟨"nhidden", "10"⟩,
    ⟨"layer[+1]", "share:fc"⟩]

/-- The plan that they configure. -/
def tiedPlan : Plan :=
  (({} : Plan).configure (.ofList tiedEntries)).plan

/-- The plan of these entries goes the whole way round, by a source that does not know its size. -/
theorem configure_save_load_tiedEntries :
    (({} : Plan).configure (.ofList tiedEntries)).fault = none ∧
      tiedEntries.countP (isLayerKey ·.key) < 2 ^ 31 ∧
      ∃ q, Plan.ofSource { rest := tiedPlan.save.bytes, sized := false } = .ok q ∧
        (q.configure (.ofList tiedEntries)).plan = tiedPlan := by
  have hok : (({} : Plan).configure (.ofList tiedEntries)).fault = none := by decide
  have hcount : tiedEntries.countP (isLayerKey ·.key) < 2 ^ 31 := by decide
  obtain ⟨-, ⟨q, hq, -, -, hplan⟩, -⟩ := configure_save_load tiedEntries hok hcount false
  exact ⟨hok, hcount, q, hq, hplan⟩

end Plan

end NetPlan
