import Mathlib.Data.List.Forall2
import NetPlan.Proofs.Archive.Cut

/-!
# Archives that were not finished

Writing stops where a number does not fit its word, and what stands there by then is left. It is a
proper beginning of a complete archive: of the archive of the outline in which the layers are
**mended** (`Layer.mended`), every number that does not fit replaced by zero
(`exists_archive_of_write_fault`). So nothing can be read from it, wherever the writing stopped, be
it behind whole layers, behind the kind of a layer or behind the length of its nodes
(`write_interrupted`).
-/

namespace NetPlan

open Archive

/-- Some number of an outline does not fit its word. -/
def Outline.Overflows (o : Outline) : Prop :=
  ¬FitsSigned o.header.nodeCount ∨ ¬FitsSigned o.header.layerCount ∨
    ¬FitsUnsigned o.header.shape.channels ∨ ¬FitsUnsigned o.header.shape.height ∨
    ¬FitsUnsigned o.header.shape.width ∨
    ∃ l ∈ o.layers, ¬FitsSigned l.primary ∨ ∃ n ∈ l.nodes, ¬FitsSigned n

/-- A layer fits if its primary layer and all nodes that it touches do. -/
theorem Layer.fits_iff {l : Layer} :
    l.Fits ↔ FitsSigned l.primary ∧ ∀ n ∈ l.nodes, FitsSigned n := by
  simp only [Layer.nodes, List.forall_mem_append]
  exact ⟨fun h => ⟨h.primary, h.inputs, h.outputs⟩, fun ⟨hp, hi, ho⟩ => ⟨hp, hi, ho⟩⟩

theorem Header.fits_iff {h : Header} :
    h.Fits ↔ FitsSigned h.nodeCount ∧ FitsSigned h.layerCount ∧ FitsUnsigned h.shape.channels ∧
      FitsUnsigned h.shape.height ∧ FitsUnsigned h.shape.width :=
  ⟨fun h => ⟨h.nodeCount, h.layerCount, h.channels, h.height, h.width⟩,
    fun ⟨hn, hl, hc, hh, hw⟩ => ⟨hn, hl, hc, hh, hw⟩⟩

/-- Some number overflows unless the header and each layer fit. -/
theorem Outline.overflows_iff {o : Outline} :
    o.Overflows ↔ ¬(o.header.Fits ∧ ∀ l ∈ o.layers, l.Fits) := by
  simp only [Outline.Overflows, Header.fits_iff, Layer.fits_iff, not_and_or, not_forall,
    exists_prop,
    or_assoc]

/-! ### Mending -/

namespace Archive

/-- The number, or zero if it does not fit a signed word. -/
def mended (n : Int) : Int :=
  if FitsSigned n then n else 0

theorem mended_of_fits {n : Int} (h : FitsSigned n) : mended n = n :=
  if_pos h

theorem fitsSigned_mended (n : Int) : FitsSigned (mended n) := by
  unfold mended
  split
  · assumption
  · decide

theorem fitsSigned_of_mem_map_mended {ns : List Int} {n : Int} (h : n ∈ ns.map mended) :
    FitsSigned n := by
  obtain ⟨m, -, rfl⟩ := List.mem_map.mp h
  exact fitsSigned_mended m

end Archive

/-- The layer in which each number that does not fit is replaced by zero. -/
def Layer.mended (l : Layer) : Layer :=
  { l with
    primary := Archive.mended l.primary
    inputs := l.inputs.map Archive.mended
    outputs := l.outputs.map Archive.mended }

/-- A mended layer fits as a whole. -/
theorem Layer.fits_mended (l : Layer) : l.mended.Fits where
  primary := fitsSigned_mended l.primary
  inputs _ := fitsSigned_of_mem_map_mended
  outputs _ := fitsSigned_of_mem_map_mended

/-- The outline with mended layers. -/
def Outline.mended (o : Outline) : Outline :=
  { o with layers := o.layers.map Layer.mended }

/-- Mending is all that an outline needs whose header is good and whose sequences are short. -/
theorem Outline.archivable_mended {o : Outline} (hcount : o.header.layerCount = o.layers.length)
    (hheader : o.header.Fits)
    (hshort : ∀ l ∈ o.layers, l.inputs.length ≤ maxSequenceLength ∧
      l.outputs.length ≤ maxSequenceLength) : o.mended.Archivable where
  layerCount := by simpa [Outline.mended] using hcount
  header := hheader
  layers := by
    simp only [Outline.mended, List.forall_mem_map]
    exact fun l _ => l.fits_mended
  short := by
    simpa only [Outline.mended, Layer.mended, List.forall_mem_map, List.length_map] using hshort

namespace Archive

/-! ### Pieces with gaps -/

/-- A piece and what stands in its place where all pieces have bytes: the same bytes, or any where
it has none. -/
inductive Fills : Option Bytes → Option Bytes → Prop
  | same (bs : Bytes) : Fills (some bs) (some bs)
  | gap {bs : Bytes} (h : bs ≠ []) : Fills none (some bs)

/-- Writing that stops at a gap has written a proper beginning of what is written without gaps. -/
theorem exists_more_of_fills {ps qs : List (Option Bytes)} (h : List.Forall₂ Fills ps qs)
    (hfault : (writePieces ps).fault ≠ none) :
    ∃ more, more ≠ [] ∧ (writePieces qs).bytes = (writePieces ps).bytes ++ more := by
  induction h with
  | nil => exact absurd rfl hfault
  | cons hpiece _ ih =>
    cases hpiece with
    | same bs =>
      obtain ⟨more, hmore, heq⟩ := ih hfault
      refine ⟨more, hmore, ?_⟩
      simp only [writePieces, heq, List.append_assoc]
    | gap hbs => exact ⟨_, List.append_ne_nil_of_left_ne_nil hbs _, rfl⟩

/-- Mended numbers have their words where the numbers themselves may have none. -/
theorem fills_signedWords? (ns : List Int) :
    Fills (signedWords? ns) (signedWords? (ns.map mended)) := by
  cases hns : signedWords? ns with
  | some bs =>
    have hfits : ∀ n ∈ ns, FitsSigned n := signedWords?_isSome_iff.mp (by simp [hns])
    rw [List.map_congr_left fun n hn => mended_of_fits (hfits n hn), List.map_id', hns]
    exact .same bs
  | none =>
    have hsome : (signedWords? (ns.map mended)).isSome :=
      signedWords?_isSome_iff.mpr fun n => fitsSigned_of_mem_map_mended
    obtain ⟨bs, hbs⟩ := Option.isSome_iff_exists.mp hsome
    have hlength := length_signedWords? hbs
    rw [hbs]
    refine .gap fun hempty => ?_
    -- the numbers would be none at all, and these have bytes
    rw [hempty, List.length_nil, List.length_map] at hlength
    obtain rfl : ns = [] := List.length_eq_zero_iff.mp (by omega)
    cases hns

theorem fills_nodePieces (ns : List Int) :
    List.Forall₂ Fills (nodePieces ns) (nodePieces (ns.map mended)) := by
  simp only [nodePieces, List.length_map]
  exact .cons (.same _) (.cons (fills_signedWords? ns) .nil)

/-- Piece by piece, a mended layer fills the gaps of the layer. -/
theorem fills_layerPieces (l : Layer) :
    List.Forall₂ Fills (layerPieces l) (layerPieces l.mended) := by
  have hhead : Fills (signedWords? [l.primary, l.kind.code])
      (signedWords? [mended l.primary, l.kind.code]) := by
    have hfills := fills_signedWords? [l.primary, l.kind.code]
    simpa only [List.map_cons, List.map_nil, mended_of_fits l.kind.fitsSigned_code] using hfills
  exact .cons hhead (List.rel_append (fills_nodePieces l.inputs) (fills_nodePieces l.outputs))

/-- An outline whose header fits has the same pieces as the mended one, but for gaps. -/
theorem fills_pieces {o : Outline} (h : o.header.Fits) :
    List.Forall₂ Fills (pieces o) (pieces o.mended) := by
  obtain ⟨record, hrecord⟩ := Option.isSome_iff_exists.mp (headerRecord?_isSome_iff.mpr h)
  have hlayers (ls : List Layer) : List.Forall₂ Fills (ls.flatMap layerPieces)
      ((ls.map Layer.mended).flatMap layerPieces) := by
    induction ls with
    | nil => exact .nil
    | cons l ls ih => exact List.rel_append (fills_layerPieces l) ih
  simp only [pieces, Outline.mended, hrecord]
  exact .cons (.same record) (hlayers o.layers)

/-! ### Writing that stops -/

theorem writePieces_fault_cases (ps : List (Option Bytes)) :
    (writePieces ps).fault = none ∨ (writePieces ps).fault = some .fieldOverflow := by
  induction ps with
  | nil => exact .inl rfl
  | cons piece ps ih =>
    cases piece with
    | none => exact .inr rfl
    | some bs => exact ih

variable {o : Outline}

/-- Where the header counts the layers, writing fails exactly by a number that does not fit. -/
theorem write_fault_eq_some_iff (h : o.header.layerCount = o.layers.length) :
    (write o).fault = some .fieldOverflow ↔ o.Overflows := by
  have hnone : (write o).fault = none ↔ o.header.Fits ∧ ∀ l ∈ o.layers, l.Fits := by
    simp only [write_fault_eq_none_iff, h, true_and]
  rw [Outline.overflows_iff, ← hnone, write_of_count_eq h]
  obtain hfault | hfault := writePieces_fault_cases (pieces o) <;> simp [hfault]

/-- What has been written where writing fails is a proper beginning of some archive. -/
theorem exists_archive_of_write_fault
    (hshort : ∀ l ∈ o.layers, l.inputs.length ≤ maxSequenceLength ∧
      l.outputs.length ≤ maxSequenceLength) (hfault : (write o).fault ≠ none) :
    ∃ o' more, o'.Archivable ∧ more ≠ [] ∧ (write o').bytes = (write o).bytes ++ more := by
  by_cases hgood : o.header.layerCount = o.layers.length ∧ o.header.Fits
  · obtain ⟨hcount, hheader⟩ := hgood
    have harchivable := Outline.archivable_mended hcount hheader hshort
    rw [write_of_count_eq hcount] at hfault ⊢
    obtain ⟨more, hmore, heq⟩ := exists_more_of_fills (fills_pieces hheader) hfault
    exact ⟨o.mended, more, harchivable, hmore,
      (congrArg Written.bytes (write_of_count_eq harchivable.layerCount)).trans heq⟩
  · -- nothing at all has been written, which begins any archive
    have hnothing : (write o).bytes = [] := by
      obtain hcount | hheader := not_and_or.mp hgood
      · rw [write_of_count_ne hcount]
      · exact write_bytes_eq_nil_of_not_fits hheader
    refine ⟨{}, (write {}).bytes, ?_, by decide +kernel, by rw [hnothing, List.nil_append]⟩
    exact ⟨rfl, ⟨by decide, by decide, by decide, by decide, by decide⟩, by simp, by simp⟩

/-- **What was not finished is not read.** Of an outline whose header does not count its layers
nothing is written. Of any other the writing stops exactly if some number does not fit its word. And
wherever it stops, what has been written by then is refused as no archive. -/
theorem write_interrupted (o : Outline)
    (hshort : ∀ l ∈ o.layers, l.inputs.length ≤ maxSequenceLength ∧
      l.outputs.length ≤ maxSequenceLength) :
    (o.header.layerCount ≠ o.layers.length →
      write o = { bytes := [], fault := some .layerCountMismatch }) ∧
    (o.header.layerCount = o.layers.length →
      ((write o).fault = some .fieldOverflow ↔ o.Overflows) ∧
      ((write o).fault = none ↔ ¬o.Overflows)) ∧
    (∀ s : Source, (write o).fault ≠ none → s.rest = (write o).bytes →
      ∃ fault s', read.run s = .error fault s' ∧ fault.category = .archive) := by
  refine ⟨write_of_count_ne, fun hcount => ⟨write_fault_eq_some_iff hcount, ?_⟩,
    fun s hfault hs => ?_⟩
  · rw [write_fault_eq_none_iff, Outline.overflows_iff, not_not]
    exact ⟨fun h => h.2, fun h => ⟨hcount, h⟩⟩
  · obtain ⟨o', more, harchivable, hmore, heq⟩ := exists_archive_of_write_fault hshort hfault
    have hpre : s.rest <+: (write o').bytes := ⟨more, by rw [hs, heq]⟩
    refine read_eq_error_of_isPrefix (yields_of_archivable harchivable) hpre fun hall => hmore ?_
    rw [hs, heq] at hall
    exact List.self_eq_append_right.mp hall

/-- An outline whose second layer writes a node that does not fit, behind one that does. -/
def overflowing : Outline :=
  { header := { nodeCount := 3, layerCount := 2, shape := ⟨1, 28, 28⟩, finalized := true }
    layers := [⟨.fullc, [0], [1], -1⟩, ⟨.concat, [0, 1], [2, 2147483648], -1⟩] }

/-- Writing stops in the middle of that outline, and what is written by then is turned down. -/
theorem write_interrupted_overflowing :
    (∀ l ∈ overflowing.layers, l.inputs.length ≤ maxSequenceLength ∧
      l.outputs.length ≤ maxSequenceLength) ∧
    (write overflowing).fault = some .fieldOverflow ∧ (write overflowing).bytes.length = 216 ∧
      ∃ fault s', read.run { rest := (write overflowing).bytes, sized := false } = .error fault s' ∧
        fault.category = .archive := by
  have hshort : ∀ l ∈ overflowing.layers, l.inputs.length ≤ maxSequenceLength ∧
      l.outputs.length ≤ maxSequenceLength := by decide
  obtain ⟨-, hfault, hread⟩ := write_interrupted overflowing hshort
  have hoverflow : (write overflowing).fault = some .fieldOverflow := by decide +kernel
  exact ⟨hshort, hoverflow, by decide +kernel, hread _ (by simp [hoverflow]) rfl⟩

end Archive

end NetPlan
