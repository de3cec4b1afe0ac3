import NetPlan.Proofs.Archive.Reader
import NetPlan.Proofs.Archive.Word
import NetPlan.Proofs.List

/-!
# Writing and reading back

An archive is complete if each of its pieces has bytes (`Writes`), and it has if the numbers of
header and layers fit their words (`write_fault_eq_none_iff`). The pieces of a header, of a
sequence of nodes, of a layer and of a list of layers are each read back by their own reader, so a
complete archive of an outline yields this outline (`yields_read`).
-/

namespace NetPlan

/-! ### What fits -/

/-- All numbers of a header fit their words. -/
structure Header.Fits (h : Header) : Prop where
  nodeCount : Archive.FitsSigned h.nodeCount
  layerCount : Archive.FitsSigned h.layerCount
  channels : Archive.FitsUnsigned h.shape.channels
  height : Archive.FitsUnsigned h.shape.height
  width : Archive.FitsUnsigned h.shape.width

/-- All numbers of a layer fit their words. -/
structure Layer.Fits (l : Layer) : Prop where
  primary : Archive.FitsSigned l.primary
  inputs : ∀ n ∈ l.inputs, Archive.FitsSigned n
  outputs : ∀ n ∈ l.outputs, Archive.FitsSigned n

theorem Kind.fitsSigned_code (k : Kind) : Archive.FitsSigned k.code := by
  cases k <;> decide

@[simp]
theorem Kind.ofCode?_code (k : Kind) : Kind.ofCode? k.code = some k := by
  cases k <;> rfl

namespace Archive

/-! ### Complete archives -/

/-- All pieces have bytes, and these are the bytes that are written. -/
def Writes (ps : List (Option Bytes)) (bs : Bytes) : Prop :=
  writePieces ps = { bytes := bs }

theorem writes_nil_iff {bs : Bytes} : Writes [] bs ↔ bs = [] := by
  simp [Writes, writePieces, eq_comm]

theorem writes_cons_iff {piece : Option Bytes} {ps : List (Option Bytes)} {bs : Bytes} :
    Writes (piece :: ps) bs ↔ ∃ b rest, piece = some b ∧ Writes ps rest ∧ bs = b ++ rest := by
  cases piece with
  | none => simp [Writes, writePieces]
  | some b =>
    cases hw : writePieces ps with
    | mk rest fault => cases fault <;> simp [Writes, writePieces, hw, eq_comm]

/-- Two runs of pieces have all their bytes if each run has. -/
theorem writes_append_iff {ps qs : List (Option Bytes)} {bs : Bytes} :
    Writes (ps ++ qs) bs ↔ ∃ b c, Writes ps b ∧ Writes qs c ∧ bs = b ++ c := by
  induction ps generalizing bs with
  | nil => simp [writes_nil_iff]
  | cons piece ps ih =>
    simp only [List.cons_append, writes_cons_iff, ih]
    constructor
    · rintro ⟨b, -, hpiece, ⟨c, d, hc, hd, rfl⟩, rfl⟩
      exact ⟨b ++ c, d, ⟨b, c, hpiece, hc, rfl⟩, hd, (List.append_assoc b c d).symm⟩
    · rintro ⟨-, d, ⟨b, c, hpiece, hc, rfl⟩, hd, rfl⟩
      exact ⟨b, c ++ d, hpiece, ⟨c, d, hc, hd, rfl⟩, List.append_assoc b c d⟩

/-- Writing stops at a piece without bytes and nowhere else. -/
theorem writePieces_fault_eq_none_iff {ps : List (Option Bytes)} :
    (writePieces ps).fault = none ↔ ∀ piece ∈ ps, piece.isSome := by
  induction ps with
  | nil => simp [writePieces]
  | cons piece ps ih =>
    cases piece with
    | none => simp [writePieces]
    | some b => simpa [writePieces] using ih

theorem writes_of_fault_eq_none {ps : List (Option Bytes)} (h : (writePieces ps).fault = none) :
    Writes ps (writePieces ps).bytes := by
  unfold Writes
  rw [← h]

/-! ### Headers -/

/-- The words at the start of a header record. -/
def headerWords (h : Header) (nodeCount layerCount channels height width : Bytes) : List Bytes :=
  [nodeCount, layerCount, channels, height, width, littleEndian 4 (if h.finalized then 1 else 0),
    littleEndian 4 formatVersion.toNat]

/-- A header record is made of the words of the header and of reserved ones, which are zero. -/
theorem headerRecord?_eq_some_iff {h : Header} {bs : Bytes} :
    headerRecord? h = some bs ↔
      ∃ nodeCount layerCount channels height width,
        signedWord? h.nodeCount = some nodeCount ∧ signedWord? h.layerCount = some layerCount ∧
        unsignedWord? h.shape.channels = some channels ∧
        unsignedWord? h.shape.height = some height ∧ unsignedWord? h.shape.width = some width ∧
        bs = (headerWords h nodeCount layerCount channels height width).flatten ++
          List.replicate 124 0 := by
  simp only [headerRecord?, Option.bind_eq_bind, Option.bind_eq_some_iff, Option.pure_def,
    Option.some.injEq]
  constructor
  · rintro ⟨nodeCount, hn, layerCount, hl, channels, hc, height, hh, width, hw, rfl⟩
    exact ⟨nodeCount, layerCount, channels, height, width, hn, hl, hc, hh, hw,
      by simp [headerWords, reservedBytes]⟩
  · rintro ⟨nodeCount, layerCount, channels, height, width, hn, hl, hc, hh, hw, rfl⟩
    exact ⟨nodeCount, hn, layerCount, hl, channels, hc, height, hh, width, hw,
      by simp [headerWords, reservedBytes]⟩

/-- A header has a record if its numbers fit. -/
theorem headerRecord?_isSome_iff {h : Header} : (headerRecord? h).isSome ↔ h.Fits := by
  constructor
  · intro hsome
    obtain ⟨bs, hbs⟩ := Option.isSome_iff_exists.mp hsome
    obtain ⟨_, _, _, _, _, hn, hl, hc, hh, hw, -⟩ := headerRecord?_eq_some_iff.mp hbs
    exact ⟨(signedWord?_eq_some_iff.mp hn).1, (signedWord?_eq_some_iff.mp hl).1,
      (unsignedWord?_eq_some_iff.mp hc).1, (unsignedWord?_eq_some_iff.mp hh).1,
      (unsignedWord?_eq_some_iff.mp hw).1⟩
  · rintro ⟨hn, hl, hc, hh, hw⟩
    exact Option.isSome_iff_exists.mpr ⟨_, headerRecord?_eq_some_iff.mpr ⟨_, _, _, _, _,
      signedWord?_eq_some_iff.mpr ⟨hn, rfl⟩, signedWord?_eq_some_iff.mpr ⟨hl, rfl⟩,
      unsignedWord?_eq_some_iff.mpr ⟨hc, rfl⟩, unsignedWord?_eq_some_iff.mpr ⟨hh, rfl⟩,
      unsignedWord?_eq_some_iff.mpr ⟨hw, rfl⟩, rfl⟩⟩

/-- Words that stand one behind the other are found at multiples of their width. -/
theorem wordAt_flatten {words : List Bytes} (hwords : ∀ w ∈ words, w.length = 4) (rest : Bytes)
    {i : Nat} {word : Bytes} (hi : words[i]? = some word) :
    wordAt (words.flatten ++ rest) (4 * i) = word := by
  induction words generalizing i with
  | nil => cases hi
  | cons w words ih =>
    have hw : w.length = 4 := hwords w List.mem_cons_self
    rw [List.flatten_cons, List.append_assoc, wordAt]
    cases i with
    | zero =>
      -- the first word is in front
      obtain rfl := Option.some.inj hi
      rw [Nat.mul_zero, List.drop_zero, ← hw, List.take_left]
    | succ i =>
      have hskip : (w ++ (words.flatten ++ rest)).drop (4 * (i + 1)) =
          (words.flatten ++ rest).drop (4 * i) := by
        rw [Nat.mul_succ, Nat.add_comm, ← List.drop_drop, ← hw, List.drop_left]
      rw [hskip]
      exact ih (fun w' hw' => hwords w' (List.mem_cons_of_mem _ hw')) hi

/-- A header record is as long as it should be, and the words at its start are those of the
header. -/
theorem wordAt_headerRecord? {h : Header} {bs : Bytes} (hbs : headerRecord? h = some bs) :
    bs.length = recordSize ∧ intOfWord (wordAt bs 0) = h.nodeCount ∧
      intOfWord (wordAt bs 4) = h.layerCount ∧ natOfBytes (wordAt bs 8) = h.shape.channels ∧
      natOfBytes (wordAt bs 12) = h.shape.height ∧ natOfBytes (wordAt bs 16) = h.shape.width ∧
      wordAt bs 20 = littleEndian 4 (if h.finalized then 1 else 0) ∧
      wordAt bs 24 = littleEndian 4 formatVersion.toNat := by
  obtain ⟨nodeCount, layerCount, channels, height, width, hn, hl, hc, hh, hw, rfl⟩ :=
    headerRecord?_eq_some_iff.mp hbs
  have hwords : ∀ w ∈ headerWords h nodeCount layerCount channels height width, w.length = 4 := by
    simp [headerWords, length_signedWord? hn, length_signedWord? hl, length_unsignedWord? hc,
      length_unsignedWord? hh, length_unsignedWord? hw]
  -- each word is found by its place in the list
  have hat {i : Nat} {word : Bytes}
      (hi : (headerWords h nodeCount layerCount channels height width)[i]? = some word) :=
    wordAt_flatten hwords (List.replicate 124 0) hi
  refine ⟨?_, ?_, ?_, ?_, ?_, ?_, hat (i := 5) rfl, hat (i := 6) rfl⟩
  · rw [List.length_append, List.length_flatten_of_forall_length_eq hwords, List.length_replicate]
    rfl
  · rw [hat (i := 0) rfl, intOfWord_of_signedWord? hn]
  · rw [hat (i := 1) rfl, intOfWord_of_signedWord? hl]
  · rw [hat (i := 2) rfl, natOfBytes_of_unsignedWord? hc]
  · rw [hat (i := 3) rfl, natOfBytes_of_unsignedWord? hh]
  · rw [hat (i := 4) rfl, natOfBytes_of_unsignedWord? hw]

/-- A header record is read back, unless it counts a negative number of layers. -/
theorem headerOfRecord_headerRecord? {h : Header} {bs : Bytes} (hbs : headerRecord? h = some bs)
    (hcount : 0 ≤ h.layerCount) : headerOfRecord bs = .ok h := by
  obtain ⟨hlength, hn, hl, hc, hh, hw, hfin, hversion⟩ := wordAt_headerRecord? hbs
  have hnonempty : bs.isEmpty = false := by
    cases bs with
    | nil => cases hlength
    | cons => rfl
  have hknown : ¬(intOfWord (wordAt bs 24) < 0 ∨ formatVersion < intOfWord (wordAt bs 24)) := by
    rw [hversion]
    decide
  have hflag :
      (natOfBytes (littleEndian 4 (if h.finalized then 1 else 0)) != 0) = h.finalized := by
    cases h.finalized <;> decide
  have hlayers : ¬intOfWord (wordAt bs 4) < 0 := by omega
  simp only [headerOfRecord, hnonempty, Bool.false_eq_true, if_false, if_neg hknown,
    if_neg hlayers]
  rw [hn, hl, hc, hh, hw, hfin, hflag]

/-- A header that was written is yielded by its record. -/
theorem yields_readHeader {h : Header} {bs : Bytes} (hbs : headerRecord? h = some bs)
    (hcount : 0 ≤ h.layerCount) : Yields readHeader bs h := by
  have htake : Yields (takeBytes recordSize) bs bs :=
    (wordAt_headerRecord? hbs).1 ▸ yields_takeBytes bs
  rw [← List.append_nil bs]
  refine htake.bind ?_
  simp only [headerOfRecord_headerRecord? hbs hcount]
  exact yields_pure h

/-! ### Layers -/

theorem yields_readSigned {n : Int} {bs : Bytes} (hbs : signedWord? n = some bs) :
    Yields readSigned bs n := by
  have hyields := (yields_takeBytes bs).map intOfWord
  rwa [length_signedWord? hbs, intOfWord_of_signedWord? hbs] at hyields

/-- Nodes are yielded by their bytes, if there are no more of them than can be indexed. -/
theorem yields_readNodes {ns : List Int} {bs : Bytes} (hbs : Writes (nodePieces ns) bs)
    (hlength : ns.length ≤ maxSequenceLength) : Yields readNodes bs ns := by
  simp only [nodePieces, writes_cons_iff, writes_nil_iff, Option.some.injEq] at hbs
  obtain ⟨-, -, rfl, ⟨words, -, hwords, rfl, rfl⟩, rfl⟩ := hbs
  have hhead := yields_takeBytes (lengthWord ns.length)
  rw [length_lengthWord] at hhead
  have hnodes := yields_readNodesOf hlength (length_signedWords? hwords)
  rw [intsOfBytes_of_signedWords? hwords] at hnodes
  rw [readNodes_eq, List.append_nil]
  refine hhead.bind ?_
  rwa [natOfBytes_lengthWord (by simp only [maxSequenceLength] at hlength; omega)]

/-- A layer is written as its primary layer, its code, and its two sequences of nodes. -/
theorem writes_layerPieces_iff {l : Layer} {bs : Bytes} :
    Writes (layerPieces l) bs ↔
      ∃ primary code inputs outputs, signedWord? l.primary = some primary ∧
        signedWord? l.kind.code = some code ∧ Writes (nodePieces l.inputs) inputs ∧
        Writes (nodePieces l.outputs) outputs ∧ bs = primary ++ (code ++ (inputs ++ outputs)) := by
  simp only [layerPieces, writes_cons_iff, writes_append_iff, signedWords?_cons_eq_some_iff,
    signedWords?_nil, Option.some.injEq]
  constructor
  · rintro ⟨-, -, ⟨primary, -, hp, ⟨code, -, hc, rfl, rfl⟩, rfl⟩, ⟨inputs, outputs, hi, ho, rfl⟩,
      rfl⟩
    exact ⟨primary, code, inputs, outputs, hp, hc, hi, ho, by simp⟩
  · rintro ⟨primary, code, inputs, outputs, hp, hc, hi, ho, rfl⟩
    exact ⟨_, _, ⟨primary, _, hp, ⟨code, _, hc, rfl, rfl⟩, rfl⟩, ⟨inputs, outputs, hi, ho, rfl⟩,
      by simp⟩

theorem yields_readLayer {l : Layer} {bs : Bytes} (hbs : Writes (layerPieces l) bs)
    (hin : l.inputs.length ≤ maxSequenceLength) (hout : l.outputs.length ≤ maxSequenceLength) :
    Yields readLayer bs l := by
  obtain ⟨primary, code, inputs, outputs, hp, hc, hi, ho, rfl⟩ := writes_layerPieces_iff.mp hbs
  refine (yields_readSigned hp).bind ((yields_readSigned hc).bind ?_)
  rw [Kind.ofCode?_code]
  exact (yields_readNodes hi hin).bind
    ((yields_readNodes ho hout).map fun ns => Layer.mk l.kind l.inputs ns l.primary)

/-- Layers are yielded one after another by the bytes of all of them. -/
theorem yields_readLayers {ls : List Layer} {bs : Bytes} (hbs : Writes (ls.flatMap layerPieces) bs)
    (hlength : ∀ l ∈ ls, l.inputs.length ≤ maxSequenceLength ∧
      l.outputs.length ≤ maxSequenceLength) :
    Yields (readLayers ls.length) bs ls := by
  induction ls generalizing bs with
  | nil =>
    obtain rfl := writes_nil_iff.mp hbs
    exact yields_pure []
  | cons l ls ih =>
    rw [List.flatMap_cons, writes_append_iff] at hbs
    obtain ⟨b, c, hb, hc, rfl⟩ := hbs
    obtain ⟨hin, hout⟩ := hlength l List.mem_cons_self
    exact (yields_readLayer hb hin hout).bind
      ((ih hc fun l' hl' => hlength l' (List.mem_cons_of_mem _ hl')).map (l :: ·))

/-! ### Outlines -/

variable {o : Outline}

/-- An outline whose header miscounts the layers is not begun at all. -/
theorem write_of_count_ne (h : o.header.layerCount ≠ o.layers.length) :
    write o = { bytes := [], fault := some .layerCountMismatch } :=
  if_neg h

theorem write_of_count_eq (h : o.header.layerCount = o.layers.length) :
    write o = writePieces (pieces o) :=
  if_pos h

/-- The header is the first piece, so nothing is written behind one that does not fit. -/
theorem write_bytes_eq_nil_of_not_fits (h : ¬o.header.Fits) : (write o).bytes = [] := by
  by_cases hcount : o.header.layerCount = o.layers.length
  · have hrecord : headerRecord? o.header = none := by
      rwa [← Option.not_isSome_iff_eq_none, headerRecord?_isSome_iff]
    rw [write_of_count_eq hcount, pieces, hrecord]
    rfl
  · rw [write_of_count_ne hcount]

/-- A complete archive is read back, whatever follows it. -/
theorem yields_read (h : (write o).fault = none)
    (hlength : ∀ l ∈ o.layers, l.inputs.length ≤ maxSequenceLength ∧
      l.outputs.length ≤ maxSequenceLength) :
    Yields read (write o).bytes o := by
  unfold write at h ⊢
  split at h
  · rename_i hcount
    rw [if_pos hcount]
    rw [pieces] at h ⊢
    obtain ⟨header, layers, hheader, hlayers, heq⟩ :=
      writes_cons_iff.mp (writes_of_fault_eq_none h)
    rw [heq]
    -- the header counts the layers that are read behind it
    refine (yields_readHeader hheader (by omega)).bind ?_
    rw [hcount, Int.toNat_natCast]
    exact (yields_readLayers hlayers hlength).map (Outline.mk o.header)
  · cases h

/-- A layer can be written if its numbers fit. -/
theorem forall_layerPieces_isSome_iff {l : Layer} :
    (∀ piece ∈ layerPieces l, piece.isSome) ↔ l.Fits := by
  simp only [layerPieces, nodePieces, List.cons_append, List.nil_append, List.forall_mem_cons,
    Option.isSome_some, signedWords?_isSome_iff, List.not_mem_nil, false_implies, implies_true,
    and_true, true_and]
  constructor
  · rintro ⟨⟨hp, -⟩, hin, hout⟩
    exact ⟨hp, hin, hout⟩
  · rintro ⟨hp, hin, hout⟩
    exact ⟨⟨hp, l.kind.fitsSigned_code⟩, hin, hout⟩

/-- An outline can be written if its header counts its layers and all numbers fit. -/
theorem write_fault_eq_none_iff :
    (write o).fault = none ↔
      o.header.layerCount = o.layers.length ∧ o.header.Fits ∧ ∀ l ∈ o.layers, l.Fits := by
  unfold write
  split
  · rename_i hcount
    simp only [writePieces_fault_eq_none_iff, pieces, List.forall_mem_cons,
      headerRecord?_isSome_iff, List.forall_mem_flatMap, forall_layerPieces_isSome_iff, hcount,
      true_and]
  · rename_i hcount
    simp [hcount]

end Archive

end NetPlan
