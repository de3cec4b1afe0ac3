import NetPlan.Proofs.Archive.Series

/-!
# Reading and writing back

What is read is written as the bytes that were taken, whatever these were: every word that a reader
takes has a number that fits it, also in an archive that no writer makes. Layers come back byte for
byte (`writes_readLayers`). Only the header record is brought to the form in which it is written
(`normalized`): its flag becomes zero or one, its version the newest one, and its other reserved
words zero.

So what a reader gives tells the archive, once that has this form, and an archive that was written
comes back unchanged (`write_of_read`).
-/

namespace NetPlan

theorem Kind.code_of_ofCode? {n : Int} {k : Kind} (h : Kind.ofCode? n = some k) : k.code = n := by
  simpa using List.find?_some h

namespace Archive

variable {s s' : Source} {bs : Bytes}

/-- The bytes that a request gets are those at the start of the source. -/
theorem rest_of_takeBytes {n : Nat} {got : Bytes} (h : (takeBytes n).run s = .ok got s') :
    got.length = n ∧ s.rest = got ++ s'.rest := by
  obtain ⟨hlength, ⟨rest, hrest⟩, rfl⟩ := takeBytes_eq_ok h
  refine ⟨hlength, ?_⟩
  rw [← hrest, ← hlength, List.drop_left]

/-! ### Layers -/

theorem writes_readSigned {n : Int} (h : readSigned.run s = .ok n s') :
    ∃ word, s.rest = word ++ s'.rest ∧ signedWord? n = some word := by
  obtain ⟨word, s₁, hword, hpure⟩ := run_bind_eq_ok_iff.mp h
  obtain ⟨hn, rfl⟩ := run_pure_eq_ok_iff.mp hpure
  obtain ⟨hlength, hrest⟩ := rest_of_takeBytes hword
  rw [hn]
  exact ⟨word, hrest, signedWord?_intOfWord hlength⟩

/-- Nodes that are read are written as the bytes that were taken, their length included. -/
theorem writes_readNodes {ns : List Int} (h : readNodes.run s = .ok ns s') :
    ∃ bs, s.rest = bs ++ s'.rest ∧ Writes (nodePieces ns) bs := by
  rw [readNodes_eq] at h
  obtain ⟨head, s₁, hhead, hnodes⟩ := run_bind_eq_ok_iff.mp h
  obtain ⟨hlength, hrest⟩ := rest_of_takeBytes hhead
  rw [run_readNodesOf] at hnodes
  split at hnodes
  · cases hnodes
  · obtain ⟨words, s₂, hwords, hns⟩ := run_bind_eq_ok_iff.mp hnodes
    cases hns
    obtain ⟨hlength', hrest'⟩ := rest_of_takeBytes hwords
    -- there are as many nodes as the length says
    have hhead' : lengthWord (intsOfBytes words).length = head := by
      rw [length_intsOfBytes hlength', lengthWord_natOfBytes hlength]
    refine ⟨head ++ words, by rw [hrest, hrest', List.append_assoc], ?_⟩
    simp only [nodePieces, writes_cons_iff, writes_nil_iff]
    exact ⟨head, words, by rw [hhead'],
      ⟨words, [], signedWords?_intsOfBytes hlength', rfl, (List.append_nil words).symm⟩, rfl⟩

theorem writes_readLayer {l : Layer} (h : readLayer.run s = .ok l s') :
    ∃ bs, s.rest = bs ++ s'.rest ∧ Writes (layerPieces l) bs := by
  obtain ⟨p, s₁, hp, h⟩ := run_bind_eq_ok_iff.mp h
  obtain ⟨n, s₂, hn, h⟩ := run_bind_eq_ok_iff.mp h
  cases hkind : Kind.ofCode? n with
  | none =>
    rw [hkind] at h
    cases h
  | some kind =>
    rw [hkind] at h
    obtain ⟨inputs, s₃, hin, h⟩ := run_bind_eq_ok_iff.mp h
    obtain ⟨outputs, s₄, hout, h⟩ := run_bind_eq_ok_iff.mp h
    cases h
    obtain ⟨primary, hrest, hprimary⟩ := writes_readSigned hp
    obtain ⟨code, hrest₁, hcode⟩ := writes_readSigned hn
    obtain ⟨ins, hrest₂, hins⟩ := writes_readNodes hin
    obtain ⟨outs, hrest₃, houts⟩ := writes_readNodes hout
    rw [← Kind.code_of_ofCode? hkind] at hcode
    refine ⟨primary ++ (code ++ (ins ++ outs)), ?_, ?_⟩
    · rw [hrest, hrest₁, hrest₂, hrest₃]
      simp only [List.append_assoc]
    · exact writes_layerPieces_iff.mpr ⟨primary, code, ins, outs, hprimary, hcode, hins, houts, rfl⟩

/-- **Layers come back byte for byte**, and there are as many as were asked for. -/
theorem writes_readLayers {count : Nat} {ls : List Layer}
    (h : (readLayers count).run s = .ok ls s') :
    ls.length = count ∧ ∃ bs, s.rest = bs ++ s'.rest ∧ Writes (ls.flatMap layerPieces) bs := by
  induction count generalizing s ls with
  | zero =>
    cases h
    exact ⟨rfl, [], rfl, writes_nil_iff.mpr rfl⟩
  | succ count ih =>
    obtain ⟨l, s₁, hl, h⟩ := run_bind_eq_ok_iff.mp h
    obtain ⟨ls, s₂, hls, h⟩ := run_bind_eq_ok_iff.mp h
    cases h
    obtain ⟨bs, hrest, hbs⟩ := writes_readLayer hl
    obtain ⟨hlength, cs, hrest', hcs⟩ := ih hls
    refine ⟨by rw [List.length_cons, hlength], bs ++ cs, ?_, ?_⟩
    · rw [hrest, hrest', List.append_assoc]
    · rw [List.flatMap_cons, writes_append_iff]
      exact ⟨bs, cs, hbs, hcs, rfl⟩

/-! ### Headers -/

/-- The bytes of an archive with its record in the form in which records are written: a flag that is
not zero becomes one, the version becomes the newest one, and the reserved words behind it become
zero. -/
def normalized (bs : Bytes) : Bytes :=
  bs.take 20 ++ (if natOfBytes (wordAt bs 20) = 0 then [0, 0, 0, 0] else [1, 0, 0, 0]) ++
    [1, 0, 0, 0] ++ List.replicate 124 0 ++ bs.drop 152

theorem length_wordAt {offset : Nat} (h : offset + 4 ≤ bs.length) :
    (wordAt bs offset).length = 4 := by
  rw [wordAt, List.length_take, List.length_drop]
  omega

/-- A word is found where it stands, whatever follows. -/
theorem wordAt_append {offset : Nat} (h : offset + 4 ≤ bs.length) (cs : Bytes) :
    wordAt (bs ++ cs) offset = wordAt bs offset := by
  rw [wordAt, wordAt, List.drop_append_of_le_length (by omega),
    List.take_append_of_le_length (by rw [List.length_drop]; omega)]

/-- The words at the start of a record, one after another. -/
theorem take_eq_words (bs : Bytes) :
    bs.take 20 = wordAt bs 0 ++ wordAt bs 4 ++ wordAt bs 8 ++ wordAt bs 12 ++ wordAt bs 16 := by
  have hnext (offset : Nat) : bs.take (offset + 4) = bs.take offset ++ wordAt bs offset :=
    List.take_add
  rw [hnext 16, hnext 12, hnext 8, hnext 4, hnext 0, List.take_zero, List.nil_append]

/-- Bringing a record to its form does not change how long the archive is. -/
theorem length_normalized (h : recordSize ≤ bs.length) : (normalized bs).length = bs.length := by
  have hflag :
      (if natOfBytes (wordAt bs 20) = 0 then [0, 0, 0, 0] else [1, 0, 0, 0] : Bytes).length =
      4 := by
    split <;> rfl
  simp only [recordSize] at h
  simp only [normalized, List.length_append, hflag, List.length_take, List.length_replicate,
    List.length_drop, List.length_cons, List.length_nil]
  omega

/-- What stands behind the record stays. -/
theorem normalized_append (h : bs.length = recordSize) (cs : Bytes) :
    normalized (bs ++ cs) = normalized bs ++ cs := by
  simp only [recordSize] at h
  have hword : wordAt (bs ++ cs) 20 = wordAt bs 20 := wordAt_append (by omega) cs
  have hstart : (bs ++ cs).take 20 = bs.take 20 := List.take_append_of_le_length (by omega)
  have hend : (bs ++ cs).drop 152 = bs.drop 152 ++ cs := List.drop_append_of_le_length (by omega)
  simp only [normalized, hword, hstart, hend, List.append_assoc]

/-- The fields of a header are what the words of its record write. -/
theorem fields_of_headerOfRecord {h : Header} (hread : headerOfRecord bs = .ok h) :
    h.nodeCount = intOfWord (wordAt bs 0) ∧ h.layerCount = intOfWord (wordAt bs 4) ∧
      h.shape.channels = natOfBytes (wordAt bs 8) ∧ h.shape.height = natOfBytes (wordAt bs 12) ∧
      h.shape.width = natOfBytes (wordAt bs 16) ∧
      (h.finalized = false ↔ natOfBytes (wordAt bs 20) = 0) ∧ 0 ≤ h.layerCount := by
  unfold headerOfRecord at hread
  split at hread
  · cases hread
  · simp only at hread
    split at hread
    · cases hread
    · split at hread
      · cases hread
      · rename_i hcount
        rw [← Except.ok.inj hread]
        dsimp only
        exact ⟨rfl, rfl, rfl, rfl, rfl, by simp, by simpa using hcount⟩

/-- A header that was read is written as its record, brought to its form. -/
theorem headerRecord?_of_headerOfRecord {h : Header} (hlength : bs.length = recordSize)
    (hread : headerOfRecord bs = .ok h) : headerRecord? h = some (normalized bs) := by
  simp only [recordSize] at hlength
  obtain ⟨hn, hl, hc, hh, hw, hfin, -⟩ := fields_of_headerOfRecord hread
  have hword (offset : Nat) (hoffset : offset + 4 ≤ 152) : (wordAt bs offset).length = 4 :=
    length_wordAt (by omega)
  refine headerRecord?_eq_some_iff.mpr
    ⟨wordAt bs 0, wordAt bs 4, wordAt bs 8, wordAt bs 12, wordAt bs 16,
      by rw [hn, signedWord?_intOfWord (hword 0 (by decide))],
      by rw [hl, signedWord?_intOfWord (hword 4 (by decide))],
      by rw [hc, unsignedWord?_natOfBytes (hword 8 (by decide))],
      by rw [hh, unsignedWord?_natOfBytes (hword 12 (by decide))],
      by rw [hw, unsignedWord?_natOfBytes (hword 16 (by decide))], ?_⟩
  have hflag : littleEndian 4 (if h.finalized then 1 else 0) =
      if natOfBytes (wordAt bs 20) = 0 then [0, 0, 0, 0] else [1, 0, 0, 0] := by
    cases hf : h.finalized with
    | false => rw [if_pos (hfin.mp hf)]; rfl
    | true => rw [if_neg (mt hfin.mpr (by simp [hf]))]; rfl
  have hversion : littleEndian 4 formatVersion.toNat = [1, 0, 0, 0] := rfl
  have hend : bs.drop 152 = [] := List.drop_eq_nil_of_le (by omega)
  simp only [normalized, take_eq_words, hend, headerWords, List.flatten_cons, List.flatten_nil,
    hflag, hversion, List.append_assoc, List.append_nil]

/-! ### Outlines -/

/-- What is read from some bytes is written as these bytes, with their record in its form. -/
theorem writes_read {o : Outline} (h : read.run s = .ok o s') :
    ∃ bs, recordSize ≤ bs.length ∧ s.rest = bs ++ s'.rest ∧
      write o = { bytes := normalized bs } := by
  obtain ⟨header, s₁, hheader, h⟩ := run_bind_eq_ok_iff.mp h
  obtain ⟨layers, s₂, hlayers, h⟩ := run_bind_eq_ok_iff.mp h
  cases h
  obtain ⟨record, s₃, hrecord, hheader⟩ := run_bind_eq_ok_iff.mp hheader
  obtain ⟨hlength, hrest⟩ := rest_of_takeBytes hrecord
  cases hof : headerOfRecord record with
  | error fault =>
    rw [hof] at hheader
    cases hheader
  | ok header' =>
    rw [hof] at hheader
    cases hheader
    have hwritten := headerRecord?_of_headerOfRecord hlength hof
    obtain ⟨-, -, -, -, -, -, hnonneg⟩ := fields_of_headerOfRecord hof
    obtain ⟨hcount, bs, hrest', hbs⟩ := writes_readLayers hlayers
    refine ⟨record ++ bs, ?_, by rw [hrest, hrest', List.append_assoc], ?_⟩
    · rw [List.length_append, hlength]
      omega
    · have hagrees : header.layerCount = layers.length := by omega
      rw [normalized_append hlength, write, if_pos hagrees]
      exact writes_cons_iff.mpr ⟨normalized record, bs, hwritten, hbs, rfl⟩

/-! ### Archives that were written -/

section

variable {rest : Bytes}

/-- A reader takes the length in front of the nodes first, and refuses one that is too large. -/
theorem length_le_of_readNodes {ns ns' : List Int} (hbs : Writes (nodePieces ns) bs)
    (hlength : ns.length < 2 ^ 64) (hs : s.rest = bs ++ rest)
    (h : readNodes.run s = .ok ns' s') : ns.length ≤ maxSequenceLength := by
  simp only [nodePieces, writes_cons_iff, writes_nil_iff, Option.some.injEq] at hbs
  obtain ⟨-, words, rfl, -, rfl⟩ := hbs
  rw [List.append_assoc] at hs
  rw [readNodes_eq] at h
  obtain ⟨head, s₁, hhead, hnodes⟩ := run_bind_eq_ok_iff.mp h
  have hyields := yields_takeBytes (lengthWord ns.length)
  rw [length_lengthWord] at hyields
  obtain ⟨rfl, -⟩ := (uniform_takeBytes 8).eq_of_yields hyields hs hhead
  rw [natOfBytes_lengthWord hlength, run_readNodesOf] at hnodes
  split at hnodes
  · cases hnodes
  · omega

theorem short_of_readLayer {l l' : Layer} (hbs : Writes (layerPieces l) bs)
    (hin : l.inputs.length < 2 ^ 64) (hout : l.outputs.length < 2 ^ 64) (hs : s.rest = bs ++ rest)
    (h : readLayer.run s = .ok l' s') :
    l.inputs.length ≤ maxSequenceLength ∧ l.outputs.length ≤ maxSequenceLength := by
  obtain ⟨primary, code, ins, outs, hprimary, hcode, hins, houts, rfl⟩ :=
    writes_layerPieces_iff.mp hbs
  simp only [List.append_assoc] at hs
  obtain ⟨p, s₁, hp, h⟩ := run_bind_eq_ok_iff.mp h
  obtain ⟨n, s₂, hn, h⟩ := run_bind_eq_ok_iff.mp h
  obtain ⟨-, hs₁⟩ := uniform_readSigned.eq_of_yields (yields_readSigned hprimary) hs hp
  obtain ⟨rfl, hs₂⟩ := uniform_readSigned.eq_of_yields (yields_readSigned hcode) hs₁ hn
  rw [Kind.ofCode?_code] at h
  obtain ⟨inputs, s₃, hinputs, h⟩ := run_bind_eq_ok_iff.mp h
  obtain ⟨outputs, s₄, houtputs, -⟩ := run_bind_eq_ok_iff.mp h
  -- the outputs stand where the inputs end, because these were not refused
  have hshort := length_le_of_readNodes hins hin hs₂ hinputs
  obtain ⟨-, hs₃⟩ := uniform_readNodes.eq_of_yields (yields_readNodes hins hshort) hs₂ hinputs
  exact ⟨hshort, length_le_of_readNodes houts hout hs₃ houtputs⟩

/-- If an archive that was written is read back, no layer had a sequence that was too long. -/
theorem short_of_readLayers {ls ls' : List Layer} (hbs : Writes (ls.flatMap layerPieces) bs)
    (hlength : ∀ l ∈ ls, l.inputs.length < 2 ^ 64 ∧ l.outputs.length < 2 ^ 64)
    (hs : s.rest = bs ++ rest) (h : (readLayers ls.length).run s = .ok ls' s') :
    ∀ l ∈ ls, l.inputs.length ≤ maxSequenceLength ∧ l.outputs.length ≤ maxSequenceLength := by
  induction ls generalizing bs s s' ls' with
  | nil => simp
  | cons l ls ih =>
    rw [List.flatMap_cons, writes_append_iff] at hbs
    obtain ⟨b, c, hb, hc, rfl⟩ := hbs
    rw [List.append_assoc] at hs
    rw [List.forall_mem_cons] at hlength ⊢
    obtain ⟨⟨hin, hout⟩, hlength⟩ := hlength
    obtain ⟨l', s₁, hl, h⟩ := run_bind_eq_ok_iff.mp h
    obtain ⟨ls', s₂, hls, -⟩ := run_bind_eq_ok_iff.mp h
    have hshort := short_of_readLayer hb hin hout hs hl
    obtain ⟨-, hs₁⟩ :=
      uniform_readLayer.eq_of_yields (yields_readLayer hb hshort.1 hshort.2) hs hl
    exact ⟨hshort, ih hc hlength hs₁ hls⟩

/-- An archive that was written and can be read has no sequence of nodes that is too long. -/
theorem archivable_of_read {o o' : Outline} (hwrite : (write o').fault = none)
    (hlength : ∀ l ∈ o'.layers, l.inputs.length < 2 ^ 64 ∧ l.outputs.length < 2 ^ 64)
    (hs : s.rest = (write o').bytes ++ rest) (h : read.run s = .ok o s') : o'.Archivable := by
  obtain ⟨hcount, hheader, hlayers⟩ := write_fault_eq_none_iff.mp hwrite
  refine ⟨hcount, hheader, hlayers, ?_⟩
  rw [write, if_pos hcount, pieces] at hwrite hs
  obtain ⟨record, bs, hrecord, hbs, heq⟩ := writes_cons_iff.mp (writes_of_fault_eq_none hwrite)
  rw [heq, List.append_assoc] at hs
  obtain ⟨header, s₁, hread, h⟩ := run_bind_eq_ok_iff.mp h
  obtain ⟨layers, s₂, hls, -⟩ := run_bind_eq_ok_iff.mp h
  obtain ⟨rfl, hs₁⟩ :=
    uniform_readHeader.eq_of_yields (yields_readHeader hrecord (by omega)) hs hread
  rw [hcount, Int.toNat_natCast] at hls
  exact short_of_readLayers hbs hlength hs₁ hls

end

/-- **Writing undoes reading** up to the form of the record. An outline that was read from any
source is written without a fault, as the bytes that were taken, with their record brought to its
form; so it is written in as many bytes. If these have that form already, no other such bytes give
the same outline. And if the source starts with an archive that was written without a fault, whose
sequences have lengths of 64 bits, this archive is what was taken, and the outline that was read is
written as it again. -/
theorem write_of_read {s s' : Source} {o : Outline} (h : read.run s = .ok o s') :
    ∃ bs, s.rest = bs ++ s'.rest ∧ write o = { bytes := normalized bs } ∧
      (normalized bs).length = bs.length ∧
      (∀ (t t' : Source) (cs : Bytes), read.run t = .ok o t' → t.rest = cs ++ t'.rest →
        normalized bs = bs → normalized cs = cs → cs = bs) ∧
      (∀ (o' : Outline) (tail : Bytes), (write o').fault = none →
        (∀ l ∈ o'.layers, l.inputs.length < 2 ^ 64 ∧ l.outputs.length < 2 ^ 64) →
        s.rest = (write o').bytes ++ tail → bs = (write o').bytes ∧ write o = write o') := by
  obtain ⟨bs, hlength, hrest, hwrite⟩ := writes_read h
  refine ⟨bs, hrest, hwrite, length_normalized hlength, fun t t' cs ht hcs hnorm hnorm' => ?_,
    fun o' tail hfault hlengths hs => ?_⟩
  · obtain ⟨cs', -, hcs', hwrite'⟩ := writes_read ht
    obtain rfl : cs' = cs := List.append_cancel_right (hcs'.symm.trans hcs)
    have heq := congrArg Written.bytes (hwrite.symm.trans hwrite')
    rw [← hnorm, ← hnorm']
    exact heq.symm
  · have ho' : o'.Archivable := archivable_of_read hfault hlengths hs h
    obtain ⟨rfl, rfl⟩ := uniform_read.eq_of_yields (yields_of_archivable ho') hs h
    exact ⟨List.append_cancel_right (hrest.symm.trans hs), rfl⟩

/-- An archive that no writer makes: of version zero, with a flag of two bytes, bytes in the words
that are reserved, and a layer that points nowhere. -/
def foreignBytes : Bytes :=
  littleEndian 4 4294967295 ++ littleEndian 4 1 ++ littleEndian 4 3 ++ littleEndian 4 0 ++
    littleEndian 4 4294967295 ++ [0, 7, 0, 1] ++ [0, 0, 0, 0] ++ List.replicate 124 9 ++
    (littleEndian 4 2147483648 ++ littleEndian 4 10 ++ lengthWord 0 ++ lengthWord 1 ++
      [254, 255, 255, 255])

/-- The outline that it holds. -/
def foreign : Outline :=
  { header := { nodeCount := -1, layerCount := 1, shape := ⟨3, 0, 4294967295⟩, finalized := true }
    layers := [⟨.conv, [], [-2], -2147483648⟩] }

/-- That archive is read, and written in its form: with a flag of one, the newest version and zeros
behind it. -/
theorem write_foreign :
    read.run { rest := foreignBytes ++ [5] } = .ok foreign { rest := [5] } ∧
      write foreign = { bytes := normalized foreignBytes } ∧
      normalized foreignBytes ≠ foreignBytes := by
  have hread : read.run { rest := foreignBytes ++ [5] } = .ok foreign { rest := [5] } := by
    decide +kernel
  obtain ⟨bs, hrest, hwrite, -⟩ := write_of_read hread
  obtain rfl : foreignBytes = bs := List.append_cancel_right hrest
  exact ⟨hread, hwrite, by decide +kernel⟩

end Archive

end NetPlan
