import NetPlan.Archive.Read
import NetPlan.Proofs.Fault

/-!
# What a reader takes and gives

A reader **yields** a value from some bytes if it takes exactly these bytes from every source that
delivers in full and starts with them, and gives the value, whatever follows and whether or not the
source knows its size (`Yields`). Yields compose along a chain of readers.

A reader is **uniform** if wherever it succeeds, it yields its result from the bytes that it has
taken (`Uniform`). So its success never hangs on the kind of source.

The readers of archives are chains of a few parts. A property of readers that holds of these parts
and passes on along chains is **hereditary** (`Hereditary`), and then it holds of the reader of
archives. So all of them are uniform (`uniform_read`): what they read from any source is what they
read from its bytes.
-/

namespace NetPlan.Archive

variable {α β : Type} {r : Reader α} {f : α → Reader β} {a : α} {b : β} {bs cs : Bytes}

/-- From a source that starts with some bytes, a reader takes these and gives a value. -/
def Yields (r : Reader α) (bs : Bytes) (a : α) : Prop :=
  ∀ (s : Source) (rest : Bytes), s.delivery = .full → s.rest = bs ++ rest →
    r.run s = .ok a { s with rest }

/-- Where a reader succeeds, it yields its result from the bytes that it has taken. -/
def Uniform (r : Reader α) : Prop :=
  ∀ (s : Source) (a : α) (s' : Source), r.run s = .ok a s' →
    ∃ bs, s.rest = bs ++ s'.rest ∧ s' = { s with rest := s'.rest } ∧ Yields r bs a

/-! ### Chains of readers -/

theorem yields_pure (a : α) : Yields (pure a) [] a := by
  rintro ⟨_, sized, delivery⟩ rest - rfl
  rfl

/-- What two readers yield in a row, the chain of them yields from the bytes of both. -/
theorem Yields.bind (hr : Yields r bs a) (hf : Yields (f a) cs b) :
    Yields (r >>= f) (bs ++ cs) b := by
  intro s rest hfull hs
  rw [List.append_assoc] at hs
  rw [run_bind_eq_ok_iff]
  exact ⟨a, _, hr s _ hfull hs, hf { s with rest := cs ++ rest } rest hfull rfl⟩

/-- A value that is worked on takes no bytes more. -/
theorem Yields.map (hr : Yields r bs a) (g : α → β) :
    Yields (r >>= fun x => pure (g x)) bs (g a) :=
  List.append_nil bs ▸ hr.bind (f := fun x => pure (g x)) (yields_pure (g a))

theorem uniform_pure (a : α) : Uniform (pure a : Reader α) := by
  intro s a' s' h
  obtain ⟨rfl, rfl⟩ := run_pure_eq_ok_iff.mp h
  exact ⟨[], rfl, rfl, yields_pure a'⟩

theorem uniform_throw (fault : Fault) : Uniform (throw fault : Reader α) := by
  intro s a s' h
  cases h

/-- A chain is uniform if its first reader is, and what follows for each value that it can give. -/
theorem Uniform.bind (hr : Uniform r) (hf : ∀ a s s', r.run s = .ok a s' → Uniform (f a)) :
    Uniform (r >>= f) := by
  intro s b s'' h
  obtain ⟨a, s', ha, hb⟩ := run_bind_eq_ok_iff.mp h
  obtain ⟨bs, hbs, hs', hyields⟩ := hr s a s' ha
  obtain ⟨cs, hcs, hs'', hyields'⟩ := hf a s s' ha s' b s'' hb
  refine ⟨bs ++ cs, by rw [hbs, hcs, List.append_assoc], ?_, hyields.bind hyields'⟩
  rw [hs'', hs']

/-- A value that is yielded from bytes at the start of a source is the only one that can be read
there, and the bytes are the ones that are taken. -/
theorem Uniform.eq_of_yields (hr : Uniform r) {s s' : Source} {a' : α} {rest : Bytes}
    (hyields : Yields r bs a) (hs : s.rest = bs ++ rest) (h : r.run s = .ok a' s') :
    a' = a ∧ s'.rest = rest := by
  obtain ⟨cs, hcs, -, hyields'⟩ := hr s a' s' h
  have hrun := hyields { rest := s.rest } rest rfl hs
  rw [hyields' { rest := s.rest } s'.rest rfl hcs] at hrun
  cases hrun
  exact ⟨rfl, rfl⟩

/-! ### Bytes -/

/-- A request yields as many bytes as it asks for. -/
theorem yields_takeBytes (bs : Bytes) : Yields (takeBytes bs.length) bs bs := by
  rintro ⟨_, sized, delivery⟩ rest rfl rfl
  simp [EStateM.run, takeBytes, Source.answer?]

/-- An answer that is long enough is a beginning of what is left. -/
theorem takeBytes_eq_ok {n : Nat} {s s' : Source} {got : Bytes}
    (h : (takeBytes n).run s = .ok got s') :
    got.length = n ∧ got <+: s.rest ∧ s' = { s with rest := s.rest.drop n } := by
  simp only [EStateM.run, takeBytes] at h
  split at h
  · cases h
  · rename_i bs hanswer
    split at h
    · rename_i hlength
      cases h
      refine ⟨hlength, ?_, by rw [hlength]⟩
      unfold Source.answer? at hanswer
      split at hanswer
      · exact Option.some.inj hanswer ▸ List.take_prefix _ _
      · exact Option.some.inj hanswer ▸ List.take_prefix _ _
      · cases hanswer
    · cases h

/-- A request that gets too little is turned down for that alone. -/
theorem takeBytes_eq_error {n : Nat} {s s' : Source} {fault : Fault}
    (h : (takeBytes n).run s = .error fault s') : fault = .invalidArchive := by
  simp only [EStateM.run, takeBytes] at h
  split at h
  · cases h
    rfl
  · split at h
    · cases h
    · cases h
      rfl

/-- A request that succeeds has taken the bytes that stand next, whatever the source. -/
theorem uniform_takeBytes (n : Nat) : Uniform (takeBytes n) := by
  intro s got s' h
  obtain ⟨rfl, ⟨rest, hrest⟩, rfl⟩ := takeBytes_eq_ok h
  refine ⟨got, ?_, rfl, yields_takeBytes got⟩
  rw [← hrest, List.drop_left]

/-! ### Nodes behind their length -/

/-- The nodes behind a length, unless there are too many of them. -/
def readNodesOf (length : Nat) : Reader (List Int) := do
  let size := 4 * length
  if maxSequenceLength < length ∨ (← get).lacks size then
    throw .badSequenceLength
  else
    return intsOfBytes (← takeBytes size)

theorem readNodes_eq : readNodes = takeBytes 8 >>= fun bs => readNodesOf (natOfBytes bs) := rfl

/-- A source that knows its size is asked for the nodes only if they are all there. -/
theorem run_readNodesOf (length : Nat) (s : Source) :
    (readNodesOf length).run s =
      if maxSequenceLength < length ∨ s.lacks (4 * length) then .error .badSequenceLength s
      else (takeBytes (4 * length) >>= fun bs => pure (intsOfBytes bs)).run s := by
  simp only [readNodesOf, EStateM.run_bind, EStateM.run_get]
  split <;> rfl

/-- Where all nodes are there, no source refuses their number. -/
theorem yields_readNodesOf {length : Nat} (hlength : length ≤ maxSequenceLength) {bs : Bytes}
    (hbs : bs.length = 4 * length) : Yields (readNodesOf length) bs (intsOfBytes bs) := by
  intro s rest hfull hs
  have hthere : ¬(maxSequenceLength < length ∨ s.lacks (4 * length) = true) := by
    simp only [Source.lacks, hs, List.length_append, hbs, Bool.and_eq_true, decide_eq_true_eq]
    omega
  rw [run_readNodesOf, if_neg hthere, ← hbs]
  exact (yields_takeBytes bs).map intsOfBytes s rest hfull hs

/-- Whether nodes behind a length can be read hangs on their bytes alone. -/
theorem uniform_readNodesOf (length : Nat) : Uniform (readNodesOf length) := by
  intro s ns s' h
  rw [run_readNodesOf] at h
  split at h
  · cases h
  · rename_i hthere
    obtain ⟨bs, s₁, hbs, hns⟩ := run_bind_eq_ok_iff.mp h
    cases hns
    obtain ⟨hlength, ⟨rest, hrest⟩, rfl⟩ := takeBytes_eq_ok hbs
    refine ⟨bs, ?_, rfl, yields_readNodesOf (by omega) hlength⟩
    rw [← hrest, ← hlength, List.drop_left]

/-! ### Readers of archives -/

/-- A record that has bytes is turned down as a part of an archive. -/
theorem category_of_headerOfRecord {fault : Fault} (hbs : bs ≠ [])
    (h : headerOfRecord bs = .error fault) : fault.category = .archive := by
  have hnonempty : ¬bs.isEmpty = true := by simpa using hbs
  simp only [headerOfRecord, if_neg hnonempty] at h
  split at h
  · obtain rfl := Except.error.inj h
    rfl
  · split at h
    · obtain rfl := Except.error.inj h
      rfl
    · cases h

/-- A property of readers that holds of the parts which readers of archives are made of, and passes
on along chains: what follows in a chain need have it for such values alone as can come up there. -/
structure Hereditary (P : ∀ {α : Type}, Reader α → Prop) : Prop where
  value : ∀ {α : Type} (a : α), P (pure a : Reader α)
  refusal : ∀ {α : Type} {fault : Fault}, fault.category = .archive → P (throw fault : Reader α)
  bytes : ∀ n, P (takeBytes n)
  nodes : ∀ length, P (readNodesOf length)
  chain : ∀ {α β : Type} {r : Reader α} {f : α → Reader β}, P r →
    (∀ a s s', r.run s = .ok a s' → P (f a)) → P (r >>= f)

namespace Hereditary

variable {P : ∀ {α : Type}, Reader α → Prop}

/-- The reader of headers is one request and a look at the record, so it has whatever is
hereditary. -/
theorem readHeader (h : Hereditary P) : P readHeader := by
  refine h.chain (h.bytes recordSize) fun record s s' hrecord => ?_
  -- the record is as long as it should be, so it has bytes
  have hlength := (takeBytes_eq_ok hrecord).1
  have hbytes : record ≠ [] := List.ne_nil_of_length_pos (hlength ▸ by decide)
  cases hof : headerOfRecord record with
  | ok header => exact h.value header
  | error fault => exact h.refusal (category_of_headerOfRecord hbytes hof)

theorem readSigned (h : Hereditary P) : P readSigned :=
  h.chain (h.bytes 4) fun word _ _ _ => h.value (intOfWord word)

theorem readNodes (h : Hereditary P) : P readNodes :=
  h.chain (h.bytes 8) fun head _ _ _ => h.nodes (natOfBytes head)

theorem readLayer (h : Hereditary P) : P readLayer := by
  refine h.chain h.readSigned fun primary _ _ _ => h.chain h.readSigned fun code _ _ _ => ?_
  cases Kind.ofCode? code with
  | none => exact h.refusal rfl
  | some kind =>
    exact h.chain h.readNodes fun inputs _ _ _ =>
      h.chain h.readNodes fun outputs _ _ _ => h.value (Layer.mk kind inputs outputs primary)

theorem readLayers (h : Hereditary P) (count : Nat) : P (readLayers count) := by
  induction count with
  | zero => exact h.value []
  | succ count ih =>
    exact h.chain h.readLayer fun layer _ _ _ =>
      h.chain ih fun layers _ _ _ => h.value (layer :: layers)

/-- **What is hereditary holds of the reader of archives.** -/
theorem read (h : Hereditary P) : P read :=
  h.chain h.readHeader fun header _ _ _ =>
    h.chain (h.readLayers header.layerCount.toNat) fun layers _ _ _ =>
      h.value (Outline.mk header layers)

end Hereditary

/-- Uniformity passes on from the parts of readers to readers of archives. -/
theorem hereditary_uniform : Hereditary Uniform where
  value := uniform_pure
  refusal _ := uniform_throw _
  bytes := uniform_takeBytes
  nodes := uniform_readNodesOf
  chain := Uniform.bind

theorem uniform_readHeader : Uniform readHeader := hereditary_uniform.readHeader

theorem uniform_readSigned : Uniform readSigned := hereditary_uniform.readSigned

theorem uniform_readNodes : Uniform readNodes := hereditary_uniform.readNodes

theorem uniform_readLayer : Uniform readLayer := hereditary_uniform.readLayer

/-- What is read from any source is read from its bytes alone. -/
theorem uniform_read : Uniform read := hereditary_uniform.read

/-- An archive that can be read has a record at least. -/
theorem recordSize_le_of_read {s s' : Source} {o : Outline} (h : read.run s = .ok o s') :
    recordSize ≤ s.rest.length := by
  obtain ⟨header, s₁, hheader, -⟩ := run_bind_eq_ok_iff.mp h
  obtain ⟨record, s₂, hrecord, -⟩ := run_bind_eq_ok_iff.mp hheader
  obtain ⟨hlength, hpre, -⟩ := takeBytes_eq_ok hrecord
  exact hlength ▸ hpre.length_le

end NetPlan.Archive
