import NetPlan.Proofs.Archive.Rewriting

/-!
# What readers accept

A reader of archives looks at the form of an archive alone. What it gives is **archivable**,
whatever the source (`archivable_of_run_read`), and every archivable outline comes from its own
archive, so the outlines that can be read are exactly these (`exists_run_read_iff`). What a reader
turns down, it turns down as an archive and for no other reason (`failsAsArchive_read`).
-/

namespace NetPlan.Archive

variable {α β : Type} {r : Reader α} {f : α → Reader β} {s s' : Source} {fault : Fault}

/-! ### Sequences that can be indexed -/

/-- The nodes that are read are as many as can be indexed, because a greater length is refused. -/
theorem length_le_of_run_readNodes {ns : List Int} (h : readNodes.run s = .ok ns s') :
    ns.length ≤ maxSequenceLength := by
  rw [readNodes_eq] at h
  obtain ⟨head, s₁, -, hnodes⟩ := run_bind_eq_ok_iff.mp h
  rw [run_readNodesOf] at hnodes
  split at hnodes
  · cases hnodes
  · rename_i hthere
    obtain ⟨words, s₂, hwords, hns⟩ := run_bind_eq_ok_iff.mp hnodes
    cases hns
    have hlength := length_intsOfBytes (takeBytes_eq_ok hwords).1
    omega

/-- A layer that is read has sequences that can be indexed. -/
theorem short_of_run_readLayer {l : Layer} (h : readLayer.run s = .ok l s') :
    l.inputs.length ≤ maxSequenceLength ∧ l.outputs.length ≤ maxSequenceLength := by
  obtain ⟨primary, s₁, -, h⟩ := run_bind_eq_ok_iff.mp h
  obtain ⟨code, s₂, -, h⟩ := run_bind_eq_ok_iff.mp h
  cases hkind : Kind.ofCode? code with
  | none =>
    rw [hkind] at h
    cases h
  | some kind =>
    rw [hkind] at h
    obtain ⟨inputs, s₃, hin, h⟩ := run_bind_eq_ok_iff.mp h
    obtain ⟨outputs, s₄, hout, h⟩ := run_bind_eq_ok_iff.mp h
    cases h
    exact ⟨length_le_of_run_readNodes hin, length_le_of_run_readNodes hout⟩

theorem short_of_run_readLayers {count : Nat} {ls : List Layer}
    (h : (readLayers count).run s = .ok ls s') :
    ∀ l ∈ ls, l.inputs.length ≤ maxSequenceLength ∧ l.outputs.length ≤ maxSequenceLength := by
  induction count generalizing s ls with
  | zero =>
    cases h
    exact List.forall_mem_nil _
  | succ count ih =>
    obtain ⟨l, s₁, hl, h⟩ := run_bind_eq_ok_iff.mp h
    obtain ⟨ls, s₂, hls, h⟩ := run_bind_eq_ok_iff.mp h
    cases h
    exact List.forall_mem_cons.mpr ⟨short_of_run_readLayer hl, ih hls⟩

/-- What is read from any source is archivable. -/
theorem archivable_of_run_read {o : Outline} (h : read.run s = .ok o s') : o.Archivable := by
  obtain ⟨bs, -, -, hwrite⟩ := writes_read h
  have hfault : (write o).fault = none := by rw [hwrite]
  obtain ⟨hcount, hheader, hlayers⟩ := write_fault_eq_none_iff.mp hfault
  obtain ⟨header, s₁, -, h⟩ := run_bind_eq_ok_iff.mp h
  obtain ⟨layers, s₂, hls, h⟩ := run_bind_eq_ok_iff.mp h
  cases h
  exact ⟨hcount, hheader, hlayers, short_of_run_readLayers hls⟩

/-- The outlines that can be read are the archivable ones. -/
theorem exists_run_read_iff {o : Outline} :
    (∃ s s', read.run s = .ok o s') ↔ o.Archivable := by
  constructor
  · rintro ⟨s, s', h⟩
    exact archivable_of_run_read h
  · intro h
    exact ⟨{ rest := (write o).bytes }, _,
      yields_of_archivable h _ [] rfl (List.append_nil _).symm⟩

/-! ### Faults of archives -/

/-- A reader fails with faults of archives alone. -/
def FailsAsArchive (r : Reader α) : Prop :=
  ∀ (s s' : Source) (fault : Fault), r.run s = .error fault s' → fault.category = .archive

theorem failsAsArchive_pure (a : α) : FailsAsArchive (pure a : Reader α) := by
  intro s s' fault h
  cases h

theorem failsAsArchive_throw (h : fault.category = .archive) :
    FailsAsArchive (throw fault : Reader α) := by
  intro s s' fault' h'
  cases h'
  exact h

/-- A chain fails as an archive if its first reader does, and what follows for each value that it
can give. -/
theorem FailsAsArchive.bind (hr : FailsAsArchive r)
    (hf : ∀ a s s', r.run s = .ok a s' → FailsAsArchive (f a)) : FailsAsArchive (r >>= f) := by
  intro s s' fault h
  obtain h | ⟨a, s₁, ha, h⟩ := run_bind_eq_error_iff.mp h
  · exact hr s s' fault h
  · exact hf a s s₁ ha s₁ s' fault h

theorem failsAsArchive_takeBytes (n : Nat) : FailsAsArchive (takeBytes n) := by
  intro s s' fault h
  rw [takeBytes_eq_error h]
  rfl

/-- Both refusals of a sequence, for its length and for missing bytes, are those of an archive. -/
theorem failsAsArchive_readNodesOf (length : Nat) : FailsAsArchive (readNodesOf length) := by
  intro s s' fault h
  rw [run_readNodesOf] at h
  split at h
  · cases h
    rfl
  · exact (failsAsArchive_takeBytes _).bind (fun _ _ _ _ => failsAsArchive_pure _) s s' fault h

/-- Failing as an archive passes on from the parts of readers to readers of archives. -/
theorem hereditary_failsAsArchive : Hereditary FailsAsArchive where
  value := failsAsArchive_pure
  refusal := failsAsArchive_throw
  bytes := failsAsArchive_takeBytes
  nodes := failsAsArchive_readNodesOf
  chain := FailsAsArchive.bind

/-- Whatever a reader turns down, it turns down as an archive. -/
theorem failsAsArchive_read : FailsAsArchive read := hereditary_failsAsArchive.read

end NetPlan.Archive
