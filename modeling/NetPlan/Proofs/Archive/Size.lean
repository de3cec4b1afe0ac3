import NetPlan.Proofs.Archive.Acceptance

/-!
# Sources that know their size

Where a source knows how many bytes are left, a reader refuses a length that goes beyond them before
it asks for the nodes. Where it does not, the reader asks for them and gets too few. This is all the
difference that the size of a source makes (`Tally`), and a reader for which it makes no other is
**size-blind** (`SizeBlind`). The reader of archives is, so knowing the size saves requests and
changes no answer (`read_unsized`).
-/

namespace NetPlan.Archive

variable {α β : Type} {r : Reader α} {f : α → Reader β} {a : α} {s s' : Source} {fault : Fault}

/-- The same bytes, handed out in the same way, from a source that does not know how many there
are. -/
def Source.unsized (s : Source) : Source :=
  { s with sized := false }

/-- What a reader comes to on a source, beside what it comes to where the size is not known: the
same at the same place, unless the size shows early that nodes are missing. -/
inductive Tally : EStateM.Result Fault Source α → EStateM.Result Fault Source α → Prop
  | ok (a : α) (s : Source) : Tally (.ok a s) (.ok a s.unsized)
  | error (fault : Fault) (s : Source) : Tally (.error fault s) (.error fault s.unsized)
  | early (s t : Source) : Tally (.error .badSequenceLength s) (.error .invalidArchive t)

/-- A reader to which the size of a source makes no other difference. -/
def SizeBlind (r : Reader α) : Prop :=
  ∀ s, Tally (r.run s) (r.run s.unsized)

theorem sizeBlind_pure (a : α) : SizeBlind (pure a : Reader α) :=
  fun s => .ok a s

theorem sizeBlind_throw (fault : Fault) : SizeBlind (throw fault : Reader α) :=
  fun s => .error fault s

theorem SizeBlind.run_of_ok (hr : SizeBlind r) (h : r.run s = .ok a s') :
    r.run s.unsized = .ok a s'.unsized := by
  have hs := hr s
  rw [h] at hs
  generalize r.run s.unsized = result at hs ⊢
  cases hs
  rfl

/-- Where a size-blind reader fails, it fails as well where the size is not known: with the same
fault, or for missing bytes where the size has shown early that nodes are missing. -/
theorem SizeBlind.run_of_error (hr : SizeBlind r) (h : r.run s = .error fault s') :
    r.run s.unsized = .error fault s'.unsized ∨
      fault = .badSequenceLength ∧ ∃ t, r.run s.unsized = .error .invalidArchive t := by
  have hs := hr s
  rw [h] at hs
  generalize r.run s.unsized = result at hs ⊢
  cases hs with
  | error => exact .inl rfl
  | early _ t => exact .inr ⟨rfl, t, rfl⟩

/-- A chain is size-blind if its first reader is, and what follows for each value that it can
give. -/
theorem SizeBlind.bind (hr : SizeBlind r) (hf : ∀ a s s', r.run s = .ok a s' → SizeBlind (f a)) :
    SizeBlind (r >>= f) := by
  intro s
  rw [EStateM.run_bind, EStateM.run_bind]
  cases hrun : r.run s with
  | ok a s' =>
    rw [hr.run_of_ok hrun]
    exact hf a s s' hrun s'
  | error fault s' =>
    obtain hsame | ⟨rfl, t, ht⟩ := hr.run_of_error hrun
    · rw [hsame]
      exact .error fault s'
    · rw [ht]
      exact .early s' t

/-- A request does not look at the size. -/
theorem sizeBlind_takeBytes (n : Nat) : SizeBlind (takeBytes n) := by
  intro s
  have hanswer : s.unsized.answer? n = s.answer? n := rfl
  simp only [EStateM.run, takeBytes, hanswer]
  cases s.answer? n with
  | none => exact .error _ s
  | some got =>
    simp only
    split
    · exact .ok got { s with rest := s.rest.drop got.length }
    · exact .error _ { s with rest := s.rest.drop got.length }

/-- Whatever the way in which bytes are handed out, more than there are cannot be had. -/
theorem exists_takeBytes_eq_error {n : Nat} {s : Source} (h : s.rest.length < n) :
    ∃ t, (takeBytes n).run s = .error .invalidArchive t := by
  cases hrun : (takeBytes n).run s with
  | ok got s' =>
    obtain ⟨hlength, hpre, -⟩ := takeBytes_eq_ok hrun
    have hle := hpre.length_le
    omega
  | error fault t =>
    obtain rfl := takeBytes_eq_error hrun
    exact ⟨t, rfl⟩

/-- A length that goes beyond a known size is one whose nodes cannot be had, so refusing it early
changes no answer. -/
theorem sizeBlind_readNodesOf (length : Nat) : SizeBlind (readNodesOf length) := by
  intro s
  have hunsized : s.unsized.lacks (4 * length) = false := rfl
  rw [run_readNodesOf, run_readNodesOf, hunsized]
  by_cases hlong : maxSequenceLength < length
  · -- no source is asked for a sequence that is too long for memory
    rw [if_pos (.inl hlong), if_pos (.inl hlong)]
    exact .error _ s
  · rw [if_neg (show ¬(maxSequenceLength < length ∨ false = true) by simpa using hlong)]
    by_cases hlacks : s.lacks (4 * length) = true
    · -- the request for the nodes finds out what the size tells
      rw [if_pos (.inr hlacks), EStateM.run_bind]
      simp only [Source.lacks, Bool.and_eq_true, decide_eq_true_eq] at hlacks
      obtain ⟨t, ht⟩ := exists_takeBytes_eq_error (s := s.unsized) hlacks.2
      rw [ht]
      exact .early s t
    · rw [if_neg (by simpa [hlong] using hlacks)]
      exact (sizeBlind_takeBytes _).bind (fun bs _ _ _ => sizeBlind_pure (intsOfBytes bs)) s

theorem hereditary_sizeBlind : Hereditary SizeBlind where
  value := sizeBlind_pure
  refusal _ := sizeBlind_throw _
  bytes := sizeBlind_takeBytes
  nodes := sizeBlind_readNodesOf
  chain := SizeBlind.bind

/-- The reader of archives looks at the size of its source for nothing else. -/
theorem sizeBlind_read : SizeBlind read := hereditary_sizeBlind.read

/-- **Knowing the size changes no answer.** From any place in any bytes, the reader comes to the
same outline behind as many bytes, whether the source knows its size or not, or it fails on both. It
fails as on an archive that is no good, with the same fault at the same place, unless the size shows
that nodes are missing before these are asked for. -/
theorem read_unsized (bs : Bytes) (start : Nat) :
    let known : Source := { rest := bs.drop start }
    let unknown : Source := { rest := bs.drop start, sized := false }
    (∃ o taken, start + taken ≤ bs.length ∧
      read.run known = .ok o { rest := bs.drop (start + taken) } ∧
      read.run unknown = .ok o { rest := bs.drop (start + taken), sized := false }) ∨
    (∃ fault fault' s s', read.run known = .error fault s ∧ read.run unknown = .error fault' s' ∧
      fault.category = .archive ∧ fault'.category = .archive ∧
      (fault' = fault ∧ s' = s.unsized ∨ fault = .badSequenceLength ∧ fault' = .invalidArchive)) := by
  intro known unknown
  cases hknown : read.run known with
  | ok o s =>
    obtain ⟨taken, htaken, hs, -⟩ := uniform_read known o s hknown
    have hrest : s.rest = bs.drop (start + taken.length) := by
      rw [← List.drop_drop, show bs.drop start = taken ++ s.rest from htaken, List.drop_left]
    have hend : start + taken.length ≤ bs.length := by
      have hrecord := recordSize_le_of_read hknown
      have hlength := congrArg List.length htaken
      simp only [known, List.length_drop, List.length_append, recordSize] at hrecord hlength
      omega
    have hunknown := sizeBlind_read.run_of_ok hknown
    rw [hs, hrest] at hunknown ⊢
    exact .inl ⟨o, taken.length, hend, rfl, hunknown⟩
  | error fault s =>
    have hcategory := failsAsArchive_read known s fault hknown
    obtain hsame | ⟨hearly, s', hs'⟩ := sizeBlind_read.run_of_error hknown
    · exact .inr ⟨fault, fault, s, s.unsized, rfl, hsame, hcategory, hcategory, .inl ⟨rfl, rfl⟩⟩
    · exact .inr ⟨fault, .invalidArchive, s, s', rfl, hs', hcategory, rfl, .inr ⟨hearly, rfl⟩⟩

end NetPlan.Archive
