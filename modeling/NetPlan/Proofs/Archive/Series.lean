import NetPlan.Proofs.Archive.RoundTrip

/-!
# Archives one behind the other

A source may hold several archives and any bytes behind them. `readSeries` calls the reader again
and again, each call from where the one before stopped. What is written archive by archive is read
call by call (`readSeries_archives`): no call sees that something follows its archive, although the
reader compares each length with all that is left.

An outline is **archivable** if its header counts its layers, its numbers fit their words and its
sequences of nodes can be indexed. The last condition concerns the reader alone.
-/

namespace NetPlan

/-- What can be written and read back. -/
structure Outline.Archivable (o : Outline) : Prop where
  layerCount : o.header.layerCount = o.layers.length
  header : o.header.Fits
  layers : ∀ l ∈ o.layers, l.Fits
  short : ∀ l ∈ o.layers, l.inputs.length ≤ Archive.maxSequenceLength ∧
    l.outputs.length ≤ Archive.maxSequenceLength

namespace Archive

variable {o : Outline} {os : List Outline} {s : Source}

/-- An archivable outline is written to its end. -/
theorem write_fault_of_archivable (h : o.Archivable) : (write o).fault = none :=
  write_fault_eq_none_iff.mpr ⟨h.layerCount, h.header, h.layers⟩

/-- An archivable outline is yielded by its archive. -/
theorem yields_of_archivable (h : o.Archivable) : Yields read (write o).bytes o :=
  yields_read (write_fault_of_archivable h) h.short

/-- The bytes of archives that are written one behind the other. -/
def archives (os : List Outline) : Bytes :=
  os.flatMap fun o => (write o).bytes

/-- The results of a number of calls of the reader. Each goes on where the one before stopped, also
behind a fault. -/
def readSeries : (calls : Nat) → Source → List (EStateM.Result Fault Source Outline)
  | 0, _ => []
  | calls + 1, s =>
    match read.run s with
    | .ok o s' => .ok o s' :: readSeries calls s'
    | .error fault s' => .error fault s' :: readSeries calls s'

theorem readSeries_succ_of_ok {s' : Source} (h : read.run s = .ok o s') (calls : Nat) :
    readSeries (calls + 1) s = .ok o s' :: readSeries calls s' := by
  rw [readSeries, h]

/-- The first call reads the first archive and leaves the others to the calls behind it. -/
theorem readSeries_cons (h : o.Archivable) (os : List Outline) (tail : Bytes)
    (hfull : s.delivery = .full) (hs : s.rest = archives (o :: os) ++ tail) (calls : Nat) :
    readSeries (calls + 1) s =
      .ok o { s with rest := archives os ++ tail } ::
        readSeries calls { s with rest := archives os ++ tail } := by
  refine readSeries_succ_of_ok ?_ calls
  refine yields_of_archivable h s (archives os ++ tail) hfull ?_
  rw [hs, archives, List.flatMap_cons, List.append_assoc]
  rfl

/-- **Archives are read one by one.** Archivable outlines are written without a fault. From any
source that delivers in full and holds their archives and some further bytes, whether it knows its
size or not, as many calls as there are outlines give these in order, and each call leaves the
source exactly behind its own archive. -/
theorem readSeries_archives (os : List Outline) (hos : ∀ o ∈ os, o.Archivable) (tail : Bytes)
    (s : Source) (hfull : s.delivery = .full) (hs : s.rest = archives os ++ tail) :
    (∀ o ∈ os, (write o).fault = none) ∧
      ∀ (i : Nat) (o : Outline), os[i]? = some o →
        (readSeries os.length s)[i]? =
          some (.ok o { s with rest := archives (os.drop (i + 1)) ++ tail }) := by
  refine ⟨fun o ho => write_fault_of_archivable (hos o ho), fun i o hi => ?_⟩
  induction os generalizing s i with
  | nil => cases hi
  | cons o' os ih =>
    have ho' : o'.Archivable := hos o' List.mem_cons_self
    have hrest : ∀ o ∈ os, o.Archivable := fun o ho => hos o (List.mem_cons_of_mem o' ho)
    rw [List.length_cons, readSeries_cons ho' os tail hfull hs]
    cases i with
    | zero =>
      obtain rfl := Option.some.inj hi
      rfl
    | succ i => exact ih hrest { s with rest := archives os ++ tail } hfull rfl i hi

/-- An outline that no configuration makes: nodes below zero, a sequence without nodes and one with
several, and numbers at the ends of their words. -/
def ragged : Outline :=
  { header :=
      { nodeCount := -2147483648, layerCount := 2, shape := ⟨0, 28, 4294967295⟩, finalized := true }
    layers := [⟨.concat, [0, -1, 2147483647], [], 7⟩, ⟨.shared, [], [5, 5], -3⟩] }

theorem archivable_ragged : ragged.Archivable where
  layerCount := rfl
  header := ⟨by decide, by decide, by decide, by decide, by decide⟩
  layers := by
    simp only [ragged, List.forall_mem_cons, List.not_mem_nil, false_implies, implies_true,
      and_true]
    exact ⟨⟨by decide, by decide, by decide⟩, ⟨by decide, by decide, by decide⟩⟩
  short := by decide

/-- Two archives with the beginning of a third one behind them. -/
def raggedBytes : Bytes :=
  archives [ragged, {}] ++ (write ragged).bytes.take 160

/-- Two calls read both archives from a source that does not know its size, and leave what there is
of the third one. -/
theorem readSeries_raggedBytes :
    (∀ o ∈ [ragged, {}], o.Archivable) ∧
      (readSeries 2 { rest := raggedBytes, sized := false })[0]? =
        some (.ok ragged
          { rest := archives [{}] ++ (write ragged).bytes.take 160, sized := false }) ∧
      (readSeries 2 { rest := raggedBytes, sized := false })[1]? =
        some (.ok {} { rest := (write ragged).bytes.take 160, sized := false }) := by
  have hempty : ({} : Outline).Archivable :=
    ⟨rfl, ⟨by decide, by decide, by decide, by decide, by decide⟩, by simp, by simp⟩
  have hboth : ∀ o ∈ [ragged, {}], o.Archivable := by simpa using ⟨archivable_ragged, hempty⟩
  obtain ⟨-, hread⟩ := readSeries_archives [ragged, {}] hboth ((write ragged).bytes.take 160)
    { rest := raggedBytes, sized := false } rfl rfl
  exact ⟨hboth, hread 0 ragged rfl, hread 1 {} rfl⟩

end Archive

end NetPlan
