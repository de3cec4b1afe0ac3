import NetPlan.Proofs.Archive.Acceptance

/-!
# Archives that are cut

No bytes from which something is yielded begin others from which the same reader yields something
(`Yields.eq_of_isPrefix`): where it stops is decided by what it has taken. A uniform reader that is
given less than it would take therefore fails (`Uniform.exists_error_of_isPrefix`), however its
source hands out the bytes.

So archives are **prefix-free**, and one that is cut at any place, at the end of a field or inside
one, is never taken for a smaller one (`read_take`).
-/

namespace NetPlan.Archive

variable {α : Type} {r : Reader α} {a b : α} {bs cs : Bytes}

/-- Of two strings of bytes from which a reader yields, neither begins the other. -/
theorem Yields.eq_of_isPrefix (hbs : Yields r bs a) (hcs : Yields r cs b) (hpre : cs <+: bs) :
    cs = bs ∧ b = a := by
  obtain ⟨more, rfl⟩ := hpre
  have hall := hbs { rest := cs ++ more } [] rfl (List.append_nil _).symm
  rw [hcs { rest := cs ++ more } more rfl rfl] at hall
  cases hall
  exact ⟨(List.append_nil cs).symm, rfl⟩

/-- Where fewer bytes are there than a reader takes from others that begin with them, it fails. -/
theorem Uniform.exists_error_of_isPrefix (hr : Uniform r) (hbs : Yields r bs a) {t : Source}
    (hpre : t.rest <+: bs) (hne : t.rest ≠ bs) : ∃ fault t', r.run t = .error fault t' := by
  cases hrun : r.run t with
  | error fault t' => exact ⟨fault, t', rfl⟩
  | ok b t' =>
    obtain ⟨cs, hcs, -, hyields⟩ := hr t b t' hrun
    have hbegins : cs <+: t.rest := ⟨t'.rest, hcs.symm⟩
    -- what was taken is all that it takes, so nothing is missing
    obtain ⟨rfl, -⟩ := hbs.eq_of_isPrefix hyields (hbegins.trans hpre)
    exact absurd (hpre.eq_of_length_le hbegins.length_le) hne

/-- A proper beginning of an archive is turned down as an archive by every source. -/
theorem read_eq_error_of_isPrefix {o : Outline} (hbs : Yields read bs o) {t : Source}
    (hpre : t.rest <+: bs) (hne : t.rest ≠ bs) :
    ∃ fault t', read.run t = .error fault t' ∧ fault.category = .archive := by
  obtain ⟨fault, t', hrun⟩ := uniform_read.exists_error_of_isPrefix hbs hpre hne
  exact ⟨fault, t', hrun, failsAsArchive_read t t' fault hrun⟩

/-- **Every cut is noticed.** If an outline is read from a source, some bytes have been taken. From
the first bytes of this source, if they are fewer than these, nothing is read, whatever the source
that hands them out: they are turned down as an archive. And of the strings of bytes that are taken
where an outline is read, from any sources, none begins another. -/
theorem read_take {s s' : Source} {o : Outline} (h : read.run s = .ok o s') :
    ∃ bs, s.rest = bs ++ s'.rest ∧
      (∀ (k : Nat) (t : Source), k < bs.length → t.rest = s.rest.take k →
        ∃ fault t', read.run t = .error fault t' ∧ fault.category = .archive) ∧
      (∀ (t t' : Source) (o' : Outline) (cs : Bytes), read.run t = .ok o' t' →
        t.rest = cs ++ t'.rest → cs <+: bs ∨ bs <+: cs → cs = bs ∧ o' = o) := by
  obtain ⟨bs, hbs, -, hyields⟩ := uniform_read s o s' h
  refine ⟨bs, hbs, fun k t hk ht => ?_, fun t t' o' cs ht hcs hpre => ?_⟩
  · have hrest : t.rest = bs.take k := by
      rw [ht, hbs, List.take_append_of_le_length (Nat.le_of_lt hk)]
    refine read_eq_error_of_isPrefix hyields (hrest ▸ List.take_prefix k bs) fun heq => ?_
    have hlength := congrArg List.length (hrest.symm.trans heq)
    rw [List.length_take] at hlength
    omega
  · obtain ⟨cs', hcs', -, hyields'⟩ := uniform_read t o' t' ht
    obtain rfl : cs' = cs := List.append_cancel_right (hcs'.symm.trans hcs)
    obtain hpre | hpre := hpre
    · exact hyields.eq_of_isPrefix hyields' hpre
    · obtain ⟨rfl, rfl⟩ := hyields'.eq_of_isPrefix hyields hpre
      exact ⟨rfl, rfl⟩

/-- An archive that no writer makes, cut inside the length of the inputs of its layer. -/
theorem read_take_foreignBytes :
    read.run { rest := foreignBytes ++ [5] } = .ok foreign { rest := [5] } ∧
      ∃ fault t', read.run { rest := foreignBytes.take 163, sized := false } = .error fault t' ∧
        fault.category = .archive := by
  have hread : read.run { rest := foreignBytes ++ [5] } = .ok foreign { rest := [5] } := by
    decide +kernel
  obtain ⟨bs, hbs, hcut, -⟩ := read_take hread
  obtain rfl : foreignBytes = bs := List.append_cancel_right hbs
  exact ⟨hread, hcut 163 _ (by decide +kernel) (by decide +kernel)⟩

end NetPlan.Archive
