import NetPlan.Proofs.Declaration.Refusal
import NetPlan.Proofs.Text.Blank

/-!
# Numbers that are too long

A declaration or a shape is turned down for a number that is too long only if it holds one: a run of
more than `maxDigits` digits stands somewhere in its key or in its value (`Entry.HasLongNumeral`).
The readers cut a text and never put pieces together, so whatever run of digits they look at stands
in the text as it is.
-/

namespace NetPlan

open Text

/-- A text holds a number with more digits than are read. -/
def Text.HasLongNumeral (cs : List Char) : Prop :=
  ∃ digits, digits <:+: cs ∧ isDigitRun digits = true ∧ maxDigits < digits.length

theorem Text.HasLongNumeral.length_lt {cs : List Char} (h : HasLongNumeral cs) :
    maxDigits < cs.length := by
  obtain ⟨digits, hwithin, -, hlong⟩ := h
  exact hlong.trans_le hwithin.length_le

/-- The key or the value of an entry holds a number with more digits than are read. -/
def Entry.HasLongNumeral (e : Entry) : Prop :=
  Text.HasLongNumeral e.key.toList ∨ Text.HasLongNumeral e.value.toList

/-- An entry that is short as a whole holds no such number. -/
theorem Entry.not_hasLongNumeral {e : Entry} (hkey : e.key.toList.length ≤ maxDigits)
    (hvalue : e.value.toList.length ≤ maxDigits) : ¬e.HasLongNumeral := by
  rintro (h | h)
  · exact absurd h.length_lt (Nat.not_lt.mpr hkey)
  · exact absurd h.length_lt (Nat.not_lt.mpr hvalue)

variable {cs digits : List Char} {f : Fault} {e : Entry}

/-- Digits that are found in a text stand there in one run. -/
theorem of_paddedDigits? (h : paddedDigits? cs = some digits) :
    digits <:+: cs ∧ isDigitRun digits = true := by
  simp only [paddedDigits?] at h
  split at h
  · rename_i hrun
    obtain rfl := Option.some.inj h
    exact ⟨trim_isInfix cs, hrun⟩
  · cases h

/-- A fault turns a text down: it is a rejection, or the text holds a number that is too long. -/
def Fault.TurnsDown (f : Fault) (cs : List Char) : Prop :=
  f.isRejection = true ∨ (∃ n, f = .longNumeral n) ∧ HasLongNumeral cs

/-- If all runs of digits that are read stand in a text, one that is too long stands there as
well. -/
theorem Text.HasLongNumeral.of_longRun? {runs : List (List Char)} {n : Nat}
    (hruns : ∀ run ∈ runs, run <:+: cs ∧ isDigitRun run = true) (h : longRun? runs = some n) :
    HasLongNumeral cs := by
  obtain ⟨run, hfind, -⟩ := Option.map_eq_some_iff.mp h
  obtain ⟨hwithin, hdigits⟩ := hruns run (List.mem_of_find?_eq_some hfind)
  have hlong : maxDigits < run.length := by simpa using List.find?_some hfind
  exact ⟨run, hwithin, hdigits, hlong⟩

/-! ### Links -/

namespace Link

variable {key : List Char} {source target inner : List Char} {link : Link}

theorem dropFinalNewline_isPrefix (cs : List Char) : dropFinalNewline cs <+: cs := by
  unfold dropFinalNewline
  split
  · exact List.dropLast_prefix cs
  · exact List.prefix_rfl

/-- What is read between the brackets of a key stands in the key. -/
theorem infix_of_inner? (h : inner? key = some inner) : inner <:+: key := by
  obtain ⟨rest, hrest, h⟩ := Option.bind_eq_some_iff.mp h
  have hsuffix : rest <:+ key := ⟨_, List.isPrefixOf?_eq_some_iff_append_eq.mp hrest⟩
  dsimp only at h
  split at h
  · obtain rfl := Option.some.inj h
    exact ((List.dropLast_prefix _).trans (dropFinalNewline_isPrefix rest)).isInfix.trans
      hsuffix.isInfix
  · cases h

theorem eq_append_of_splitArrow? (h : splitArrow? cs = some (source, target)) :
    cs = source ++ '-' :: '>' :: target := by
  fun_induction splitArrow? cs generalizing source with
  | case1 => cases h
  | case2 rest =>
    obtain ⟨rfl, rfl⟩ := Prod.mk.inj (Option.some.inj h)
    rfl
  | case3 c rest hnone ih =>
    obtain ⟨⟨source', target'⟩, hrest, heq⟩ := Option.map_eq_some_iff.mp h
    obtain ⟨rfl, rfl⟩ := Prod.mk.inj heq
    rw [ih hrest, List.cons_append]

theorem of_mem_runs (h : ofInner? inner = some link) :
    ∀ run ∈ link.runs, run <:+: inner ∧ isDigitRun run = true := by
  unfold ofInner? at h
  split at h
  · rename_i source target hsplit
    obtain ⟨a, ha, h⟩ := Option.bind_eq_some_iff.mp h
    obtain ⟨b, hb, h⟩ := Option.bind_eq_some_iff.mp h
    obtain rfl := Option.some.inj h
    obtain rfl := eq_append_of_splitArrow? hsplit
    obtain ⟨hsource, harun⟩ := of_paddedDigits? ha
    obtain ⟨htarget, hbrun⟩ := of_paddedDigits? hb
    have hafter : target <:+ source ++ '-' :: '>' :: target := ⟨source ++ ['-', '>'], by simp⟩
    simp only [runs, List.forall_mem_cons, List.not_mem_nil, false_implies, implies_true, and_true]
    exact ⟨⟨hsource.trans (List.prefix_append _ _).isInfix, harun⟩,
      htarget.trans hafter.isInfix, hbrun⟩
  · split at h
    · rename_i rest htrim
      obtain ⟨distance, hdistance, rfl⟩ := Option.map_eq_some_iff.mp h
      obtain ⟨hrest, hrun⟩ := of_paddedDigits? hdistance
      have hsuffix : rest <:+ inner :=
        (List.suffix_cons '+' rest).trans (htrim ▸ List.dropWhile_suffix isBlank)
      simp only [runs, List.forall_mem_singleton]
      exact ⟨hrest.trans hsuffix.isInfix, hrun⟩
    · cases h

/-- The numbers of a link stand in its key. -/
theorem of_mem_runsOf {key : String} :
    ∀ run ∈ runsOf key, run <:+: key.toList ∧ isDigitRun run = true := by
  intro run hrun
  unfold runsOf at hrun
  cases hparse : parse? key with
  | none => simp [hparse] at hrun
  | some link =>
    rw [hparse] at hrun
    obtain ⟨inner, hinner, hlink⟩ := Option.bind_eq_some_iff.mp hparse
    obtain ⟨hwithin, hdigits⟩ := of_mem_runs hlink run hrun
    exact ⟨hwithin.trans (infix_of_inner? hinner), hdigits⟩

/-- A key is turned down by a rejection, or for a number that is too long and stands in it. -/
theorem turnsDown_of_read {key : String} {top : Int} (h : read key top = .error f) :
    f.TurnsDown key.toList := by
  obtain ⟨-, rfl⟩ | ⟨n, hlong, rfl⟩ | ⟨-, -, rfl⟩ := read_eq_error_iff.mp h
  · exact .inl rfl
  · exact .inr ⟨⟨n, rfl⟩, .of_longRun? of_mem_runsOf hlong⟩
  · exact .inl rfl

end Link

/-! ### Shapes -/

namespace Shape

variable {channels height width : List Char}

theorem of_parts? (h : parts? cs = some (channels, height, width)) :
    ∀ run ∈ [channels, height, width], run <:+: cs ∧ isDigitRun run = true := by
  simp only [parts?] at h
  split at h
  · rename_i rest hrest
    split at h
    · rename_i width' hwidth
      split at h
      · rename_i hruns
        obtain ⟨rfl, rfl, rfl⟩ : _ = channels ∧ _ = height ∧ width' = width := by simpa using h
        have hbehind : rest <:+ cs :=
          (List.suffix_cons ',' rest).trans (hrest ▸ List.dropWhile_suffix _)
        have hlast : width' <:+ rest :=
          (List.suffix_cons ',' width').trans (hwidth ▸ List.dropWhile_suffix _)
        refine fun run hrun => ⟨?_, List.all_eq_true.mp hruns run hrun⟩
        simp only [List.mem_cons, List.not_mem_nil, or_false] at hrun
        rcases hrun with rfl | rfl | rfl
        · exact (List.takeWhile_prefix _).isInfix
        · exact (List.takeWhile_prefix _).isInfix.trans hbehind.isInfix
        · exact (hlast.trans hbehind).isInfix
      · cases h
    · cases h
  · cases h

/-- The numbers of a shape stand in its value. -/
theorem of_mem_runsOf {value : String} :
    ∀ run ∈ runsOf value, run <:+: value.toList ∧ isDigitRun run = true := by
  intro run hrun
  unfold runsOf at hrun
  split at hrun
  · rename_i hparts
    obtain ⟨hwithin, hdigits⟩ := of_parts? hparts run hrun
    exact ⟨hwithin.trans (trim_isInfix _), hdigits⟩
  · cases hrun

/-- A shape is turned down by a rejection, or for a number that is too long and stands in it. -/
theorem turnsDown_of_read {value : String} (h : read value = .error f) :
    f.TurnsDown value.toList := by
  obtain ⟨-, rfl⟩ | ⟨n, hlong, rfl⟩ | ⟨-, -, rfl⟩ := read_eq_error_iff.mp h
  · exact .inl rfl
  · exact .inr ⟨⟨n, rfl⟩, .of_longRun? of_mem_runsOf hlong⟩
  · exact .inl rfl

end Shape

/-! ### Declarations -/

namespace Declaration

variable {top index : Int} {tags : Registry}

/-- Behind its link, a declaration is turned down for its designation, its kind or its tag. -/
theorem turnsDown_of_read (h : read e top index tags = .error f) : f.TurnsDown e.key.toList := by
  obtain hlink | ⟨-, -, hvalue | ⟨d, -, hkind | ⟨kind, -, htag⟩⟩⟩ := read_eq_error_iff.mp h
  · exact Link.turnsDown_of_read hlink
  · obtain rfl := Designation.read_eq_error hvalue
    exact .inl rfl
  · obtain rfl := Kind.named_eq_error hkind
    exact .inl rfl
  · obtain ⟨-, -, rfl⟩ | ⟨-, -, -, rfl⟩ | ⟨-, -, -, rfl⟩ := resolve_eq_error_iff.mp htag
    all_goals exact .inl rfl

end Declaration

end NetPlan
