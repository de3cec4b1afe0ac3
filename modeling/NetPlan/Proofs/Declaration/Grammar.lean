import NetPlan.Proofs.Declaration.Chain
import NetPlan.Proofs.Declaration.Numeral

/-!
# The grammar of links

A key spells a link in one of two forms, `layer[A->B]` and `layer[+B]`, where the numbers are runs
of decimal digits of any scripts and white space may stand before and behind each of them, and
before the plus sign (`Link.Spells`). A line feed at the very end does not count (`Link.Writes`).

White space, digits and the marks between them have no characters in common. So a key can be taken
apart at its marks without a search, and it writes one link at most (`Link.parse?_eq_some_iff`).
With this `Link.read_exact` tells what becomes of any key, behind any node.
-/

namespace NetPlan

open Text

/-! ### Numbers -/

/-- A text is digits with white space around them. -/
def Text.Pads (cs digits : List Char) : Prop :=
  isDigitRun digits = true ∧ ∃ lead trail, cs = lead ++ digits ++ trail ∧
    (∀ c ∈ lead, isBlank c = true) ∧ ∀ c ∈ trail, isBlank c = true

variable {cs digits inner : List Char} {c : Char} {link link' : Link}

/-- Digits are found in a text if it has nothing else but white space around them. -/
theorem paddedDigits?_eq_some_iff : paddedDigits? cs = some digits ↔ Pads cs digits := by
  constructor
  · intro h
    have hrun := (of_paddedDigits? h).2
    have htrim : trim cs = digits := by
      simp only [paddedDigits?] at h
      split at h
      · exact Option.some.inj h
      · cases h
    have hne : trim cs ≠ [] := htrim ▸ (isDigitRun_iff.mp hrun).1
    have hparts := eq_append_trim hne
    rw [htrim] at hparts
    exact ⟨hrun, _, _, hparts, fun c hc => List.mem_takeWhile_imp hc,
      fun c hc => List.mem_rtakeWhile_imp hc⟩
  · rintro ⟨hrun, lead, trail, rfl, hlead, htrail⟩
    have hdigits : ∀ c ∈ digits, isBlank c = false := fun c hc =>
      isBlank_of_isDigit ((isDigitRun_iff.mp hrun).2 c hc)
    simp only [paddedDigits?, trim_append hlead hdigits htrail, hrun, if_true]

/-- Neither white space nor digits are a mark. -/
theorem Text.Pads.not_mem (h : Pads cs digits) (hblank : isBlank c = false)
    (hdigit : isDigit c = false) : c ∉ cs := by
  obtain ⟨hrun, lead, trail, rfl, hlead, htrail⟩ := h
  intro hc
  rw [List.mem_append, List.mem_append] at hc
  rcases hc with (hc | hc) | hc
  · exact absurd (hlead c hc) (by simp [hblank])
  · exact absurd ((isDigitRun_iff.mp hrun).2 c hc) (by simp [hdigit])
  · exact absurd (htrail c hc) (by simp [hblank])

namespace Link

/-! ### Links between brackets -/

/-- What can stand between the brackets: two numbers with an arrow between them, or one with a plus
sign before it. -/
inductive Spells : List Char → Link → Prop
  | between {source target a b : List Char} (ha : Pads source a) (hb : Pads target b) :
      Spells (source ++ ['-', '>'] ++ target) (.between a b)
  | onward {lead distance d : List Char} (hlead : ∀ c ∈ lead, isBlank c = true)
      (hd : Pads distance d) : Spells (lead ++ ['+'] ++ distance) (.onward d)

theorem splitArrow?_eq_none (h : '-' ∉ cs) : splitArrow? cs = none := by
  cases hsplit : splitArrow? cs with
  | none => rfl
  | some parts =>
    obtain rfl := eq_append_of_splitArrow? hsplit
    exact absurd (by simp) h

/-- What stands between the brackets is taken apart as it is spelled. -/
theorem ofInner?_eq_some_iff : ofInner? inner = some link ↔ Spells inner link := by
  constructor
  · intro h
    unfold ofInner? at h
    split at h
    · rename_i source target hsplit
      obtain ⟨a, ha, h⟩ := Option.bind_eq_some_iff.mp h
      obtain ⟨b, hb, h⟩ := Option.bind_eq_some_iff.mp h
      obtain rfl := Option.some.inj h
      have hinner : inner = source ++ ['-', '>'] ++ target := by
        rw [eq_append_of_splitArrow? hsplit, List.append_assoc]
        rfl
      rw [hinner]
      exact .between (paddedDigits?_eq_some_iff.mp ha) (paddedDigits?_eq_some_iff.mp hb)
    · split at h
      · rename_i distance hplus
        obtain ⟨d, hd, rfl⟩ := Option.map_eq_some_iff.mp h
        have hinner : inner = inner.takeWhile isBlank ++ ['+'] ++ distance := by
          rw [List.append_assoc, List.singleton_append, ← hplus]
          exact List.takeWhile_append_dropWhile.symm
        rw [hinner]
        exact .onward (fun c hc => List.mem_takeWhile_imp hc) (paddedDigits?_eq_some_iff.mp hd)
      · cases h
  · rintro (⟨ha, hb⟩ | ⟨hlead, hd⟩)
    · rename_i source target a b
      have hdash : '-' ∉ source := ha.not_mem (by decide) (by decide)
      rw [List.append_assoc, ofInner?]
      simp only [List.cons_append, List.nil_append, splitArrow?_append hdash,
        paddedDigits?_eq_some_iff.mpr ha, paddedDigits?_eq_some_iff.mpr hb]
      rfl
    · rename_i lead distance d
      have hdash : '-' ∉ lead ++ ['+'] ++ distance := by
        intro hmem
        rw [List.mem_append, List.mem_append, List.mem_singleton] at hmem
        rcases hmem with (hmem | hmem) | hmem
        · exact absurd (hlead _ hmem) (by decide)
        · exact absurd hmem (by decide)
        · exact hd.not_mem (by decide) (by decide) hmem
      have hplus : trimStart (lead ++ ['+'] ++ distance) = '+' :: distance := by
        rw [List.append_assoc, List.singleton_append, trimStart_append_cons (by decide), trimStart,
          List.dropWhile_eq_nil_iff.mpr hlead, List.nil_append]
      rw [ofInner?, splitArrow?_eq_none hdash]
      simp only [hplus, paddedDigits?_eq_some_iff.mpr hd, Option.map_some]

/-! ### Keys -/

/-- A key writes a link: the lead of declarations, the link, the bracket that closes it, and perhaps
a line feed. -/
def Writes (key : String) (link : Link) : Prop :=
  ∃ inner, Spells inner link ∧
    (key.toList = layerLead.toList ++ inner ++ [']'] ∨
      key.toList = layerLead.toList ++ inner ++ [']'] ++ ['\n'])

/-- The brackets of a key close at its end, or before a line feed there. -/
theorem inner?_eq_some_iff :
    inner? cs = some inner ↔
      cs = layerLead.toList ++ inner ++ [']'] ∨
        cs = layerLead.toList ++ inner ++ [']'] ++ ['\n'] := by
  constructor
  · intro h
    obtain ⟨rest, hrest, h⟩ := Option.bind_eq_some_iff.mp h
    have hcs : layerLead.toList ++ rest = cs := List.isPrefixOf?_eq_some_iff_append_eq.mp hrest
    dsimp only at h
    split at h
    · rename_i hlast
      obtain rfl := Option.some.inj h
      -- what is left without the line feed ends with the bracket
      have hbody : (dropFinalNewline rest).dropLast ++ [']'] = dropFinalNewline rest :=
        List.dropLast_append_getLast? _ hlast
      unfold dropFinalNewline at hbody ⊢
      split
      · rename_i hfeed
        rw [if_pos hfeed] at hbody
        have hwhole : rest.dropLast ++ ['\n'] = rest := List.dropLast_append_getLast? _ hfeed
        rw [List.append_assoc layerLead.toList, hbody, List.append_assoc, hwhole, hcs]
        exact .inr rfl
      · rename_i hfeed
        rw [if_neg hfeed] at hbody
        rw [List.append_assoc layerLead.toList, hbody, hcs]
        exact .inl rfl
    · cases h
  · have hprefix (rest : List Char) :
        layerLead.toList.isPrefixOf? (layerLead.toList ++ rest) = some rest :=
      List.isPrefixOf?_eq_some_iff_append_eq.mpr rfl
    rintro (rfl | rfl)
    · rw [List.append_assoc]
      exact inner?_append
    · simp only [List.append_assoc, inner?, hprefix]
      simp [dropFinalNewline]

/-- **A key is parsed as the link that it writes.** -/
theorem parse?_eq_some_iff {key : String} : parse? key = some link ↔ Writes key link := by
  rw [parse?, Option.bind_eq_some_iff]
  simp only [inner?_eq_some_iff, ofInner?_eq_some_iff, Writes]
  exact exists_congr fun inner => and_comm

/-- A key writes one link at most. -/
theorem Writes.unique {key : String} (h : Writes key link) (h' : Writes key link') : link = link' :=
  Option.some.inj ((parse?_eq_some_iff.mpr h).symm.trans (parse?_eq_some_iff.mpr h'))

theorem parse?_eq_none_iff {key : String} : parse? key = none ↔ ∀ link, ¬Writes key link := by
  simp only [← parse?_eq_some_iff, Option.eq_none_iff_forall_ne_some, ne_eq]

/-- The faults of a key by what it writes: nothing at all, a number that is too long, or a node
beyond the largest one. -/
theorem read_eq_error_iff_writes {key : String} {top : Int} {f : Fault} :
    read key top = .error f ↔
      ((∀ link, ¬Writes key link) ∧ f = .malformedLink key) ∨
      ∃ link, Writes key link ∧
        ((∃ n, longRun? link.runs = some n ∧ f = .longNumeral n) ∨
          link.IsShort ∧ maxNodeIndex < max (link.reach top).1 (link.reach top).2 ∧
            f = .nodeOutOfRange key) := by
  rw [read_eq_error_iff, parse?_eq_none_iff]
  refine or_congr Iff.rfl ?_
  cases hparse : parse? key with
  | none =>
    -- nothing is written, so neither of the other faults can come up
    have hnone := parse?_eq_none_iff.mp hparse
    simp [runsOf, Exceeds, hparse, hnone]
  | some link =>
    have hlink := parse?_eq_some_iff.mp hparse
    have hwrites (link' : Link) : Writes key link' ↔ link' = link :=
      ⟨fun h => h.unique hlink, fun h => h ▸ hlink⟩
    simp only [runsOf, Exceeds, hparse, hwrites, Option.map_some, Option.getD_some,
      Option.some.injEq, exists_eq_left, exists_eq_left', longRun?_runs_eq_none_iff, lt_max_iff]

/-- **What becomes of a key.** A key that writes a link behind some node is read as the nodes of
that link, if its numbers have no more digits than are read and the nodes are within range. It
writes one link at most. A key that writes none is malformed; a number that is too long is reported
before a node that is out of range. So the faults are those of a declaration, except for the
number. -/
theorem read_exact (key : String) (top : Int) :
    (∀ link link', Writes key link → Writes key link' → link = link') ∧
    (∀ a b, read key top = .ok (a, b) ↔
      ∃ link, Writes key link ∧ link.IsShort ∧ (a, b) = link.reach top ∧ max a b ≤ 2147483646) ∧
    (∀ f, read key top = .error f ↔
      ((∀ link, ¬Writes key link) ∧ f = .malformedLink key) ∨
      ∃ link, Writes key link ∧
        ((∃ n, longRun? link.runs = some n ∧ f = .longNumeral n) ∨
          link.IsShort ∧ 2147483646 < max (link.reach top).1 (link.reach top).2 ∧
            f = .nodeOutOfRange key)) ∧
    ∀ f, read key top = .error f →
      (f.category = .declaration ↔ ∀ link, Writes key link → link.IsShort) := by
  refine ⟨fun link link' h h' => h.unique h', fun a b => ?_,
    fun f => read_eq_error_iff_writes, fun f hf => ?_⟩
  · simp only [read_eq_ok_iff_reach, parse?_eq_some_iff, max_le_iff, maxNodeIndex]
  · obtain ⟨hnone, rfl⟩ | ⟨link, hlink, ⟨n, hlong, rfl⟩ | ⟨hshort, -, rfl⟩⟩ :=
      read_eq_error_iff_writes.mp hf
    · exact iff_of_true rfl fun link h => absurd h (hnone link)
    · refine iff_of_false Category.noConfusion fun h => ?_
      rw [longRun?_runs_eq_none_iff.mpr (h link hlink)] at hlong
      cases hlong
    · exact iff_of_true rfl fun link' h => hlink.unique h ▸ hshort

end Link

end NetPlan
