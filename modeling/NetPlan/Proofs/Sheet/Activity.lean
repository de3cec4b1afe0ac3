import Mathlib.Data.Nat.Find
import NetPlan.Proofs.Sheet.Comment
import NetPlan.Proofs.Text.Blank

/-!
# Active characters

Backslashes take away each other's meaning, so whether a character is escaped is a matter of parity:
it is if the run of backslashes directly before it is odd (`Sheet.escapesNext`). A quote that is not
escaped is **active**; such quotes open and close in turn, so a quote is open behind an odd number
of them (`Sheet.leavesOpen`).

The cut of a comment goes by these two rules, though it keeps no more than two flags
(`Sheet.cutFrom_cons`): the flags at a point of a line are what the rules say of the text before. So
a comment sign starts a comment if it is neither escaped nor behind an open quote. Up to such a sign
the cut passes over the line (`Sheet.cutFrom_append`); the first sign of all either is one and ends
what is kept, or is kept too (`Sheet.cutComment_append`). What is kept of any line is its longest
beginning without such a sign (`Sheet.cutComment_longest`).
-/

namespace NetPlan.Sheet

/-- Whether the character behind a text is escaped: the backslashes at the end of the text are odd
in number. -/
def escapesNext (before : List Char) : Bool :=
  (before.rtakeWhile (· == '\\')).length % 2 == 1

/-- The places of the active quotes of a text. -/
def activeQuotes (cs : List Char) : List Nat :=
  (List.range cs.length).filter fun i => cs[i]? == some '"' && !escapesNext (cs.take i)

/-- Whether a quote is open behind a text: its active quotes are odd in number. -/
def leavesOpen (before : List Char) : Bool :=
  (activeQuotes before).length % 2 == 1

/-- Whether a comment sign behind a text starts a comment. -/
def StartsComment (before : List Char) : Prop :=
  escapesNext before = false ∧ leavesOpen before = false

instance (before : List Char) : Decidable (StartsComment before) :=
  inferInstanceAs (Decidable (_ ∧ _))

variable {c : Char} {cs before kept rest : List Char}

/-! ### One more character -/

/-- A character behind an escaped one is not escaped, and else it is if it stands behind a
backslash. -/
theorem escapesNext_concat (cs : List Char) (c : Char) :
    escapesNext (cs ++ [c]) = (c == '\\' && !escapesNext cs) := by
  rw [escapesNext, List.rtakeWhile_concat]
  cases hc : c == '\\' with
  | false => rfl
  | true =>
    rw [if_pos rfl, List.length_append, List.length_singleton, escapesNext, Bool.true_and]
    rcases Nat.mod_two_eq_zero_or_one (cs.rtakeWhile (· == '\\')).length with h | h <;>
      simp [Nat.add_mod, h]

theorem activeQuotes_concat (cs : List Char) (c : Char) :
    activeQuotes (cs ++ [c]) =
      activeQuotes cs ++ if c = '"' ∧ escapesNext cs = false then [cs.length] else [] := by
  have hinit : ∀ i ∈ List.range cs.length,
      ((cs ++ [c])[i]? == some '"' && !escapesNext ((cs ++ [c]).take i)) =
        (cs[i]? == some '"' && !escapesNext (cs.take i)) := by
    intro i hi
    have hlt : i < cs.length := List.mem_range.mp hi
    rw [List.getElem?_append_left hlt, List.take_append_of_le_length hlt.le]
  rw [activeQuotes, List.length_append, List.length_singleton, List.range_succ, List.filter_append,
    List.filter_congr hinit, activeQuotes]
  congr 1
  by_cases hc : c = '"' <;> cases hescaped : escapesNext cs <;> simp [hc, hescaped]

/-- A quote at the start of a text is active. -/
theorem length_activeQuotes_pos (h : cs.head? = some '"') : 0 < (activeQuotes cs).length := by
  obtain ⟨rest, rfl⟩ := List.head?_eq_some_iff.mp h
  have hfirst : 0 ∈ activeQuotes ('"' :: rest) :=
    List.mem_filter.mpr ⟨List.mem_range.mpr (Nat.succ_pos rest.length), rfl⟩
  exact List.length_pos_of_mem hfirst

theorem length_activeQuotes_le (h : before <+: cs) :
    (activeQuotes before).length ≤ (activeQuotes cs).length := by
  obtain ⟨rest, rfl⟩ := h
  induction rest using List.reverseRecOn with
  | nil => rw [List.append_nil]
  | append_singleton rest c ih =>
    rw [← List.append_assoc, activeQuotes_concat, List.length_append]
    exact ih.trans (Nat.le_add_right _ _)

theorem leavesOpen_concat (cs : List Char) (c : Char) :
    leavesOpen (cs ++ [c]) = ((c == '"' && !escapesNext cs) != leavesOpen cs) := by
  rw [leavesOpen, activeQuotes_concat, leavesOpen]
  rcases Nat.mod_two_eq_zero_or_one (activeQuotes cs).length with h | h <;>
    by_cases hc : c = '"' <;> cases hescaped : escapesNext cs <;> simp [Nat.add_mod, h, hc]

/-- A quote that closes the only one before it leaves none open. -/
theorem startsComment_concat_quote (hescaped : escapesNext cs = false)
    (hlength : (activeQuotes cs).length = 1) : StartsComment (cs ++ ['"']) := by
  constructor
  · rw [escapesNext_concat, hescaped]
    rfl
  · rw [leavesOpen_concat, hescaped, leavesOpen, hlength]
    rfl

/-- Behind an opening quote there is no other active one if nowhere on the way a comment could
start. -/
theorem length_activeQuotes_eq_one (hopens : cs.head? = some '"')
    (hinner : ∀ part, part <+: cs → part ≠ [] → ¬StartsComment part) :
    (activeQuotes cs).length = 1 := by
  induction cs using List.reverseRecOn with
  | nil => cases hopens
  | append_singleton cs c ih =>
    by_cases hne : cs = []
    · subst hne
      obtain rfl : c = '"' := Option.some.inj hopens
      rfl
    · rw [List.head?_append_of_ne_nil _ hne] at hopens
      have hlength :=
        ih hopens fun part hpart => hinner part (hpart.trans (List.prefix_append cs [c]))
      by_cases hactive : c = '"' ∧ escapesNext cs = false
      · -- one more active quote would close the one before it
        obtain ⟨rfl, hescaped⟩ := hactive
        exact absurd (startsComment_concat_quote hescaped hlength)
          (hinner _ (List.prefix_refl _) (List.append_ne_nil_of_left_ne_nil hne _))
      · rw [activeQuotes_concat, if_neg hactive, List.append_nil, hlength]

/-! ### The cut -/

/-- At each point of a line, the cut goes on by what the text before tells of the next character. -/
theorem cutFrom_cons (before : List Char) (c : Char) (rest : List Char) :
    cutFrom (leavesOpen before) (escapesNext before) (c :: rest) =
      if c = '#' ∧ StartsComment before then []
      else c :: cutFrom (leavesOpen (before ++ [c])) (escapesNext (before ++ [c])) rest := by
  rw [leavesOpen_concat, escapesNext_concat]
  cases hescaped : escapesNext before with
  | true =>
    rw [if_neg fun h => by simp [StartsComment, hescaped] at h, cutFrom_escaped]
    simp
  | false =>
    by_cases hstart : c = '#' ∧ StartsComment before
    · obtain ⟨rfl, -, hopen⟩ := hstart
      rw [if_pos ⟨rfl, hescaped, hopen⟩, hopen]
      rfl
    · rw [if_neg hstart]
      by_cases hbackslash : c = '\\'
      · subst hbackslash
        simp [cutFrom_backslash]
      · by_cases hquote : c = '"'
        · subst hquote
          simp [cutFrom_quote]
        · have hsign : c = '#' → leavesOpen before = true := by
            rw [← Bool.not_eq_false]
            exact fun hsign hopen => hstart ⟨hsign, hescaped, hopen⟩
          rw [cutFrom_plain hbackslash hquote hsign, beq_eq_false_iff_ne.mpr hbackslash,
            beq_eq_false_iff_ne.mpr hquote]
          simp

/-- Where no comment starts, the cut passes over a text and goes on behind it. -/
theorem cutFrom_append
    (h : ∀ inner tail, kept = inner ++ '#' :: tail → ¬StartsComment (before ++ inner))
    (rest : List Char) :
    cutFrom (leavesOpen before) (escapesNext before) (kept ++ rest) =
      kept ++ cutFrom (leavesOpen (before ++ kept)) (escapesNext (before ++ kept)) rest := by
  induction kept generalizing before with
  | nil => rw [List.append_nil, List.nil_append, List.nil_append]
  | cons c kept ih =>
    have hfirst : ¬(c = '#' ∧ StartsComment before) := by
      rintro ⟨rfl, hstart⟩
      exact h [] kept rfl (by rwa [List.append_nil])
    have hrest : ∀ inner tail, kept = inner ++ '#' :: tail →
        ¬StartsComment (before ++ [c] ++ inner) := by
      intro inner tail hkept
      rw [List.append_assoc]
      exact h (c :: inner) tail (congrArg (c :: ·) hkept)
    rw [List.cons_append, cutFrom_cons, if_neg hfirst, ih hrest, List.append_assoc]
    rfl

/-- A text without comment signs is passed over. -/
theorem cutComment_append_of_not_mem (h : '#' ∉ kept) (rest : List Char) :
    cutComment (kept ++ rest) = kept ++ cutFrom (leavesOpen kept) (escapesNext kept) rest := by
  have hsigns : ∀ inner tail, kept = inner ++ '#' :: tail → ¬StartsComment ([] ++ inner) :=
    fun inner tail hkept => absurd (by simp [hkept]) h
  exact cutFrom_append hsigns rest

/-- What stands before the first comment sign is all that is kept if this sign starts a comment, and
else the sign is kept too. -/
theorem cutComment_append (h : '#' ∉ before) (rest : List Char) :
    (StartsComment before ∧ cutComment (before ++ '#' :: rest) = before) ∨
      ¬StartsComment before ∧
        ∃ more, cutComment (before ++ '#' :: rest) = before ++ '#' :: more := by
  rw [cutComment_append_of_not_mem h, cutFrom_cons]
  by_cases hstart : StartsComment before
  · rw [if_pos ⟨rfl, hstart⟩, List.append_nil]
    exact .inl ⟨hstart, rfl⟩
  · rw [if_neg fun hsign => hstart hsign.2]
    exact .inr ⟨hstart, _, rfl⟩

theorem cutComment_append_sign_iff (h : '#' ∉ before) :
    cutComment (before ++ ['#']) = before ↔ StartsComment before := by
  obtain ⟨hstart, hcut⟩ | ⟨hstart, more, hcut⟩ := cutComment_append h []
  · exact iff_of_true hcut hstart
  · refine iff_of_false (fun heq => ?_) hstart
    rw [hcut] at heq
    exact absurd (List.append_right_eq_self.mp heq) (List.cons_ne_nil '#' more)

/-! ### What is kept -/

/-- An active comment sign stands at a place of a line: it is not escaped, and the active quotes
before it are even in number. -/
def IsActiveSign (cs : List Char) (i : Nat) : Prop :=
  cs[i]? = some '#' ∧ StartsComment (cs.take i)

instance (cs : List Char) (i : Nat) : Decidable (IsActiveSign cs i) :=
  inferInstanceAs (Decidable (_ ∧ _))

variable {i : Nat}

/-- Up to a place with no active sign before it, the cut passes over a line. -/
theorem cutComment_eq_take_append (h : ∀ j < i, ¬IsActiveSign cs j) :
    cutComment cs = cs.take i ++
      cutFrom (leavesOpen (cs.take i)) (escapesNext (cs.take i)) (cs.drop i) := by
  have hsigns : ∀ inner tail, cs.take i = inner ++ '#' :: tail → ¬StartsComment ([] ++ inner) := by
    intro inner tail htake hstart
    have hlt : inner.length < i := by
      have hle : (cs.take i).length ≤ i := List.length_take_le i cs
      rw [htake, List.length_append, List.length_cons] at hle
      omega
    have hsign : cs[inner.length]? = some '#' := by
      rw [← List.getElem?_take_of_lt hlt, htake, List.getElem?_append_right (Nat.le_refl _),
        Nat.sub_self, List.getElem?_cons_zero]
    have hbefore : cs.take inner.length = inner := by
      rw [← Nat.min_eq_left hlt.le, ← List.take_take, htake, List.take_left]
    exact h inner.length hlt ⟨hsign, by rwa [hbefore]⟩
  calc
    cutComment cs = cutComment (cs.take i ++ cs.drop i) := by rw [List.take_append_drop]
    _ = _ := cutFrom_append hsigns (cs.drop i)

/-- A line is kept up to its first active sign. -/
theorem IsActiveSign.cutComment_eq (h : IsActiveSign cs i) (hfirst : ∀ j < i, ¬IsActiveSign cs j) :
    cutComment cs = cs.take i := by
  obtain ⟨hlt, hsign⟩ := List.getElem?_eq_some_iff.mp h.1
  rw [cutComment_eq_take_append hfirst, List.drop_eq_getElem_cons hlt, hsign, cutFrom_cons,
    if_pos ⟨rfl, h.2⟩, List.append_nil]

/-- A line without active signs is kept. -/
theorem cutComment_eq_self_of_forall (h : ∀ j, ¬IsActiveSign cs j) : cutComment cs = cs := by
  have hcut := cutComment_eq_take_append (i := cs.length) fun j _ => h j
  rwa [List.take_length, List.drop_length, cutFrom, List.append_nil] at hcut

theorem cutComment_eq_self (h : '#' ∉ cs) : cutComment cs = cs :=
  cutComment_eq_self_of_forall fun _ hsign => h (List.mem_of_getElem? hsign.1)

/-- **What the cut of a comment keeps** of a line is the longest beginning of it that holds no
active comment sign. -/
theorem cutComment_longest (cs : List Char) :
    cutComment cs <+: cs ∧ (∀ i < (cutComment cs).length, ¬IsActiveSign cs i) ∧
      ∀ part, part <+: cs → (∀ i < part.length, ¬IsActiveSign cs i) →
        part.length ≤ (cutComment cs).length := by
  by_cases hactive : ∃ i, IsActiveSign cs i
  · -- the first active sign ends what is kept, and each longer beginning holds it
    have hfirst : ∀ j < Nat.find hactive, ¬IsActiveSign cs j := fun j hj => Nat.find_min hactive hj
    have hsign : IsActiveSign cs (Nat.find hactive) := Nat.find_spec hactive
    have hlt : Nat.find hactive < cs.length := (List.getElem?_eq_some_iff.mp hsign.1).1
    rw [hsign.cutComment_eq hfirst, List.length_take_of_le hlt.le]
    refine ⟨List.take_prefix _ cs, hfirst, fun part _ hpart => ?_⟩
    exact Nat.le_of_not_lt fun hlong => hpart _ hlong hsign
  · have hnone : ∀ j, ¬IsActiveSign cs j := not_exists.mp hactive
    rw [cutComment_eq_self_of_forall hnone]
    exact ⟨List.prefix_refl cs, fun j _ => hnone j, fun part hpart _ => hpart.length_le⟩

/-- An escaped quote opens nothing, and a backslash that is escaped itself does not escape. -/
theorem cutComment_longest_escaped :
    ['\\', '"', '\\', '\\'] <+: ['\\', '"', '\\', '\\', '#', '"', '#'] ∧
      (∀ i < 4, ¬IsActiveSign ['\\', '"', '\\', '\\', '#', '"', '#'] i) ∧
      4 ≤ (cutComment ['\\', '"', '\\', '\\', '#', '"', '#']).length :=
  ⟨by decide, by decide,
    (cutComment_longest _).2.2 ['\\', '"', '\\', '\\'] (by decide) (by decide)⟩

end NetPlan.Sheet
