import Mathlib.Algebra.Group.Nat.Defs
import NetPlan.Archive.Word

/-!
# Words and the numbers they write

Each kind of word has a fixed width, and reading a word gives back the number that was written. The
little-endian digits of a number below `256 ^ width` write that number (`natOfBytes_littleEndian`);
signed words are those of the number modulo `wordCount`.

The other way round, any bytes are the digits of the number that they write
(`littleEndian_natOfBytes`), so a number that was read from a word fits it and is written as the
same word.
-/

namespace NetPlan.Archive

/-! ### Bytes of a number -/

@[simp]
theorem length_littleEndian (width n : Nat) : (littleEndian width n).length = width := by
  induction width generalizing n with
  | zero => rfl
  | succ width ih => simp [littleEndian, ih]

/-- A number below `256 ^ width` is read back from its digits. -/
theorem natOfBytes_littleEndian {width n : Nat} (h : n < 256 ^ width) :
    natOfBytes (littleEndian width n) = n := by
  induction width generalizing n with
  | zero =>
    obtain rfl : n = 0 := by simpa using h
    rfl
  | succ width ih =>
    have hdiv : n / 256 < 256 ^ width :=
      (Nat.div_lt_iff_lt_mul (by decide)).mpr (by rwa [Nat.pow_succ] at h)
    have hbyte : (UInt8.ofNat n).toNat = n % 256 := by simp
    rw [littleEndian, natOfBytes, ih hdiv, hbyte]
    exact Nat.mod_add_div n 256

/-- Bytes write a number below `256 ^ n` if there are `n` of them. -/
theorem natOfBytes_lt (bs : Bytes) : natOfBytes bs < 256 ^ bs.length := by
  induction bs with
  | nil => decide
  | cons b bs ih =>
    have hb := b.toNat_lt
    rw [natOfBytes, List.length_cons, Nat.pow_succ]
    omega

/-- Bytes are the digits of the number that they write. -/
theorem littleEndian_natOfBytes (bs : Bytes) : littleEndian bs.length (natOfBytes bs) = bs := by
  induction bs with
  | nil => rfl
  | cons b bs ih =>
    have hb := b.toNat_lt
    have hlow : UInt8.ofNat (b.toNat + 256 * natOfBytes bs) = b := by
      apply UInt8.toNat.inj
      simp only [UInt8.toNat_ofNat']
      omega
    have hhigh : (b.toNat + 256 * natOfBytes bs) / 256 = natOfBytes bs := by omega
    rw [List.length_cons, natOfBytes, littleEndian, hlow, hhigh, ih]

/-- A length of 64 bits is read back from its word. -/
theorem natOfBytes_lengthWord {n : Nat} (h : n < 256 ^ 8) : natOfBytes (lengthWord n) = n :=
  natOfBytes_littleEndian h

@[simp]
theorem length_lengthWord (n : Nat) : (lengthWord n).length = 8 :=
  length_littleEndian 8 n

/-- Any eight bytes are the word of a length. -/
theorem lengthWord_natOfBytes {bs : Bytes} (h : bs.length = 8) :
    lengthWord (natOfBytes bs) = bs := by
  rw [lengthWord, ← h, littleEndian_natOfBytes]

/-! ### Single words -/

/-- A number that fits a signed word is written by its digits modulo `wordCount`. -/
theorem signedWord?_eq_some_iff {n : Int} {bs : Bytes} :
    signedWord? n = some bs ↔ FitsSigned n ∧ bs = littleEndian 4 (n % wordCount).toNat := by
  unfold signedWord?
  split <;> simp_all [eq_comm]

/-- A number that fits an unsigned word is written by its digits. -/
theorem unsignedWord?_eq_some_iff {n : Int} {bs : Bytes} :
    unsignedWord? n = some bs ↔ FitsUnsigned n ∧ bs = littleEndian 4 n.toNat := by
  unfold unsignedWord?
  split <;> simp_all [eq_comm]

theorem signedWord?_isSome_iff {n : Int} : (signedWord? n).isSome ↔ FitsSigned n := by
  simp [Option.isSome_iff_exists, signedWord?_eq_some_iff]

theorem length_signedWord? {n : Int} {bs : Bytes} (h : signedWord? n = some bs) :
    bs.length = 4 := by
  obtain ⟨-, rfl⟩ := signedWord?_eq_some_iff.mp h
  exact length_littleEndian _ _

theorem length_unsignedWord? {n : Int} {bs : Bytes} (h : unsignedWord? n = some bs) :
    bs.length = 4 := by
  obtain ⟨-, rfl⟩ := unsignedWord?_eq_some_iff.mp h
  exact length_littleEndian _ _

/-- A number is read back from its signed word. -/
theorem intOfWord_of_signedWord? {n : Int} {bs : Bytes} (h : signedWord? n = some bs) :
    intOfWord bs = n := by
  obtain ⟨⟨hlow, hhigh⟩, rfl⟩ := signedWord?_eq_some_iff.mp h
  have hrange : (n % wordCount).toNat < 256 ^ 4 := by
    simp only [wordCount]
    omega
  rw [intOfWord, natOfBytes_littleEndian hrange, Int.bmod_def]
  simp only [wordCount]
  omega

/-- A number is read back from its unsigned word. -/
theorem natOfBytes_of_unsignedWord? {n : Int} {bs : Bytes} (h : unsignedWord? n = some bs) :
    (natOfBytes bs : Int) = n := by
  obtain ⟨⟨hlow, hhigh⟩, rfl⟩ := unsignedWord?_eq_some_iff.mp h
  rw [natOfBytes_littleEndian (by omega)]
  omega

/-- What a signed word writes fits a signed word. -/
theorem fitsSigned_intOfWord (bs : Bytes) : FitsSigned (intOfWord bs) := by
  have hlow := Int.le_bmod (x := natOfBytes bs) (m := wordCount) (by decide)
  have hhigh := Int.bmod_lt (x := natOfBytes bs) (m := wordCount) (by decide)
  simp only [wordCount] at hlow hhigh
  refine ⟨?_, ?_⟩ <;> simp only [intOfWord, wordCount] <;> omega

theorem natOfBytes_lt_wordCount {bs : Bytes} (h : bs.length = 4) : natOfBytes bs < wordCount := by
  have hlt := natOfBytes_lt bs
  rwa [h] at hlt

/-- Any four bytes are the signed word of a number. -/
theorem signedWord?_intOfWord {bs : Bytes} (h : bs.length = 4) :
    signedWord? (intOfWord bs) = some bs := by
  refine signedWord?_eq_some_iff.mpr ⟨fitsSigned_intOfWord bs, ?_⟩
  have hlt := natOfBytes_lt_wordCount h
  have hmod : intOfWord bs % wordCount = natOfBytes bs := by
    rw [intOfWord, Int.bmod_emod]
    exact Int.emod_eq_of_lt (Int.natCast_nonneg _) (Int.ofNat_lt.mpr hlt)
  rw [hmod, Int.toNat_natCast, ← h, littleEndian_natOfBytes]

/-- Any four bytes are the unsigned word of a number. -/
theorem unsignedWord?_natOfBytes {bs : Bytes} (h : bs.length = 4) :
    unsignedWord? (natOfBytes bs) = some bs := by
  have hlt := natOfBytes_lt_wordCount h
  simp only [wordCount] at hlt
  refine unsignedWord?_eq_some_iff.mpr ⟨⟨Int.natCast_nonneg _, by omega⟩, ?_⟩
  rw [Int.toNat_natCast, ← h, littleEndian_natOfBytes]

/-! ### Sequences of words -/

@[simp]
theorem signedWords?_nil : signedWords? [] = some [] := rfl

/-- The words of several numbers stand one behind the other. -/
theorem signedWords?_cons_eq_some_iff {n : Int} {ns : List Int} {bs : Bytes} :
    signedWords? (n :: ns) = some bs ↔
      ∃ word rest, signedWord? n = some word ∧ signedWords? ns = some rest ∧ bs = word ++ rest := by
  simp only [signedWords?, List.mapM_cons, Option.map_eq_some_iff, Option.bind_eq_bind,
    Option.bind_eq_some_iff, Option.pure_def, Option.some.injEq]
  constructor
  · rintro ⟨-, ⟨word, hword, words, hwords, rfl⟩, rfl⟩
    exact ⟨word, words.flatten, hword, ⟨words, hwords, rfl⟩, by simp⟩
  · rintro ⟨word, -, hword, ⟨words, hwords, rfl⟩, rfl⟩
    exact ⟨word :: words, ⟨word, hword, words, hwords, rfl⟩, by simp⟩

/-- Several numbers have their words if each of them fits one. -/
theorem signedWords?_isSome_iff {ns : List Int} :
    (signedWords? ns).isSome ↔ ∀ n ∈ ns, FitsSigned n := by
  induction ns with
  | nil => simp
  | cons n ns ih =>
    rw [List.forall_mem_cons, ← signedWord?_isSome_iff, ← ih]
    simp only [Option.isSome_iff_exists, signedWords?_cons_eq_some_iff]
    constructor
    · rintro ⟨-, word, rest, hword, hrest, rfl⟩
      exact ⟨⟨word, hword⟩, rest, hrest⟩
    · rintro ⟨⟨word, hword⟩, rest, hrest⟩
      exact ⟨_, word, rest, hword, hrest, rfl⟩

theorem length_signedWords? {ns : List Int} {bs : Bytes} (h : signedWords? ns = some bs) :
    bs.length = 4 * ns.length := by
  induction ns generalizing bs with
  | nil =>
    obtain rfl := Option.some.inj h
    rfl
  | cons n ns ih =>
    obtain ⟨word, rest, hword, hrest, rfl⟩ := signedWords?_cons_eq_some_iff.mp h
    rw [List.length_append, length_signedWord? hword, ih hrest, List.length_cons]
    omega

theorem intsOfBytes_append {word : Bytes} (h : word.length = 4) (rest : Bytes) :
    intsOfBytes (word ++ rest) = intOfWord word :: intsOfBytes rest := by
  obtain ⟨a, b, c, d, rfl⟩ : ∃ a b c d, word = [a, b, c, d] := by
    match word, h with
    | [a, b, c, d], _ => exact ⟨a, b, c, d, rfl⟩
  rfl

/-- Numbers are read back from their words. -/
theorem intsOfBytes_of_signedWords? {ns : List Int} {bs : Bytes} (h : signedWords? ns = some bs) :
    intsOfBytes bs = ns := by
  induction ns generalizing bs with
  | nil =>
    obtain rfl := Option.some.inj h
    rfl
  | cons n ns ih =>
    obtain ⟨word, rest, hword, hrest, rfl⟩ := signedWords?_cons_eq_some_iff.mp h
    rw [intsOfBytes_append (length_signedWord? hword), intOfWord_of_signedWord? hword, ih hrest]

/-- Whole words are written back as they were read. -/
theorem signedWords?_intsOfBytes {count : Nat} {bs : Bytes} (h : bs.length = 4 * count) :
    signedWords? (intsOfBytes bs) = some bs := by
  induction count generalizing bs with
  | zero =>
    obtain rfl := List.length_eq_zero_iff.mp h
    rfl
  | succ count ih =>
    have hword : (bs.take 4).length = 4 := by
      rw [List.length_take]
      omega
    have hrest : (bs.drop 4).length = 4 * count := by
      rw [List.length_drop]
      omega
    rw [← List.take_append_drop 4 bs, intsOfBytes_append hword, signedWords?_cons_eq_some_iff]
    exact ⟨_, _, signedWord?_intOfWord hword, ih hrest, rfl⟩

theorem length_intsOfBytes {count : Nat} {bs : Bytes} (h : bs.length = 4 * count) :
    (intsOfBytes bs).length = count := by
  have hlength := length_signedWords? (signedWords?_intsOfBytes h)
  omega

end NetPlan.Archive
