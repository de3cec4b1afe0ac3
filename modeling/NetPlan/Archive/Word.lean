/-!
# Words

Numbers in an archive are little-endian words: signed ones of 32 bits, unsigned ones of 32 bits and
unsigned lengths of 64 bits. A number that does not fit its word has no bytes.
-/

namespace NetPlan.Archive

/-- A string of bytes. -/
abbrev Bytes := List UInt8

/-- The lowest `width` bytes of a number, the lowest one first. -/
def littleEndian : (width : Nat) → Nat → Bytes
  | 0, _ => []
  | width + 1, n => UInt8.ofNat n :: littleEndian width (n / 256)

/-- The number that bytes write, the lowest one first. -/
def natOfBytes : Bytes → Nat
  | [] => 0
  | b :: rest => b.toNat + 256 * natOfBytes rest

/-- How many words of 32 bits there are. -/
def wordCount : Nat := 4294967296

/-- The number that a word of four bytes writes in two's complement. -/
def intOfWord (bs : Bytes) : Int :=
  Int.bmod (natOfBytes bs) wordCount

/-- Whether a number fits a signed word of 32 bits. -/
def FitsSigned (n : Int) : Prop :=
  -2147483648 ≤ n ∧ n < 2147483648

instance (n : Int) : Decidable (FitsSigned n) :=
  inferInstanceAs (Decidable (_ ∧ _))

/-- Whether a number fits an unsigned word of 32 bits. -/
def FitsUnsigned (n : Int) : Prop :=
  0 ≤ n ∧ n < 4294967296

instance (n : Int) : Decidable (FitsUnsigned n) :=
  inferInstanceAs (Decidable (_ ∧ _))

/-- The bytes of a signed word. -/
def signedWord? (n : Int) : Option Bytes :=
  if FitsSigned n then some (littleEndian 4 (n % wordCount).toNat) else none

/-- The bytes of an unsigned word. -/
def unsignedWord? (n : Int) : Option Bytes :=
  if FitsUnsigned n then some (littleEndian 4 n.toNat) else none

/-- The bytes of a length. -/
def lengthWord (n : Nat) : Bytes :=
  littleEndian 8 n

/-- The bytes of a sequence of signed words. -/
def signedWords? (ns : List Int) : Option Bytes :=
  (ns.mapM signedWord?).map List.flatten

/-- The signed words that bytes are made of, four bytes a word. -/
def intsOfBytes : Bytes → List Int
  | a :: b :: c :: d :: rest => intOfWord [a, b, c, d] :: intsOfBytes rest
  | _ => []

end NetPlan.Archive
