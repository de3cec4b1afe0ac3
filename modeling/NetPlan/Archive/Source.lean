import NetPlan.Archive.Word
import NetPlan.Fault

/-!
# Sources

What an archive is read from: bytes that are handed out in order. Sources differ in whether they
know how many bytes are left, and in how much one request gets. A reader asks for an exact number of
bytes. A request that gets fewer still takes them, and the archive counts as invalid.
-/

namespace NetPlan.Archive

/-- How much one request gets. -/
inductive Delivery where
  /-- All that is asked for, as far as it is there. -/
  | full
  /-- At most a given number of bytes. -/
  | atMost (limit : Nat)
  /-- Nothing, not even the empty string. -/
  | nothing
deriving DecidableEq, Repr

/-- Bytes that are still to come, and how they come. -/
structure Source where
  rest : Bytes
  /-- Whether the source knows how many bytes are left. -/
  sized : Bool := true
  delivery : Delivery := .full
deriving DecidableEq, Repr

/-- A computation that takes bytes from a source. A fault leaves the source where it was reached. -/
abbrev Reader := EStateM Fault Source

/-- What a request for `n` bytes gets; `none` if the source refuses to answer. -/
def Source.answer? (s : Source) (n : Nat) : Option Bytes :=
  match s.delivery with
  | .full => some (s.rest.take n)
  | .atMost limit => some (s.rest.take (min n limit))
  | .nothing => none

/-- Whether a source is known to hold fewer than `n` bytes. -/
def Source.lacks (s : Source) (n : Nat) : Bool :=
  s.sized && s.rest.length < n

/-- The next `n` bytes. -/
def takeBytes (n : Nat) : Reader Bytes := fun s =>
  match s.answer? n with
  | none => .error .invalidArchive s
  | some got =>
    let s' := { s with rest := s.rest.drop got.length }
    if got.length = n then .ok got s' else .error .invalidArchive s'

end NetPlan.Archive
