import NetPlan.Listing.Basic
import NetPlan.Script.Reading

/-!
# Reading listings

A listing is read as the script that it is. A **plain** listing, in which no name has anything that
could come out as something else, is a script without flaws and without doubts, so it need not be
written out for that.
-/

namespace NetPlan.Listing

/-- The most names that may lead to what a plain listing calls. -/
def maxPlainNames : Nat := 64

/-- The characters that can end a literal or its line, or start an escape, or be turned down. -/
def strangeChars : List Char := ['"', '\\', '\n', '\r', '\x00']

/-- Whether a name has nothing that could come out as something else: it is a word that is not
reserved, or can stand in quotes. -/
def isPlainName (name : String) : Bool :=
  let cs := name.toList
  if Text.isWord cs then !Script.reservedWords.contains name
  else cs.all (!strangeChars.contains ·) && (countDigits? cs).isNone

/-- Whether all names in a listing are such, and few enough lead to each callee. -/
def isPlain (l : Listing) : Bool :=
  l.callees.all fun c => c.names.length ≤ maxPlainNames && c.names.all isPlainName

/-- The text of a listing that is not plain. -/
def strangeText? (l : Listing) : Except NamingFlaw (Option (List Char)) :=
  if l.isPlain then .ok none else l.text.map some

end NetPlan.Listing
