import NetPlan.Fault
import NetPlan.Text.Blank

/-!
# Designations

The value of a declaration names a kind and may add a tag: `kind` or `kind:tag`. The name ends at
the first colon, so a tag may hold colons and a name may not; neither holds white space.
-/

namespace NetPlan

/-- The name of a kind with a tag, which is empty if there is none. -/
structure Designation where
  kindName : String
  tag : String := ""
deriving DecidableEq, Repr

namespace Designation

/-- Whether a character may stand in the name of a kind. -/
def isNameChar (c : Char) : Bool :=
  c != ':' && !Text.isBlank c

/-- Whether a text may be a tag: it is not empty and has no white space. -/
def isTag (cs : List Char) : Bool :=
  !cs.isEmpty && cs.all (!Text.isBlank ·)

/-- The designation that a text without white space at its ends writes. -/
def ofTrimmed? (cs : List Char) : Option Designation :=
  let name := cs.takeWhile isNameChar
  if name.isEmpty then none
  else
    match cs.dropWhile isNameChar with
    | [] => some { kindName := String.ofList name }
    | ':' :: tag =>
      if isTag tag then some { kindName := String.ofList name, tag := String.ofList tag } else none
    | _ => none

/-- The designation that a value writes; white space around it does not count. -/
def read (value : String) : Except Fault Designation :=
  match ofTrimmed? (Text.trim value.toList) with
  | some d => .ok d
  | none => .error (.malformedDesignation value)

end Designation

end NetPlan
