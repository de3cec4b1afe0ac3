import NetPlan.Declaration.Basic
import NetPlan.Declaration.Dimensions
import NetPlan.Proofs.Fault
import NetPlan.Proofs.Layer.Sound

/-!
# What a declaration gives

A declaration is read by four checks in a row: link, designation, kind and tag
(`Declaration.read_eq_ok_iff`). The link gives the two nodes of `Link.join`, if its numbers are
short enough and the nodes are within range (`Link.read_eq_ok_iff`), and the tag gives the primary
layer and the registry behind it, in one of three ways (`Declaration.resolve_eq_ok_iff`). A shape
that can be read has dimensions within range.
-/

namespace NetPlan

/-! ### Tags -/

namespace Registry

theorem mem_of_index? {r : Registry} {tag : String} {index : Int}
    (h : r.index? tag = some index) : (tag, index) ∈ r := by
  obtain ⟨⟨tag', index'⟩, hfind, rfl⟩ := Option.map_eq_some_iff.mp h
  have htag : tag' = tag := by simpa using List.find?_some hfind
  exact htag ▸ List.mem_of_find?_eq_some hfind

/-- A tag has no index if the registry does not have it. -/
theorem index?_eq_none_iff {r : Registry} {tag : String} :
    r.index? tag = none ↔ tag ∉ r.map (·.1) := by
  simp only [index?, Option.map_eq_none_iff, List.find?_eq_none, List.mem_map, not_exists, not_and,
    decide_eq_true_eq]

end Registry

/-! ### Runs of digits -/

/-- A run of digits is read as its value if it is not too long. -/
theorem readDigits_eq_ok_iff {digits : List Char} {n : Nat} :
    readDigits digits = .ok n ↔ digits.length ≤ maxDigits ∧ n = Text.digitRunValue digits := by
  unfold readDigits
  split
  · rename_i hlong
    simp [Nat.not_le.mpr hlong]
  · rename_i hshort
    simp [Nat.not_lt.mp hshort, eq_comm]

theorem readDigits_bind {α : Type} (run : List Char) (k : Nat → Except Fault α) :
    readDigits run >>= k =
      if maxDigits < run.length then .error (.longNumeral run.length)
      else k (Text.digitRunValue run) := by
  unfold readDigits
  split <;> rfl

/-- The number of digits of the first run that has more of them than are read. -/
def longRun? (runs : List (List Char)) : Option Nat :=
  (runs.find? (maxDigits < ·.length)).map (·.length)

@[simp]
theorem longRun?_nil : longRun? [] = none := rfl

theorem longRun?_cons (run : List Char) (runs : List (List Char)) :
    longRun? (run :: runs) = if maxDigits < run.length then some run.length else longRun? runs := by
  by_cases hlong : maxDigits < run.length <;> simp [longRun?, hlong]

/-! ### Links -/

namespace Link

open Text

/-- The runs of digits of a link. -/
def runs : Link → List (List Char)
  | between source target => [source, target]
  | onward distance => [distance]

/-- The nodes that a link joins, where `top` is the node that the previous layer wrote. -/
def join (top : Nat) : Link → Nat × Nat
  | between source target => (digitRunValue source, digitRunValue target)
  | onward distance => (top, top + digitRunValue distance)

/-- The nodes that a link joins from any node that the previous layer wrote, be it negative. -/
def reach (top : Int) : Link → Int × Int
  | between source target => (digitRunValue source, digitRunValue target)
  | onward distance => (top, top + digitRunValue distance)

/-- No number of the link has more digits than are read. -/
def IsShort (link : Link) : Prop :=
  ∀ run ∈ link.runs, run.length ≤ maxDigits

instance (link : Link) : Decidable link.IsShort :=
  inferInstanceAs (Decidable (∀ run ∈ link.runs, _))

variable {link : Link} {key : String}

theorem reach_natCast (top : Nat) (link : Link) :
    link.reach top = (((link.join top).1 : Int), ((link.join top).2 : Int)) := by
  cases link with
  | between source target => rfl
  | onward distance => simp [reach, join]

theorem longRun?_runs_eq_none_iff : longRun? link.runs = none ↔ link.IsShort := by
  simp [longRun?, IsShort]

/-- A link is followed if none of its runs is too long. -/
theorem ends_eq (top : Int) (link : Link) :
    link.ends top =
      match longRun? link.runs with
      | some n => .error (.longNumeral n)
      | none => .ok (link.reach top) := by
  cases link with
  | between source target =>
    simp only [ends, runs, readDigits_bind, longRun?_cons]
    split
    · rfl
    · split <;> rfl
  | onward distance =>
    simp only [ends, runs, readDigits_bind, longRun?_cons]
    split <;> rfl

/-- A short link is followed to the nodes that it reaches, and no other link is followed. -/
theorem ends_eq_ok_iff {top : Int} {nodes : Int × Int} :
    link.ends top = .ok nodes ↔ link.IsShort ∧ nodes = link.reach top := by
  rw [ends_eq, ← longRun?_runs_eq_none_iff]
  cases longRun? link.runs <;> simp [eq_comm]

/-- A key is read if it writes a short link, and the nodes of that link are within range. -/
theorem read_eq_ok_iff_reach {top : Int} {nodes : Int × Int} :
    read key top = .ok nodes ↔
      ∃ link, parse? key = some link ∧ link.IsShort ∧ nodes = link.reach top ∧
        nodes.1 ≤ maxNodeIndex ∧ nodes.2 ≤ maxNodeIndex := by
  unfold read
  cases hparse : parse? key with
  | none => simp
  | some link =>
    simp only [bind_eq_ok_iff, ends_eq_ok_iff, Option.some.injEq, exists_eq_left']
    constructor
    · rintro ⟨nodes', ⟨hshort, rfl⟩, h⟩
      split at h
      · cases h
      · obtain rfl := Except.ok.inj h
        exact ⟨hshort, rfl, by omega⟩
    · rintro ⟨hshort, rfl, hrange⟩
      refine ⟨_, ⟨hshort, rfl⟩, if_neg ?_⟩
      omega

/-- Behind a node that is not negative, a key is read as the nodes that its link joins. -/
theorem read_eq_ok_iff {top : Nat} {nodes : Int × Int} :
    read key top = .ok nodes ↔
      ∃ link, parse? key = some link ∧ link.IsShort ∧
        nodes = (((link.join top).1 : Int), ((link.join top).2 : Int)) ∧
        nodes.1 ≤ maxNodeIndex ∧ nodes.2 ≤ maxNodeIndex := by
  simp only [read_eq_ok_iff_reach, reach_natCast]

/-- From a node onward, a link leads to nodes within range. -/
theorem isNode_of_read {top a b : Int} (htop : 0 ≤ top) (h : read key top = .ok (a, b)) :
    IsNode a ∧ IsNode b := by
  obtain ⟨top, rfl⟩ := Int.eq_ofNat_of_zero_le htop
  obtain ⟨link, -, -, hnodes, ha, hb⟩ := read_eq_ok_iff.mp h
  obtain ⟨rfl, rfl⟩ := Prod.mk.inj hnodes
  exact ⟨⟨Int.natCast_nonneg _, ha⟩, Int.natCast_nonneg _, hb⟩

end Link

/-! ### Declarations -/

namespace Declaration

variable {kind : Kind} {tag : String} {index primary top : Int} {tags tags' : Registry}
  {e : Entry} {l : Layer}

/-- A tag is resolved in one of three ways: it is found, it is not given, or it is taken. -/
theorem resolve_eq_ok_iff :
    resolve kind tag index tags = .ok (primary, tags') ↔
      (kind.isShared = true ∧ tag ≠ "" ∧ tags.index? tag = some primary ∧ tags' = tags) ∨
      (kind.isShared = false ∧ tag = "" ∧ primary = -1 ∧ tags' = tags) ∨
      (kind.isShared = false ∧ tag ≠ "" ∧ tags.index? tag = none ∧ primary = -1 ∧
        tags' = tags.add tag index) := by
  unfold resolve
  by_cases hshared : kind.isShared = true
  · by_cases htag : tag = ""
    · simp [hshared, htag]
    · cases hindex : tags.index? tag <;> simp [hshared, htag, eq_comm]
  · have hplain : kind.isShared = false := by simpa using hshared
    by_cases htag : tag = ""
    · simp [hplain, htag, eq_comm]
    · cases hindex : tags.index? tag <;> simp [hplain, htag, eq_comm]

/-- A declaration is read if each of its checks succeeds. -/
theorem read_eq_ok_iff :
    read e top index tags = .ok (l, tags') ↔
      ∃ a b d kind primary, Link.read e.key top = .ok (a, b) ∧
        Designation.read e.value = .ok d ∧ Kind.named d.kindName = .ok kind ∧
        resolve kind d.tag index tags = .ok (primary, tags') ∧
        l = { kind, inputs := [a], outputs := [b], primary } := by
  simp only [read, bind_eq_ok_iff, pure_eq_ok_iff, Prod.mk.injEq]
  constructor
  · rintro ⟨⟨a, b⟩, hlink, d, hd, kind, hkind, ⟨primary, tags''⟩, hresolve, rfl, rfl⟩
    exact ⟨a, b, d, kind, primary, hlink, hd, hkind, hresolve, rfl⟩
  · rintro ⟨a, b, d, kind, primary, hlink, hd, hkind, hresolve, rfl⟩
    exact ⟨(a, b), hlink, d, hd, kind, hkind, (primary, tags'), hresolve, rfl, rfl⟩

/-- From a node onward, a declaration joins one node to another. -/
theorem joinsNodes_of_read (htop : 0 ≤ top) (h : read e top index tags = .ok (l, tags')) :
    l.JoinsNodes := by
  obtain ⟨a, b, d, kind, primary, hlink, -, -, -, rfl⟩ := read_eq_ok_iff.mp h
  obtain ⟨ha, hb⟩ := Link.isNode_of_read htop hlink
  exact ⟨a, b, rfl, rfl, ha, hb⟩

/-- A shared layer points at the layer that carries its tag; any other layer at none, and it may
take a tag that nobody carries. -/
theorem tag_cases_of_read (h : read e top index tags = .ok (l, tags')) :
    (l.isShared = true ∧ tags' = tags ∧ ∃ tag, (tag, l.primary) ∈ tags) ∨
      (l.isShared = false ∧ l.primary = -1 ∧
        (tags' = tags ∨ ∃ tag, tag ∉ tags.map (·.1) ∧ tags' = tags ++ [(tag, index)])) := by
  obtain ⟨a, b, d, kind, primary, -, -, -, hresolve, rfl⟩ := read_eq_ok_iff.mp h
  obtain ⟨hs, -, hindex, rfl⟩ | ⟨hs, -, rfl, rfl⟩ | ⟨hs, -, hindex, rfl, rfl⟩ :=
    resolve_eq_ok_iff.mp hresolve
  · exact .inl ⟨hs, rfl, d.tag, Registry.mem_of_index? hindex⟩
  · exact .inr ⟨hs, rfl, .inl rfl⟩
  · exact .inr ⟨hs, rfl, .inr ⟨d.tag, Registry.index?_eq_none_iff.mp hindex, rfl⟩⟩

end Declaration

/-! ### Shapes -/

/-- Whether a number can be a dimension. -/
def IsDimension (n : Int) : Prop :=
  0 ≤ n ∧ n ≤ maxDimension

instance (n : Int) : Decidable (IsDimension n) :=
  inferInstanceAs (Decidable (_ ∧ _))

/-- All dimensions of a shape are within range. -/
structure Shape.InRange (s : Shape) : Prop where
  channels : IsDimension s.channels
  height : IsDimension s.height
  width : IsDimension s.width

/-- A shape that is read has dimensions within range. -/
theorem Shape.inRange_of_read {value : String} {s : Shape} (h : Shape.read value = .ok s) :
    s.InRange := by
  unfold Shape.read at h
  split at h
  · cases h
  · obtain ⟨c, -, h⟩ := bind_eq_ok_iff.mp h
    obtain ⟨height, -, h⟩ := bind_eq_ok_iff.mp h
    obtain ⟨w, -, h⟩ := bind_eq_ok_iff.mp h
    split at h
    · cases h
    · obtain rfl := Except.ok.inj h
      have hle : (c : Int) ≤ maxDimension ∧ (height : Int) ≤ maxDimension ∧
          (w : Int) ≤ maxDimension := by omega
      exact ⟨⟨Int.natCast_nonneg _, hle.1⟩, ⟨Int.natCast_nonneg _, hle.2.1⟩,
        ⟨Int.natCast_nonneg _, hle.2.2⟩⟩

end NetPlan
