import NetPlan.Proofs.Declaration.Range
import NetPlan.Proofs.Declaration.Writing

/-!
# Chains of links

The links of declarations form a chain: one that leads onward starts at the node where the link
before it ends. `Link.chain` gives the nodes of all of them in plain arithmetic, with neither a
limit on digits nor a bound on nodes.

Two nodes within range can also be written down as a key of their own, in plain decimal
(`Link.explicitKey`), which is read as these nodes wherever it stands (`Link.read_explicitKey`).
-/

namespace NetPlan

open Text

namespace Link

/-- The nodes that links join, one behind the other. -/
def chain (top : Nat) : List Link → List (Nat × Nat)
  | [] => []
  | link :: links => link.join top :: chain (link.join top).2 links

variable {top a b : Nat}

/-! ### Nodes written in plain decimal -/

/-- The key that joins two nodes and gives both by their number. -/
def explicitKey (a b : Nat) : String :=
  layerLead ++ toString a ++ "->" ++ toString b ++ "]"

/-- A text is cut at its first arrow. -/
theorem splitArrow?_append {source : List Char} (h : '-' ∉ source) (target : List Char) :
    splitArrow? (source ++ '-' :: '>' :: target) = some (source, target) := by
  induction source with
  | nil => rfl
  | cons c source ih =>
    obtain ⟨hc, hsource⟩ := not_or.mp (mt List.mem_cons.mpr h)
    rw [List.cons_append, splitArrow?, ih hsource]
    · rfl
    · rintro rest rfl
      exact absurd rfl hc

/-- What stands between the lead of a declaration and its bracket is found there. -/
theorem inner?_append {inner : List Char} :
    inner? (layerLead.toList ++ (inner ++ [']'])) = some inner := by
  have hprefix : layerLead.toList.isPrefixOf? (layerLead.toList ++ (inner ++ [']'])) =
      some (inner ++ [']']) := List.isPrefixOf?_eq_some_iff_append_eq.mpr rfl
  have hlast : dropFinalNewline (inner ++ [']']) = inner ++ [']'] := by
    simp [dropFinalNewline]
  simp [inner?, hprefix, hlast]

theorem paddedDigits?_toDigits (n : Nat) :
    paddedDigits? (Nat.toDigits 10 n) = some (Nat.toDigits 10 n) := by
  have htrim : trim (Nat.toDigits 10 n) = Nat.toDigits 10 n :=
    trim_eq_self fun c hc => isBlank_of_isDigit (isDigit_of_mem_toDigits hc)
  simp only [paddedDigits?, htrim, isDigitRun_toDigits, if_true]

theorem toList_explicitKey (a b : Nat) :
    (explicitKey a b).toList =
      layerLead.toList ++ (Nat.toDigits 10 a ++ '-' :: '>' :: Nat.toDigits 10 b ++ [']']) := by
  simp [explicitKey]

/-- A key in plain decimal writes the link between its two numbers. -/
theorem parse?_explicitKey (a b : Nat) :
    parse? (explicitKey a b) = some (between (Nat.toDigits 10 a) (Nat.toDigits 10 b)) := by
  have hdash : '-' ∉ Nat.toDigits 10 a := fun h =>
    absurd (isDigit_of_mem_toDigits h) (by decide)
  rw [parse?, toList_explicitKey, inner?_append, Option.bind_some, ofInner?,
    splitArrow?_append hdash]
  simp only [paddedDigits?_toDigits]
  rfl

theorem runsOf_explicitKey (a b : Nat) :
    runsOf (explicitKey a b) = [Nat.toDigits 10 a, Nat.toDigits 10 b] := by
  rw [runsOf, parse?_explicitKey, Option.map_some, Option.getD_some, runs]

/-- However many digits the second node has. -/
theorem exceeds_explicitKey (a : Nat) {top : Int} (h : maxNodeIndex < b) :
    Exceeds (explicitKey a b) top := by
  refine ⟨_, parse?_explicitKey a b, .inr ?_⟩
  simpa only [reach, digitRunValue_toDigits] using h

/-- A key in plain decimal is that of a layer. -/
theorem isLayerKey_explicitKey (a b : Nat) : isLayerKey (explicitKey a b) = true := by
  rw [isLayerKey, toList_explicitKey, List.isPrefixOf_iff_prefix]
  exact List.prefix_append ..

/-- A key that gives its nodes in plain decimal is read as these nodes, whatever stands before
it. -/
theorem read_explicitKey (ha : (a : Int) ≤ maxNodeIndex) (hb : (b : Int) ≤ maxNodeIndex) :
    read (explicitKey a b) top = .ok ((a : Int), (b : Int)) := by
  have hrun {n : Nat} (hn : (n : Int) ≤ maxNodeIndex) :
      (Nat.toDigits 10 n).length ≤ maxDigits ∧ n = digitRunValue (Nat.toDigits 10 n) := by
    simp only [maxNodeIndex] at hn
    exact readDigits_eq_ok_iff.mp (readDigits_toDigits (by omega))
  refine read_eq_ok_iff.mpr ⟨_, parse?_explicitKey a b, ?_, ?_, ha, hb⟩
  · simp only [IsShort, runs, List.forall_mem_cons, List.not_mem_nil, false_implies, implies_true,
      and_true]
    exact ⟨(hrun ha).1, (hrun hb).1⟩
  · simp only [join, digitRunValue_toDigits]

end Link

end NetPlan
