import NetPlan.Model.Trace
import NetPlan.Proofs.Model.Basic

/-!
# Calls of a trace

A trace only calls leaves that stand in the model, however deep (`Model.mem_modules_of_tracePart`),
and never the whole model itself (`Model.mem_parts_of_trace`). This follows the three ways in which
traces are put together: one after another, by steps, and by names that lead to a part.
-/

namespace NetPlan

namespace Trace

variable {c : Call} {id : Nat} {op : Operator}

/-- A call of two traces in a row is one of the first or of the second. -/
theorem mem_calls_andThen {t : Trace} {next : Unit → Trace} (h : c ∈ (t.andThen next).calls) :
    c ∈ t.calls ∨ c ∈ (next ()).calls := by
  unfold andThen at h
  split at h
  · exact .inl h
  · exact List.mem_append.mp h

theorem mem_calls_sequence {run : Step → Trace} {steps : List Step}
    (h : c ∈ (sequence run steps).calls) : ∃ step ∈ steps, c ∈ (run step).calls := by
  induction steps with
  | nil => cases h
  | cons step rest ih =>
    rcases mem_calls_andThen h with h | h
    · exact ⟨step, List.mem_cons_self, h⟩
    · obtain ⟨step', hstep', h⟩ := ih h
      exact ⟨step', List.mem_cons_of_mem _ hstep', h⟩

/-- A step calls a leaf only by running a part. -/
theorem leaf_mem_calls_ofStep {part : List String → Trace} {step : Step}
    (h : .leaf id op ∈ (ofStep part step).calls) : ∃ names, .leaf id op ∈ (part names).calls := by
  cases step with
  | call path => exact ⟨_, h⟩
  | function f => simp [ofStep, one] at h
  | method name => simp [ofStep, one] at h
  | branch => simp [ofStep, halted] at h
  | fail text => simp [ofStep, halted] at h

end Trace

namespace Model

open Trace

variable {c : Call} {id : Nat} {op : Operator} {children : List (String × Model)}

theorem mem_calls_traceAll (h : c ∈ (traceAll children).calls) :
    ∃ child ∈ children, c ∈ (tracePart child.2 []).calls := by
  induction children with
  | nil => simp [traceAll] at h
  | cons child rest ih =>
    rcases mem_calls_andThen h with h | h
    · exact ⟨child, List.mem_cons_self, h⟩
    · obtain ⟨child', hchild', h⟩ := ih h
      exact ⟨child', List.mem_cons_of_mem _ hchild', h⟩

/-- Names that lead into a composite run some part of a child. -/
theorem mem_calls_traceChild {className : String} {names : List String}
    (h : c ∈ (traceChild className children names).calls) :
    ∃ child ∈ children, ∃ below, c ∈ (tracePart child.2 below).calls := by
  cases names with
  | nil => simp [traceChild, halted] at h
  | cons name names =>
    induction children with
    | nil => simp [traceChild, halted] at h
    | cons child rest ih =>
      rw [traceChild] at h
      split at h
      · exact ⟨child, List.mem_cons_self, names, h⟩
      · obtain ⟨child', hchild', h⟩ := ih h
        exact ⟨child', List.mem_cons_of_mem _ hchild', h⟩

/-- A composite that is run, as a whole or in part, calls a leaf only by running a child. -/
theorem leaf_mem_calls_composite {wiring : Wiring} {names : List String} {own : Nat}
    (h : .leaf id op ∈ (tracePart (composite own wiring children) names).calls) :
    ∃ child ∈ children, ∃ below, .leaf id op ∈ (tracePart child.2 below).calls := by
  cases names with
  | cons name names => exact mem_calls_traceChild h
  | nil =>
    cases wiring with
    | inOrder =>
      obtain ⟨child, hchild, h⟩ := mem_calls_traceAll h
      exact ⟨child, hchild, [], h⟩
    | steps forward =>
      obtain ⟨step, -, h⟩ := mem_calls_sequence h
      obtain ⟨names, h⟩ := leaf_mem_calls_ofStep h
      exact mem_calls_traceChild h

/-- **Only what stands in the model is called**: running a part of it, at any names, calls none but
its leaves. -/
theorem mem_modules_of_tracePart {m : Model} {names : List String}
    (h : .leaf id op ∈ (tracePart m names).calls) : leaf id op ∈ m.modules := by
  induction m generalizing names with
  | leaf own op' =>
    cases names with
    | nil =>
      obtain ⟨rfl, rfl⟩ : id = own ∧ op = op' := by simpa [tracePart, one] using h
      exact mem_modules_self _
    | cons name names => simp [tracePart, halted] at h
  | composite own wiring children ih =>
    obtain ⟨child, hchild, below, h⟩ := leaf_mem_calls_composite h
    exact List.mem_cons_of_mem _
      (mem_map_parts_composite_iff.mpr ⟨child, hchild, ih child hchild h⟩)

/-- A leaf that a whole model calls is one of its parts. -/
theorem mem_parts_of_trace {m : Model} (h : .leaf id op ∈ m.trace.calls) :
    leaf id op ∈ m.parts.map (·.2) := by
  cases m with
  | leaf own op' =>
    -- a leaf is looked into, and has no children that it could run
    obtain ⟨step, -, h⟩ := mem_calls_sequence h
    obtain ⟨names, h⟩ := leaf_mem_calls_ofStep h
    obtain ⟨child, hchild, -⟩ := mem_calls_traceChild h
    cases hchild
  | composite own wiring children =>
    obtain ⟨child, hchild, below, h⟩ := leaf_mem_calls_composite h
    exact mem_map_parts_composite_iff.mpr ⟨child, hchild, mem_modules_of_tracePart h⟩

end Model

end NetPlan
