import NetPlan.Proofs.Declaration.Designation
import NetPlan.Proofs.Declaration.Range
import NetPlan.Sheet.Basic

/-!
# What a fault says

An entry that is turned down gets one of a few faults, and these quote it: a fault on a key holds
the key, a fault on a value the value (`Entry.Refused`). The readers of declarations and shapes give
no other faults. A sheet that cannot be read gets a fault of a group of its own, so the two never
mix (`Entry.Refused.category_ne_sheet`, `Sheet.category_of_parse`).
-/

namespace NetPlan

variable {e : Entry} {f : Fault}

/-- The faults for which an entry may be turned down. -/
inductive Entry.Refused (e : Entry) : Fault → Prop
  | malformedLink : Refused e (.malformedLink e.key)
  | nodeOutOfRange : Refused e (.nodeOutOfRange e.key)
  | malformedDesignation : Refused e (.malformedDesignation e.value)
  | malformedShape : Refused e .malformedShape
  | dimensionOutOfRange : Refused e (.dimensionOutOfRange e.value)
  | longNumeral (digits : Nat) : Refused e (.longNumeral digits)
  | unknownKindName (name : String) : Refused e (.unknownKindName name)
  | missingTag : Refused e .missingTag
  | undefinedTag (tag : String) : Refused e (.undefinedTag tag)
  | duplicateTag (tag : String) : Refused e (.duplicateTag tag)
  | sharedSetting (layer : Nat) : Refused e (.sharedSetting layer e)
  | structureMismatch (layer : Nat) : Refused e (.structureMismatch layer e)
  | unfinishedStructure : Refused e .unfinishedStructure

/-- No fault of an entry is one of a sheet. -/
theorem Entry.Refused.category_ne_sheet (h : e.Refused f) : f.category ≠ .sheet := by
  cases h <;> simp [Fault.category]

/-! ### Declarations -/

/-- Whatever is wrong with a key, its fault is one of those of an entry. -/
theorem Link.refused_of_read {top : Int} (h : Link.read e.key top = .error f) : e.Refused f := by
  obtain ⟨-, rfl⟩ | ⟨n, -, rfl⟩ | ⟨-, -, rfl⟩ := Link.read_eq_error_iff.mp h
  · exact .malformedLink
  · exact .longNumeral n
  · exact .nodeOutOfRange

theorem Designation.read_eq_error {value : String} (h : Designation.read value = .error f) :
    f = .malformedDesignation value :=
  (Designation.read_eq_error_iff.mp h).2

/-- A name that no kind has is turned down as such. -/
theorem Kind.named_eq_error_iff {name : String} :
    Kind.named name = .error f ↔ name ∉ Kind.names.map (·.1) ∧ f = .unknownKindName name := by
  have hnone : Kind.ofName? name = none ↔ name ∉ Kind.names.map (·.1) := by
    simp only [Kind.ofName?, Option.map_eq_none_iff, List.find?_eq_none, List.mem_map, not_exists,
      not_and, decide_eq_true_eq]
  rw [← hnone, Kind.named]
  cases Kind.ofName? name <;> simp [eq_comm]

theorem Kind.named_eq_error {name : String} (h : Kind.named name = .error f) :
    f = .unknownKindName name :=
  (Kind.named_eq_error_iff.mp h).2

namespace Declaration

variable {kind : Kind} {tag : String} {top index : Int} {tags : Registry}

/-- A tag is turned down in one of three ways: it is missing, not defined, or taken already. -/
theorem resolve_eq_error_iff :
    resolve kind tag index tags = .error f ↔
      (kind.isShared = true ∧ tag = "" ∧ f = .missingTag) ∨
      (kind.isShared = true ∧ tag ≠ "" ∧ tags.index? tag = none ∧ f = .undefinedTag tag) ∨
      (kind.isShared = false ∧ tag ≠ "" ∧ (tags.index? tag).isSome ∧ f = .duplicateTag tag) := by
  unfold resolve
  by_cases hshared : kind.isShared = true
  · by_cases htag : tag = ""
    · simp [hshared, htag, @eq_comm Fault f]
    · cases hindex : tags.index? tag <;> simp [hshared, htag, @eq_comm Fault f]
  · have hplain : kind.isShared = false := by simpa using hshared
    by_cases htag : tag = ""
    · simp [hplain, htag]
    · cases hindex : tags.index? tag <;> simp [hplain, htag, @eq_comm Fault f]

/-- A declaration is turned down at the first of its checks that fails: link, designation, kind or
tag. -/
theorem read_eq_error_iff :
    read e top index tags = .error f ↔
      Link.read e.key top = .error f ∨
      ∃ nodes, Link.read e.key top = .ok nodes ∧
        (Designation.read e.value = .error f ∨
        ∃ d, Designation.read e.value = .ok d ∧
          (Kind.named d.kindName = .error f ∨
          ∃ kind, Kind.named d.kindName = .ok kind ∧
            resolve kind d.tag index tags = .error f)) := by
  simp only [read, bind_eq_error_iff, pure, Except.pure, reduceCtorEq, and_false, exists_false,
    or_false]

/-- Whatever is wrong with a declaration, its fault is one of those of an entry. -/
theorem refused_of_read (h : read e top index tags = .error f) : e.Refused f := by
  obtain hlink | ⟨-, -, hvalue | ⟨d, -, hkind | ⟨kind, -, htag⟩⟩⟩ := read_eq_error_iff.mp h
  · exact Link.refused_of_read hlink
  · obtain rfl := Designation.read_eq_error hvalue
    exact .malformedDesignation
  · obtain rfl := Kind.named_eq_error hkind
    exact .unknownKindName d.kindName
  · obtain ⟨-, -, rfl⟩ | ⟨-, -, -, rfl⟩ | ⟨-, -, -, rfl⟩ := resolve_eq_error_iff.mp htag
    · exact .missingTag
    · exact .undefinedTag d.tag
    · exact .duplicateTag d.tag

end Declaration

theorem Shape.refused_of_read (h : Shape.read e.value = .error f) : e.Refused f := by
  obtain ⟨-, rfl⟩ | ⟨n, -, rfl⟩ | ⟨-, -, rfl⟩ := Shape.read_eq_error_iff.mp h
  · exact .malformedShape
  · exact .longNumeral n
  · exact .dimensionOutOfRange

/-! ### Sheets -/

namespace Sheet

theorem category_of_readLine {number : Nat} {line : List Char}
    (h : readLine number line = .error f) : f.category = .sheet := by
  simp only [readLine] at h
  split at h
  · cases h
  · split at h
    · obtain rfl := Except.error.inj h
      rfl
    · split at h
      · obtain rfl := Except.error.inj h
        rfl
      · cases h

theorem category_of_feedLines {number : Nat} {lines : List (List Char)}
    (h : (feedLines number lines).fault = some f) : f.category = .sheet := by
  induction lines generalizing number with
  | nil => cases h
  | cons line lines ih =>
    unfold feedLines at h
    split at h
    · rename_i hline
      obtain rfl := Option.some.inj h
      exact category_of_readLine hline
    · exact ih h
    · exact ih h

/-- A text is turned down with the fault that ends its feed. -/
theorem parse_eq_error_iff {text : String} :
    parse text = .error f ↔ (feed text).fault = some f := by
  unfold parse Feed.toExcept
  cases (feed text).fault <;> simp

/-- Whatever is wrong with a text, the fault is one of a sheet. -/
theorem category_of_parse {text : String} (h : parse text = .error f) : f.category = .sheet :=
  category_of_feedLines (parse_eq_error_iff.mp h)

end Sheet

end NetPlan
