import NetPlan.Proofs.Declaration.Designation
import NetPlan.Proofs.Declaration.Grammar
import NetPlan.Proofs.Declaration.Refusal

/-!
# The checks of a declaration

A declaration goes through four checks, of its link, its designation, its kind and its tag, in this
order (`Declaration.Check.before`). What makes each of them fail, and with which fault, can be told
from the texts and the registry, without a reader (`Declaration.Fails`). The first one that fails
decides the fault (`Declaration.read_eq_error_iff_fails`).

Where the registry is kept in place, reading a declaration comes to the same as where it is handed
on (`Declaration.run_readInto`). So no failing check leaves a trace in it, and a declaration that
passes all of them adds one tag at its end at most (`Declaration.readInto_frame`).
-/

namespace NetPlan

variable {e : Entry} {f : Fault} {top index : Int} {tags tags' : Registry} {d : Designation}
  {kind : Kind} {name : String} {l : Layer}

/-! ### Names of kinds -/

namespace Kind

theorem isShared_iff : kind.isShared = true ↔ kind = shared := by
  cases kind <;> simp [isShared]

/-- A name is that of a kind if the table of names has the two together; none stands there twice. -/
theorem named_eq_ok_iff : named name = .ok kind ↔ (name, kind) ∈ names := by
  constructor
  · intro h
    unfold named at h
    split at h
    · rename_i hname
      obtain rfl := Except.ok.inj h
      obtain ⟨⟨name', kind'⟩, hfind, rfl⟩ := Option.map_eq_some_iff.mp hname
      have hkey : name' = name := by simpa using List.find?_some hfind
      exact hkey ▸ List.mem_of_find?_eq_some hfind
    · cases h
  · intro h
    simp only [names, List.mem_append, List.mem_map, List.mem_singleton, Prod.mk.injEq] at h
    obtain ⟨kind, -, rfl, rfl⟩ | ⟨rfl, rfl⟩ := h
    · exact kind.named_name
    · rfl

/-- The kinds of one name are the same, so the name tells whether a layer is shared. -/
theorem isShared_iff_of_named (h : named name = .ok kind) :
    kind.isShared = true ↔ (name, shared) ∈ names := by
  rw [isShared_iff, ← named_eq_ok_iff, h, Except.ok.injEq]

end Kind

/-! ### Checks -/

namespace Declaration

/-- The checks that a declaration goes through. -/
inductive Check where
  | link
  | designation
  | kind
  | tag
deriving DecidableEq, Repr

/-- The checks that come before a check. -/
def Check.before : Check → List Check
  | .link => []
  | .designation => [.link]
  | .kind => [.link, .designation]
  | .tag => [.link, .designation, .kind]

/-- A check of a declaration fails with a fault. The name of the kind and the tag are those that the
value writes; other than that, no check hangs on what becomes of the others. -/
inductive Fails (e : Entry) (top : Int) (tags : Registry) : Check → Fault → Prop
  | malformedLink (hkey : ∀ link, ¬Link.Writes e.key link) :
      Fails e top tags .link (.malformedLink e.key)
  | longNumeral {link : Link} {n : Nat} (hkey : Link.Writes e.key link)
      (hlong : longRun? link.runs = some n) : Fails e top tags .link (.longNumeral n)
  | nodeOutOfRange {link : Link} (hkey : Link.Writes e.key link) (hshort : link.IsShort)
      (hbeyond : maxNodeIndex < max (link.reach top).1 (link.reach top).2) :
      Fails e top tags .link (.nodeOutOfRange e.key)
  | malformedDesignation (hvalue : ∀ d, ¬Designation.Writes e.value d) :
      Fails e top tags .designation (.malformedDesignation e.value)
  | unknownKindName {d : Designation} (hvalue : Designation.Writes e.value d)
      (hname : d.kindName ∉ Kind.names.map (·.1)) :
      Fails e top tags .kind (.unknownKindName d.kindName)
  | missingTag {d : Designation} (hvalue : Designation.Writes e.value d)
      (hshared : (d.kindName, Kind.shared) ∈ Kind.names) (htag : d.tag = "") :
      Fails e top tags .tag .missingTag
  | undefinedTag {d : Designation} (hvalue : Designation.Writes e.value d)
      (hshared : (d.kindName, Kind.shared) ∈ Kind.names) (htag : d.tag ≠ "")
      (hfree : d.tag ∉ tags.map (·.1)) : Fails e top tags .tag (.undefinedTag d.tag)
  | duplicateTag {d : Designation} (hvalue : Designation.Writes e.value d)
      (hplain : (d.kindName, Kind.shared) ∉ Kind.names) (htag : d.tag ≠ "")
      (htaken : d.tag ∈ tags.map (·.1)) : Fails e top tags .tag (.duplicateTag d.tag)

/-- A check of a declaration does not fail. -/
def Passes (e : Entry) (top : Int) (tags : Registry) (c : Check) : Prop :=
  ∀ f, ¬Fails e top tags c f

/-- The first check fails as the reader of links does. -/
theorem fails_link_iff : Fails e top tags .link f ↔ Link.read e.key top = .error f := by
  rw [Link.read_eq_error_iff_writes]
  constructor
  · intro h
    cases h with
    | malformedLink hkey => exact .inl ⟨hkey, rfl⟩
    | longNumeral hkey hlong => exact .inr ⟨_, hkey, .inl ⟨_, hlong, rfl⟩⟩
    | nodeOutOfRange hkey hshort hbeyond => exact .inr ⟨_, hkey, .inr ⟨hshort, hbeyond, rfl⟩⟩
  · rintro (⟨hkey, rfl⟩ | ⟨link, hkey, ⟨n, hlong, rfl⟩ | ⟨hshort, hbeyond, rfl⟩⟩)
    · exact .malformedLink hkey
    · exact .longNumeral hkey hlong
    · exact .nodeOutOfRange hkey hshort hbeyond

/-- The second check fails as the reader of designations does. -/
theorem fails_designation_iff :
    Fails e top tags .designation f ↔ Designation.read e.value = .error f := by
  rw [Designation.read_eq_error_iff]
  constructor
  · intro h
    cases h with
    | malformedDesignation hvalue => exact ⟨hvalue, rfl⟩
  · rintro ⟨hvalue, rfl⟩
    exact .malformedDesignation hvalue

/-- Once there is a designation, the third check fails as its name is looked up. -/
theorem fails_kind_iff (hd : Designation.read e.value = .ok d) :
    Fails e top tags .kind f ↔ Kind.named d.kindName = .error f := by
  have hvalue : Designation.Writes e.value d := Designation.read_eq_ok_iff_writes.mp hd
  rw [Kind.named_eq_error_iff]
  constructor
  · intro h
    cases h with
    | unknownKindName hvalue' hname =>
      obtain rfl := hvalue'.unique hvalue
      exact ⟨hname, rfl⟩
  · rintro ⟨hname, rfl⟩
    exact .unknownKindName hvalue hname

/-- Once there is a kind, the last check fails as its tag is resolved. -/
theorem fails_tag_iff (hd : Designation.read e.value = .ok d)
    (hkind : Kind.named d.kindName = .ok kind) :
    Fails e top tags .tag f ↔ resolve kind d.tag index tags = .error f := by
  have hvalue : Designation.Writes e.value d := Designation.read_eq_ok_iff_writes.mp hd
  rw [resolve_eq_error_iff, ← Bool.not_eq_true, Kind.isShared_iff_of_named hkind,
    Registry.index?_eq_none_iff, Option.isSome_iff_ne_none, ne_eq (tags.index? d.tag),
    Registry.index?_eq_none_iff, not_not]
  constructor
  · intro h
    cases h with
    | missingTag hvalue' hshared htag =>
      obtain rfl := hvalue'.unique hvalue
      exact .inl ⟨hshared, htag, rfl⟩
    | undefinedTag hvalue' hshared htag hfree =>
      obtain rfl := hvalue'.unique hvalue
      exact .inr (.inl ⟨hshared, htag, hfree, rfl⟩)
    | duplicateTag hvalue' hplain htag htaken =>
      obtain rfl := hvalue'.unique hvalue
      exact .inr (.inr ⟨hplain, htag, htaken, rfl⟩)
  · rintro (⟨hshared, htag, rfl⟩ | ⟨hshared, htag, hfree, rfl⟩ | ⟨hplain, htag, htaken, rfl⟩)
    · exact .missingTag hvalue hshared htag
    · exact .undefinedTag hvalue hshared htag hfree
    · exact .duplicateTag hvalue hplain htag htaken

theorem passes_link_iff : Passes e top tags .link ↔ ∃ nodes, Link.read e.key top = .ok nodes := by
  simp only [Passes, fails_link_iff]
  exact forall_ne_error_iff

theorem passes_designation_iff :
    Passes e top tags .designation ↔ ∃ d, Designation.read e.value = .ok d := by
  simp only [Passes, fails_designation_iff]
  exact forall_ne_error_iff

theorem passes_kind_iff (hd : Designation.read e.value = .ok d) :
    Passes e top tags .kind ↔ ∃ kind, Kind.named d.kindName = .ok kind := by
  simp only [Passes, fails_kind_iff hd]
  exact forall_ne_error_iff

/-- The first check that fails decides the fault of a declaration. -/
theorem read_eq_error_iff_fails :
    read e top index tags = .error f ↔
      ∃ c, Fails e top tags c f ∧ ∀ c' ∈ c.before, Passes e top tags c' := by
  rw [read_eq_error_iff]
  constructor
  -- each check that is reached has those before it behind it, with what they read
  · rintro (hlink | ⟨nodes, hlink, hvalue⟩)
    · exact ⟨.link, fails_link_iff.mpr hlink, List.forall_mem_nil _⟩
    · have hpasses : Passes e top tags .link := passes_link_iff.mpr ⟨nodes, hlink⟩
      obtain hvalue | ⟨d, hd, hlabel⟩ := hvalue
      · exact ⟨.designation, fails_designation_iff.mpr hvalue, by simp [Check.before, hpasses]⟩
      · have hpasses' : Passes e top tags .designation := passes_designation_iff.mpr ⟨d, hd⟩
        obtain hkind | ⟨kind, hkind, htag⟩ := hlabel
        · exact ⟨.kind, (fails_kind_iff hd).mpr hkind, by simp [Check.before, hpasses, hpasses']⟩
        · have hpasses'' : Passes e top tags .kind := (passes_kind_iff hd).mpr ⟨kind, hkind⟩
          exact ⟨.tag, (fails_tag_iff hd hkind).mpr htag,
            by simp [Check.before, hpasses, hpasses', hpasses'']⟩
  · rintro ⟨c, hfails, hbefore⟩
    cases c with
    | link => exact .inl (fails_link_iff.mp hfails)
    | designation =>
      obtain ⟨nodes, hlink⟩ := passes_link_iff.mp (hbefore .link (by decide))
      exact .inr ⟨nodes, hlink, .inl (fails_designation_iff.mp hfails)⟩
    | kind =>
      obtain ⟨nodes, hlink⟩ := passes_link_iff.mp (hbefore .link (by decide))
      obtain ⟨d, hd⟩ := passes_designation_iff.mp (hbefore .designation (by decide))
      exact .inr ⟨nodes, hlink, .inr ⟨d, hd, .inl ((fails_kind_iff hd).mp hfails)⟩⟩
    | tag =>
      obtain ⟨nodes, hlink⟩ := passes_link_iff.mp (hbefore .link (by decide))
      obtain ⟨d, hd⟩ := passes_designation_iff.mp (hbefore .designation (by decide))
      obtain ⟨kind, hkind⟩ := (passes_kind_iff hd).mp (hbefore .kind (by decide))
      exact .inr
        ⟨nodes, hlink, .inr ⟨d, hd, .inr ⟨kind, hkind, (fails_tag_iff hd hkind).mp hfails⟩⟩⟩

/-- A declaration is read if none of its checks fails. -/
theorem exists_read_eq_ok_iff :
    (∃ l tags', read e top index tags = .ok (l, tags')) ↔ ∀ c, Passes e top tags c := by
  constructor
  · rintro ⟨l, tags', h⟩
    obtain ⟨a, b, d, kind, primary, hlink, hd, hkind, hresolve, -⟩ := read_eq_ok_iff.mp h
    intro c
    cases c with
    | link => exact passes_link_iff.mpr ⟨_, hlink⟩
    | designation => exact passes_designation_iff.mpr ⟨d, hd⟩
    | kind => exact (passes_kind_iff hd).mpr ⟨kind, hkind⟩
    | tag =>
      intro f htag
      rw [fails_tag_iff hd hkind, hresolve] at htag
      cases htag
  · intro hpasses
    cases hread : read e top index tags with
    | ok result => exact ⟨result.1, result.2, rfl⟩
    | error f =>
      obtain ⟨c, hfails, -⟩ := read_eq_error_iff_fails.mp hread
      exact absurd hfails (hpasses c f)

/-! ### A registry in place -/

/-- What a step that hands the registry on comes to where the registry is kept in place: a fault
leaves the registry of before. -/
def inPlace {α : Type} (tags : Registry) : Except Fault (α × Registry) →
    EStateM.Result Fault Registry α
  | .ok (a, tags') => .ok a tags'
  | .error f => .error f tags

theorem inPlace_eq_ok_iff {α : Type} {x : Except Fault (α × Registry)} {a : α} :
    inPlace tags x = .ok a tags' ↔ x = .ok (a, tags') := by
  cases x <;> simp [inPlace, Prod.ext_iff]

theorem inPlace_eq_error_iff {α : Type} {x : Except Fault (α × Registry)} :
    inPlace tags x = .error f tags' ↔ tags' = tags ∧ x = .error f := by
  cases x <;> simp [inPlace, and_comm, eq_comm]

/-- A step that does not look at the registry leaves it as it is, also if it fails. -/
theorem run_ofExcept_bind {α β : Type} {x : Except Fault α} {k : α → EStateM Fault Registry β}
    {g : α → Except Fault (β × Registry)} (h : ∀ a, (k a).run tags = inPlace tags (g a)) :
    (MonadExcept.ofExcept x >>= k).run tags = inPlace tags (x >>= g) := by
  cases x with
  | error f => rfl
  | ok a => exact h a

/-- To resolve a tag in place is to resolve it and keep the registry of before if that fails. -/
theorem run_resolveInto (kind : Kind) (tag : String) (index : Int) (tags : Registry) :
    (resolveInto kind tag index).run tags = inPlace tags (resolve kind tag index tags) := by
  unfold resolveInto resolve
  by_cases hshared : kind.isShared = true
  · by_cases htag : tag = ""
    · simp only [hshared, htag, if_true]
      rfl
    · simp only [hshared, htag, if_true, if_false, EStateM.run_bind, EStateM.run_get]
      cases tags.index? tag <;> rfl
  · by_cases htag : tag = ""
    · simp only [hshared, htag, Bool.false_eq_true, if_true, if_false, ne_eq, not_true_eq_false]
      rfl
    · simp only [hshared, htag, Bool.false_eq_true, if_false, ne_eq, not_false_eq_true, if_true,
        EStateM.run_bind, EStateM.run_get]
      cases (tags.index? tag).isSome <;> rfl

/-- To read a declaration in place is to read it and keep the registry of before if that fails. -/
theorem run_readInto (e : Entry) (top index : Int) (tags : Registry) :
    (readInto e top index).run tags = inPlace tags (read e top index tags) := by
  refine run_ofExcept_bind fun nodes => run_ofExcept_bind fun d => run_ofExcept_bind fun kind => ?_
  rw [EStateM.run_bind, run_resolveInto]
  cases resolve kind d.tag index tags <;> rfl

/-- **What a declaration leaves of a registry** that is kept in place. If a check fails, the
registry is as it was, and the first check that fails decides the fault. If none fails, a layer is
given. Where this layer is shared or has no tag the registry is as it was too; any other tag was not
in the registry, and stands behind all others now, with the index of the layer. -/
theorem readInto_frame (e : Entry) (top index : Int) (tags : Registry) :
    (∀ f tags', (readInto e top index).run tags = .error f tags' ↔
      tags' = tags ∧ ∃ c, Fails e top tags c f ∧ ∀ c' ∈ c.before, Passes e top tags c') ∧
    ((∃ l tags', (readInto e top index).run tags = .ok l tags') ↔ ∀ c, Passes e top tags c) ∧
    ∀ l tags', (readInto e top index).run tags = .ok l tags' →
      ∃ d, Designation.Writes e.value d ∧ (d.kindName, l.kind) ∈ Kind.names ∧
        (l.isShared = true ∨ d.tag = "" → tags' = tags) ∧
        (l.isShared = false ∧ d.tag ≠ "" →
          d.tag ∉ tags.map (·.1) ∧ tags' = tags ++ [(d.tag, index)]) := by
  simp only [run_readInto, inPlace_eq_error_iff, inPlace_eq_ok_iff, read_eq_error_iff_fails,
    implies_true, true_and]
  refine ⟨exists_read_eq_ok_iff, fun l tags' h => ?_⟩
  obtain ⟨a, b, d, kind, primary, -, hd, hkind, hresolve, rfl⟩ := read_eq_ok_iff.mp h
  refine ⟨d, Designation.read_eq_ok_iff_writes.mp hd, Kind.named_eq_ok_iff.mp hkind, ?_⟩
  rw [Layer.isShared]
  obtain ⟨hshared, htag, -, rfl⟩ | ⟨hplain, htag, -, rfl⟩ | ⟨hplain, htag, hfree, -, rfl⟩ :=
    resolve_eq_ok_iff.mp hresolve
  · exact ⟨fun _ => rfl, fun h => absurd h.1 (by simp [hshared])⟩
  · exact ⟨fun _ => rfl, fun h => absurd htag h.2⟩
  · exact ⟨fun h => absurd h (by simp [hplain, htag]),
      fun _ => ⟨Registry.index?_eq_none_iff.mp hfree, rfl⟩⟩

/-- A tag joins a registry that has others already. -/
theorem readInto_frame_joining :
    (readInto ⟨"layer[+1]", " conv:a:b"⟩ 2 5).run [("b", 0), ("a", 3)] =
        .ok { kind := .conv, inputs := [2], outputs := [3] } [("b", 0), ("a", 3), ("a:b", 5)] ∧
      "a:b" ∉ [("b", (0 : Int)), ("a", 3)].map (·.1) ∧
      [("b", (0 : Int)), ("a", 3), ("a:b", 5)] = [("b", 0), ("a", 3)] ++ [("a:b", 5)] := by
  have hread : (readInto ⟨"layer[+1]", " conv:a:b"⟩ 2 5).run [("b", 0), ("a", 3)] =
      .ok { kind := .conv, inputs := [2], outputs := [3] } [("b", 0), ("a", 3), ("a:b", 5)] := by
    decide
  have hvalue : Designation.Writes " conv:a:b" ⟨"conv", "a:b"⟩ :=
    Designation.read_eq_ok_iff_writes.mp (by decide)
  obtain ⟨d, hd, -, -, hjoins⟩ := (readInto_frame _ 2 5 _).2.2 _ _ hread
  obtain rfl := hd.unique hvalue
  exact ⟨hread, hjoins ⟨rfl, by decide⟩⟩

end Declaration

end NetPlan
