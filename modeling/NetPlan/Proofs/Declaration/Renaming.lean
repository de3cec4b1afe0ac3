import NetPlan.Proofs.Declaration.Designation
import NetPlan.Proofs.Declaration.Refusal
import NetPlan.Proofs.Entry

/-!
# Renaming tags

A **renaming** takes words to words and keeps different words apart. Applied to a declaration it
replaces the tag, and leaves the kind, the white space around the value and the key alone
(`Entry.rename`).

A renamed declaration is read against a renamed registry as the declaration is read against the
registry (`Declaration.read_rename`): the layer is the same, and the registry behind it, or the tag
in the fault, is renamed. A registry is only ever asked which of its tags is equal to another one,
and a renaming does not change that as long as all of them are words (`Registry.index?_rename`).
-/

namespace NetPlan

open Text

/-- A map of tags that takes words to words and keeps different words apart. -/
structure Renaming where
  toFun : String → String
  isWord : ∀ {tag : String}, IsWord tag → IsWord (toFun tag)
  injective : ∀ {tag tag' : String}, IsWord tag → IsWord tag' → toFun tag = toFun tag' → tag = tag'

instance : CoeFun Renaming fun _ => String → String :=
  ⟨Renaming.toFun⟩

/-- The renaming that sets a word before each tag. -/
def Renaming.behind (lead : String) (h : IsWord lead) : Renaming where
  toFun tag := lead ++ tag
  isWord := h.append
  injective _ _ heq := (String.append_right_inj lead).mp heq

variable {r : Renaming}

/-! ### Designations -/

namespace Designation

variable {d : Designation} {value : String}

/-- The designation with its tag renamed, if it has one. -/
def rename (r : Renaming) (d : Designation) : Designation :=
  { d with tag := if d.tag = "" then "" else r d.tag }

/-- The value with another text between the white space at its ends. -/
def refill (value : String) (core : List Char) : String :=
  String.ofList (value.toList.takeWhile isBlank ++ core ++ value.toList.rtakeWhile isBlank)

/-- The value with the tag renamed that it writes, if it writes one. -/
def renameValue (r : Renaming) (value : String) : String :=
  match read value with
  | .ok d => refill value (d.rename r).text.toList
  | .error _ => value

/-- Since words are renamed to words, a plain designation stays plain. -/
theorem IsPlain.rename (h : d.IsPlain) : (d.rename r).IsPlain := by
  refine ⟨h.name_ne, h.name, fun htag => ?_⟩
  by_cases hempty : d.tag = ""
  · simp [Designation.rename, hempty] at htag
  · simpa [Designation.rename, hempty] using r.isWord (h.tag hempty)

theorem rename_of_tag_eq (h : d.tag = "") : d.rename r = d := by
  obtain ⟨name, tag⟩ := d
  subst h
  rfl

/-- A value is the text of what it reads as, between the white space at its ends. -/
theorem refill_text (h : read value = .ok d) : refill value d.text.toList = value := by
  obtain ⟨hplain, htrim⟩ := read_eq_ok_iff.mp h
  have hne : trim value.toList ≠ [] := by
    rw [htrim, toList_text]
    simp [hplain.name_ne]
  rw [refill, ← htrim, ← eq_append_trim hne, String.ofList_toList]

/-- A value that writes no tag stays as it is. -/
theorem renameValue_eq_self (h : ∀ d, read value = .ok d → d.tag = "") :
    renameValue r value = value := by
  unfold renameValue
  cases hread : read value with
  | error f => rfl
  | ok d =>
    dsimp only
    rw [rename_of_tag_eq (h d hread), refill_text hread]

/-- A renamed value is read as the renamed designation, and a value that is turned down stays so. -/
theorem read_renameValue (r : Renaming) (value : String) :
    read (renameValue r value) = (read value).map (rename r) := by
  unfold renameValue
  cases h : read value with
  | error f => exact h
  | ok d =>
    obtain ⟨hplain, -⟩ := read_eq_ok_iff.mp h
    have hlead : ∀ c ∈ value.toList.takeWhile isBlank, isBlank c = true := fun c hc =>
      List.mem_takeWhile_imp hc
    have htrail : ∀ c ∈ value.toList.rtakeWhile isBlank, isBlank c = true := fun c hc =>
      List.mem_rtakeWhile_imp hc
    exact read_append hplain.rename hlead htrail

end Designation

/-! ### Entries -/

namespace Entry

variable {e : Entry}

/-- The entry with its tag renamed, if it is a declaration. -/
def rename (r : Renaming) (e : Entry) : Entry :=
  if e.role = .layer then { e with value := Designation.renameValue r e.value } else e

theorem rename_of_role_ne (h : e.role ≠ .layer) : e.rename r = e :=
  if_neg h

theorem rename_of_role_eq (h : e.role = .layer) :
    e.rename r = { e with value := Designation.renameValue r e.value } :=
  if_pos h

theorem role_rename_of_role_eq (h : e.role = .layer) : (e.rename r).role = .layer := by
  have hkey : isLayerKey e.key = true := role_eq_layer_iff.mp h
  rw [rename_of_role_eq h]
  exact role_eq_layer_iff.mpr hkey

end Entry

/-! ### Registries -/

namespace Registry

variable {tags : Registry} {tag : String}

/-- The registry with all tags renamed, in the same order and with the same indices. -/
def rename (r : Renaming) (tags : Registry) : Registry :=
  tags.map fun (tag, index) => (r tag, index)

/-- All tags that are taken are words. -/
def HoldsWords (tags : Registry) : Prop :=
  ∀ x ∈ tags, IsWord x.1

theorem HoldsWords.add (h : tags.HoldsWords) (htag : IsWord tag) (index : Int) :
    (tags.add tag index).HoldsWords :=
  List.forall_mem_append.mpr ⟨h, List.forall_mem_singleton.mpr htag⟩

/-- A tag joins a renamed registry under its new name. -/
theorem rename_add (r : Renaming) (tags : Registry) (tag : String) (index : Int) :
    (tags.add tag index).rename r = (tags.rename r).add (r tag) index :=
  List.map_append

/-- A tag is found under its new name where it is found under the old one. -/
theorem index?_rename (h : tags.HoldsWords) (htag : IsWord tag) :
    (tags.rename r).index? (r tag) = tags.index? tag := by
  induction tags with
  | nil => rfl
  | cons x tags ih =>
    obtain ⟨hx, htags⟩ := List.forall_mem_cons.mp h
    -- the first tag is the wanted one under the new names only if it was so under the old ones
    have hsame : r x.1 = r tag ↔ x.1 = tag := ⟨r.injective hx htag, congrArg r⟩
    have hrest : index? (rename r tags) (r tag) = index? tags tag := ih htags
    unfold index? rename at hrest ⊢
    by_cases heq : x.1 = tag
    · simp [heq]
    · simpa [heq, hsame] using hrest

end Registry

/-! ### Faults -/

/-- The fault with the tag renamed that it is about, and that of the declaration that it quotes. -/
def Fault.rename (r : Renaming) : Fault → Fault
  | .undefinedTag tag => .undefinedTag (r tag)
  | .duplicateTag tag => .duplicateTag (r tag)
  | .structureMismatch layer e => .structureMismatch layer (e.rename r)
  | f => f

/-- Renaming leaves a fault in its group. -/
@[simp]
theorem Fault.category_rename (f : Fault) : (f.rename r).category = f.category := by
  cases f <;> rfl

/-! ### Declarations -/

namespace Declaration

variable {α : Type} {kind : Kind} {top index : Int} {tags tags' : Registry} {e : Entry}
  {d : Designation} {l : Layer} {f : Fault}

/-- The result of a check with the registry behind it renamed, or the tag in the fault. -/
def renameResult (r : Renaming) : Except Fault (α × Registry) → Except Fault (α × Registry)
  | .ok (x, tags) => .ok (x, tags.rename r)
  | .error f => .error (f.rename r)

/-- A renamed tag is resolved in a renamed registry as the tag was in the registry. -/
theorem resolve_rename (htags : tags.HoldsWords) (hplain : d.IsPlain) :
    resolve kind (d.rename r).tag index (tags.rename r) =
      renameResult r (resolve kind d.tag index tags) := by
  by_cases hempty : d.tag = ""
  · -- without a tag the registry is not asked
    rw [Designation.rename_of_tag_eq hempty, hempty]
    unfold resolve
    cases kind.isShared <;> rfl
  · have hword : IsWord d.tag := hplain.tag hempty
    have hnew : (d.rename r).tag = r d.tag := if_neg hempty
    have hindex : (tags.rename r).index? (r d.tag) = tags.index? d.tag :=
      Registry.index?_rename htags hword
    rw [hnew]
    unfold resolve
    rw [hindex]
    cases kind.isShared with
    | true =>
      cases tags.index? d.tag <;> simp [hempty, (r.isWord hword).1, renameResult, Fault.rename]
    | false =>
      cases tags.index? d.tag <;>
        simp [hempty, (r.isWord hword).1, renameResult, Fault.rename, Registry.rename_add]

/-- A renamed declaration is read against a renamed registry as it was read before. -/
theorem read_rename (hrole : e.role = .layer) (htags : tags.HoldsWords) :
    read (e.rename r) top index (tags.rename r) = renameResult r (read e top index tags) := by
  rw [Entry.rename_of_role_eq hrole]
  unfold read
  dsimp only
  rw [Designation.read_renameValue]
  cases hlink : Link.read e.key top with
  | error f =>
    -- the faults of a link say nothing of tags
    obtain ⟨-, rfl⟩ | ⟨n, -, rfl⟩ | ⟨-, -, rfl⟩ := Link.read_eq_error_iff.mp hlink
    all_goals rfl
  | ok nodes =>
    cases hvalue : Designation.read e.value with
    | error f =>
      obtain rfl := Designation.read_eq_error hvalue
      rfl
    | ok d =>
      obtain ⟨hplain, -⟩ := Designation.read_eq_ok_iff.mp hvalue
      have hname : (d.rename r).kindName = d.kindName := rfl
      simp only [bind, Except.bind, Except.map, hname]
      cases hkind : Kind.named d.kindName with
      | error f =>
        obtain rfl := Kind.named_eq_error hkind
        rfl
      | ok kind =>
        dsimp only
        rw [resolve_rename htags hplain]
        cases resolve kind d.tag index tags <;> rfl

theorem read_rename_of_ok (hrole : e.role = .layer) (htags : tags.HoldsWords)
    (h : read e top index tags = .ok (l, tags')) :
    read (e.rename r) top index (tags.rename r) = .ok (l, tags'.rename r) := by
  rw [read_rename hrole htags, h]
  rfl

theorem read_rename_of_error (hrole : e.role = .layer) (htags : tags.HoldsWords)
    (h : read e top index tags = .error f) :
    read (e.rename r) top index (tags.rename r) = .error (f.rename r) := by
  rw [read_rename hrole htags, h]
  rfl

/-- The tags that a declaration takes are words. -/
theorem holdsWords_of_read (h : read e top index tags = .ok (l, tags')) (htags : tags.HoldsWords) :
    tags'.HoldsWords := by
  obtain ⟨a, b, d, kind, primary, -, hvalue, -, hresolve, -⟩ := read_eq_ok_iff.mp h
  obtain ⟨hplain, -⟩ := Designation.read_eq_ok_iff.mp hvalue
  obtain ⟨-, -, -, rfl⟩ | ⟨-, -, -, rfl⟩ | ⟨-, htag, -, -, rfl⟩ := resolve_eq_ok_iff.mp hresolve
  · exact htags
  · exact htags
  · exact htags.add (hplain.tag htag) index

end Declaration

end NetPlan
