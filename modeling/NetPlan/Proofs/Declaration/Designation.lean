import NetPlan.Declaration.Designation
import NetPlan.Proofs.Text.Blank

/-!
# Designations as they are written

A designation is written as the name of its kind, with a colon and the tag behind it if there is one
(`Designation.text`). It can be written so that it is read back if it is **plain**: the name is not
empty and has neither colons nor white space, and the tag is a word or there is none.

The texts of plain designations are all that is ever read, and white space around them does not
count (`Designation.read_eq_ok_iff`, `Designation.read_append`).

Without a reader, a value can be a word without colons, or such a word with a colon and another word
behind it (`Designation.Spells`), in white space (`Designation.Writes`).
`Designation.uniquely_readable` says that what is written in this way is what is read, and that
nothing can be read in two ways.
-/

namespace NetPlan.Designation

open Text

/-- The text of a designation. -/
def text (d : Designation) : String :=
  if d.tag = "" then d.kindName else d.kindName ++ ":" ++ d.tag

/-- The name can be told from the tag, and neither of them from white space around it. -/
structure IsPlain (d : Designation) : Prop where
  name_ne : d.kindName ≠ ""
  name : ∀ c ∈ d.kindName.toList, isNameChar c = true
  tag : d.tag ≠ "" → IsWord d.tag

variable {d : Designation} {cs : List Char} {value name tag : String}

theorem isTag_iff {s : String} : isTag s.toList = true ↔ IsWord s := by
  simp only [isTag, isWord_iff, Bool.and_eq_true, Bool.not_eq_true', List.isEmpty_eq_false_iff,
    ne_eq, String.toList_eq_nil_iff]

theorem isBlank_of_isNameChar {c : Char} (h : isNameChar c = true) : isBlank c = false := by
  simpa using (Bool.and_eq_true_iff.mp h).2

/-- What is told of the characters of a text and of those behind it is told by the tag. -/
theorem toList_text (d : Designation) :
    d.text.toList = d.kindName.toList ++ if d.tag = "" then [] else ':' :: d.tag.toList := by
  unfold text
  split
  · exact (List.append_nil _).symm
  · simp

/-- The name of a kind is what stands before the tag. -/
theorem span_text (hname : ∀ c ∈ d.kindName.toList, isNameChar c = true) :
    d.text.toList.takeWhile isNameChar = d.kindName.toList ∧
      d.text.toList.dropWhile isNameChar = if d.tag = "" then [] else ':' :: d.tag.toList := by
  rw [toList_text]
  refine List.span_append _ hname fun c hc => ?_
  split at hc
  · cases hc
  · obtain rfl := Option.some.inj hc
    decide

/-- A text tells the name of the kind and the tag. -/
theorem eq_of_text_eq {d' : Designation} (hname : ∀ c ∈ d.kindName.toList, isNameChar c = true)
    (hname' : ∀ c ∈ d'.kindName.toList, isNameChar c = true) (h : d.text = d'.text) : d = d' := by
  obtain ⟨htake, hdrop⟩ := span_text hname
  obtain ⟨htake', hdrop'⟩ := span_text hname'
  rw [h] at htake hdrop
  have hkindName : d.kindName = d'.kindName := String.toList_inj.mp (htake.symm.trans htake')
  have htag : (if d.tag = "" then [] else ':' :: d.tag.toList) =
      if d'.tag = "" then [] else ':' :: d'.tag.toList := hdrop.symm.trans hdrop'
  obtain ⟨kindName, tag⟩ := d
  obtain ⟨kindName', tag'⟩ := d'
  by_cases hempty : tag = "" <;> by_cases hempty' : tag' = "" <;>
    simp_all [String.toList_inj]

theorem IsPlain.isBlank_text (h : d.IsPlain) : ∀ c ∈ d.text.toList, isBlank c = false := by
  intro c hc
  rw [toList_text, List.mem_append] at hc
  obtain hc | hc := hc
  · exact isBlank_of_isNameChar (h.name c hc)
  · split at hc
    · cases hc
    · rename_i htag
      obtain rfl | hc := List.mem_cons.mp hc
      · decide
      · exact (h.tag htag).2 c hc

/-- What is read without white space around it is the text of a plain designation. -/
theorem eq_text_of_ofTrimmed? (h : ofTrimmed? cs = some d) : d.IsPlain ∧ cs = d.text.toList := by
  have hspan : cs.takeWhile isNameChar ++ cs.dropWhile isNameChar = cs :=
    List.takeWhile_append_dropWhile
  have hchars : ∀ c ∈ cs.takeWhile isNameChar, isNameChar c = true := fun c hc =>
    List.mem_takeWhile_imp hc
  simp only [ofTrimmed?] at h
  split at h
  · cases h
  · rename_i hne
    have hne' : String.ofList (cs.takeWhile isNameChar) ≠ "" := by simpa using hne
    -- behind the name the text ends, or a colon and a tag stand there
    split at h
    · rename_i hrest
      obtain rfl := Option.some.inj h
      refine ⟨⟨hne', by simpa using hchars, fun htag => absurd rfl htag⟩, ?_⟩
      rw [hrest, List.append_nil] at hspan
      simp [toList_text, hspan]
    · rename_i tag hrest
      split at h
      · rename_i htag
        obtain rfl := Option.some.inj h
        have hword : IsWord (String.ofList tag) := isTag_iff.mp (by simpa using htag)
        refine ⟨⟨hne', by simpa using hchars, fun _ => hword⟩, ?_⟩
        rw [hrest] at hspan
        simp only [toList_text, if_neg hword.1, String.toList_ofList, hspan]
      · cases h
    · cases h

theorem ofTrimmed?_text (h : d.IsPlain) : ofTrimmed? d.text.toList = some d := by
  have hne : d.kindName.toList.isEmpty = false := by simpa using h.name_ne
  obtain ⟨htake, hdrop⟩ := span_text h.name
  simp only [ofTrimmed?, htake, hdrop, hne, Bool.false_eq_true, if_false, String.ofList_toList]
  obtain ⟨name, tag⟩ := d
  by_cases htag : tag = ""
  · subst htag
    rfl
  · have hword : isTag tag.toList = true := isTag_iff.mpr (h.tag htag)
    simp [htag, hword]

/-- A value is read if it is the text of a plain designation but for white space around it. -/
theorem read_eq_ok_iff : read value = .ok d ↔ d.IsPlain ∧ trim value.toList = d.text.toList := by
  rw [read]
  constructor
  · intro h
    cases hread : ofTrimmed? (trim value.toList) with
    | none => simp [hread] at h
    | some d' =>
      rw [hread] at h
      obtain rfl := Except.ok.inj h
      exact eq_text_of_ofTrimmed? hread
  · rintro ⟨hplain, htrim⟩
    rw [htrim, ofTrimmed?_text hplain]

/-- White space around the text of a plain designation does not count. -/
theorem read_append (h : d.IsPlain) {lead trail : List Char}
    (hlead : ∀ c ∈ lead, isBlank c = true) (htrail : ∀ c ∈ trail, isBlank c = true) :
    read (String.ofList (lead ++ d.text.toList ++ trail)) = .ok d := by
  refine read_eq_ok_iff.mpr ⟨h, ?_⟩
  rw [String.toList_ofList, trim_append hlead h.isBlank_text htrail]

/-- A plain designation is read back from its text. -/
theorem read_text (h : d.IsPlain) : read d.text = .ok d :=
  read_eq_ok_iff.mpr ⟨h, trim_eq_self h.isBlank_text⟩

theorem read_name (hname : name ≠ "") (hchars : ∀ c ∈ name.toList, isNameChar c = true) :
    read name = .ok { kindName := name } :=
  read_text (d := { kindName := name }) ⟨hname, hchars, fun htag => absurd rfl htag⟩

/-- A name with a word behind a colon is read as that name with that tag. -/
theorem read_name_tag (hname : name ≠ "") (hchars : ∀ c ∈ name.toList, isNameChar c = true)
    (htag : IsWord tag) : read (name ++ ":" ++ tag) = .ok { kindName := name, tag } := by
  have htext : name ++ ":" ++ tag = text { kindName := name, tag } := (if_neg htag.1).symm
  rw [htext]
  exact read_text ⟨hname, hchars, fun _ => htag⟩

/-! ### The grammar of values -/

/-- What a value can be without white space around it: the name of a kind, or a name and a tag with
a colon between them. Both are words, and a name has no colon. -/
inductive Spells : List Char → Designation → Prop
  | bare {name : String} (hname : IsWord name) (hcolon : ':' ∉ name.toList) :
      Spells name.toList { kindName := name }
  | tagged {name tag : String} (hname : IsWord name) (hcolon : ':' ∉ name.toList)
      (htag : IsWord tag) : Spells (name.toList ++ ':' :: tag.toList) { kindName := name, tag }

/-- A value writes a designation: it spells it, but for white space around it. -/
def Writes (value : String) (d : Designation) : Prop :=
  ∃ lead cs trail, value.toList = lead ++ cs ++ trail ∧ (∀ c ∈ lead, isBlank c = true) ∧
    (∀ c ∈ trail, isBlank c = true) ∧ Spells cs d

theorem forall_isNameChar_iff {cs : List Char} :
    (∀ c ∈ cs, isNameChar c = true) ↔ ':' ∉ cs ∧ ∀ c ∈ cs, isBlank c = false := by
  simp only [isNameChar, Bool.and_eq_true, bne_iff_ne, Bool.not_eq_true', forall_and, ne_eq]
  refine and_congr_left' ⟨fun h hc => h _ hc rfl, ?_⟩
  rintro h c hc rfl
  exact h hc

/-- The text of a plain designation is its only spelling, and no other designation has one. -/
theorem spells_iff : Spells cs d ↔ d.IsPlain ∧ cs = d.text.toList := by
  constructor
  · rintro (⟨hname, hcolon⟩ | ⟨hname, hcolon, htag⟩)
    · refine ⟨⟨hname.1, forall_isNameChar_iff.mpr ⟨hcolon, hname.2⟩, fun h => absurd rfl h⟩, ?_⟩
      simp [toList_text]
    · refine ⟨⟨hname.1, forall_isNameChar_iff.mpr ⟨hcolon, hname.2⟩, fun _ => htag⟩, ?_⟩
      rw [toList_text, if_neg htag.1]
  · rintro ⟨hplain, rfl⟩
    obtain ⟨hcolon, hword⟩ := forall_isNameChar_iff.mp hplain.name
    rw [toList_text]
    obtain ⟨kindName, tag⟩ := d
    by_cases htag : tag = ""
    · subst htag
      rw [if_pos rfl, List.append_nil]
      exact .bare ⟨hplain.name_ne, hword⟩ hcolon
    · rw [if_neg htag]
      exact .tagged ⟨hplain.name_ne, hword⟩ hcolon (hplain.tag htag)

/-- What a value writes is the plain designation whose text is left when it is trimmed. -/
theorem writes_iff : Writes value d ↔ d.IsPlain ∧ trim value.toList = d.text.toList := by
  constructor
  · rintro ⟨lead, cs, trail, hvalue, hlead, htrail, hspells⟩
    obtain ⟨hplain, rfl⟩ := spells_iff.mp hspells
    exact ⟨hplain, hvalue ▸ trim_append hlead hplain.isBlank_text htrail⟩
  · rintro ⟨hplain, htrim⟩
    have hne : trim value.toList ≠ [] := by
      rw [htrim, toList_text]
      exact List.append_ne_nil_of_left_ne_nil (String.toList_eq_nil_iff.not.mpr hplain.name_ne) _
    exact ⟨_, _, _, eq_append_trim hne, fun c hc => List.mem_takeWhile_imp hc,
      fun c hc => List.mem_rtakeWhile_imp hc, spells_iff.mpr ⟨hplain, htrim⟩⟩

/-- A value is read as the designation that it writes. -/
theorem read_eq_ok_iff_writes : read value = .ok d ↔ Writes value d :=
  read_eq_ok_iff.trans writes_iff.symm

/-- A value writes one designation at most. -/
theorem Writes.unique {d' : Designation} (h : Writes value d) (h' : Writes value d') : d = d' :=
  Except.ok.inj ((read_eq_ok_iff_writes.mpr h).symm.trans (read_eq_ok_iff_writes.mpr h'))

/-- A value is malformed if it writes no designation, and can have no other fault. -/
theorem read_eq_error_iff {f : Fault} :
    read value = .error f ↔ (∀ d, ¬Writes value d) ∧ f = .malformedDesignation value := by
  simp only [← read_eq_ok_iff_writes]
  unfold read
  cases ofTrimmed? (trim value.toList) <;> simp [eq_comm]

/-- **The grammar of values.** A value is read as the designation that it writes, with white space
around it that does not count, and any other value is malformed. What can be written are the plain
designations, each by its text. So these are read back from their texts, in white space of any kind,
and no two of them have the same text. -/
theorem uniquely_readable :
    (∀ value d, read value = .ok d ↔ Writes value d) ∧
    (∀ value f, read value = .error f ↔
      (∀ d, ¬Writes value d) ∧ f = .malformedDesignation value ∧ f.category = .declaration) ∧
    (∀ d : Designation, d.IsPlain ↔ Spells d.text.toList d) ∧
    (∀ (d : Designation) (lead trail : List Char), d.IsPlain → (∀ c ∈ lead, isBlank c = true) →
      (∀ c ∈ trail, isBlank c = true) →
        read (String.ofList (lead ++ d.text.toList ++ trail)) = .ok d) ∧
    ∀ d d' : Designation, d.IsPlain → d'.IsPlain → d.text = d'.text → d = d' := by
  refine ⟨fun value d => read_eq_ok_iff_writes, fun value f => ?_, fun d => ?_,
    fun d lead trail hplain hlead htrail => read_append hplain hlead htrail,
    fun d d' hplain hplain' htext => eq_of_text_eq hplain.name hplain'.name htext⟩
  · rw [read_eq_error_iff]
    refine and_congr_right fun _ => ⟨?_, And.left⟩
    rintro rfl
    exact ⟨rfl, rfl⟩
  · rw [spells_iff, and_iff_left rfl]

/-- A tag may start and end with colons, and white space is more than blanks. -/
theorem uniquely_readable_colons :
    IsPlain ⟨"conv", ":a::"⟩ ∧
      (∀ c ∈ ['\u3000', '\n'], isBlank c = true) ∧ (∀ c ∈ ['\x1f', '\u0085'], isBlank c = true) ∧
      read (String.ofList (['\u3000', '\n'] ++ "conv::a::".toList ++ ['\x1f', '\u0085'])) =
        .ok ⟨"conv", ":a::"⟩ := by
  have hplain : IsPlain ⟨"conv", ":a::"⟩ :=
    ⟨by decide, List.all_eq_true.mp (by decide), fun _ => by decide⟩
  have hlead : ∀ c ∈ ['\u3000', '\n'], isBlank c = true := List.all_eq_true.mp (by decide)
  have htrail : ∀ c ∈ ['\x1f', '\u0085'], isBlank c = true := List.all_eq_true.mp (by decide)
  have hread := uniquely_readable.2.2.2.1 _ _ _ hplain hlead htrail
  have htext : text ⟨"conv", ":a::"⟩ = "conv::a::" := by decide
  rw [htext] at hread
  exact ⟨hplain, hlead, htrail, hread⟩

end NetPlan.Designation
