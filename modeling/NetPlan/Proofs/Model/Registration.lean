import NetPlan.Model.Registration
import NetPlan.Proofs.Model.Basic
import NetPlan.Proofs.Text.Blank

/-!
# Paths of parts

The path of a part is joined from the names on the way to it, so what holds of all names and
survives joining holds of all paths but that of the model itself, which is empty
(`Model.of_pathOf?`). In particular paths are words if names are (`Path.isWord_join`).
-/

namespace NetPlan

open Text

theorem Path.isWord_join {path name : String} (hpath : path = "" ∨ IsWord path)
    (hname : IsWord name) : IsWord (join path name) := by
  unfold join
  split
  · exact hname
  · rename_i hne
    have hdot : IsWord "." := by decide
    exact ((hpath.resolve_left hne).append hdot).append hname

namespace Model

variable {path : String} {m : Model} {listed : List (String × Model)}
  {children : List (String × Model)} {entry : String × Model} {Q : String → Prop}

/-- If each child only adds entries at paths of some sort, so do all of them. -/
theorem of_mem_registerAll
    (hregister : ∀ child ∈ children, ∀ listed,
      entry ∈ register (Path.join path child.1) listed child.2 → entry ∈ listed ∨ Q entry.1)
    (h : entry ∈ registerAll path listed children) : entry ∈ listed ∨ Q entry.1 := by
  induction children generalizing listed with
  | nil => exact .inl h
  | cons child rest ih =>
    rcases ih (fun other hother => hregister other (List.mem_cons_of_mem _ hother)) h with h | h
    · exact hregister child List.mem_cons_self listed h
    · exact .inr h

variable (hjoin : ∀ {path name : String}, path = "" ∨ Q path → Q name → Q (Path.join path name))
  (hnames : ∀ part ∈ m.parts, Q part.1)
include hjoin hnames

/-- A model enters itself at its path, and what stands below it at joined paths. -/
theorem of_mem_register (hpath : path = "" ∨ Q path) (h : entry ∈ register path listed m) :
    entry ∈ listed ∨ entry = (path, m) ∨ Q entry.1 := by
  induction m generalizing path listed with
  | leaf id op =>
    rw [register] at h
    split at h
    · exact .inl h
    · exact (List.mem_cons.mp h).elim (fun h => .inr (.inl h)) .inl
  | composite id wiring children ih =>
    rw [register] at h
    split at h
    · exact .inl h
    · have hchildren : ∀ child ∈ children, ∀ listed,
          entry ∈ register (Path.join path child.1) listed child.2 →
            entry ∈ listed ∨ Q entry.1 := by
        intro child hchild listed h
        have hjoined : Q (Path.join path child.1) :=
          hjoin hpath (hnames child (mem_parts_composite_iff.mpr (.inl hchild)))
        have hbelow : ∀ part ∈ child.2.parts, Q part.1 := fun part hpart =>
          hnames part (mem_parts_composite_iff.mpr (.inr ⟨child, hchild, hpart⟩))
        rcases ih child hchild hbelow (.inr hjoined) h with h | rfl | h
        · exact .inl h
        · exact .inr hjoined
        · exact .inr h
      rcases of_mem_registerAll hchildren h with h | h
      · exact (List.mem_cons.mp h).elim (fun h => .inr (.inl h)) .inl
      · exact .inr (.inr h)

/-- Whatever is registered and is not the model itself has a joined path. -/
theorem of_pathOf? {id : Nat} (hid : id ≠ m.id) (h : pathOf? m.registered id = some path) :
    Q path := by
  obtain ⟨⟨path', x⟩, hfind, rfl⟩ := Option.map_eq_some_iff.mp h
  have hx : x.id = id := by simpa using List.find?_some hfind
  have hmem := List.mem_reverse.mp (List.mem_of_find?_eq_some hfind)
  rcases of_mem_register hjoin hnames (.inl rfl) hmem with h | h | h
  · cases h
  · exact absurd (hx.symm.trans (congrArg (fun entry => entry.2.id) h)) hid
  · exact h

end Model

end NetPlan
