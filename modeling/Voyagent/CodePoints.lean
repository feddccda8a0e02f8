import Mathlib.Data.List.Forall2

/-!
# Texts as code points

Python strings, in which the code points of surrogates may stand alone, and
texts cut at a separator.
-/

namespace Voyagent.CodePoints

/-- Code points of a Python string. -/
abbrev Text : Type := List Nat

def codePoints (s : String) : Text := s.toList.map Char.toNat

def isSurrogate (c : Nat) : Bool := 0xD800 ≤ c && c ≤ 0xDFFF

/-- The part in front of the first separator and what follows it. -/
def splitOnce (sep : Nat) : Text → Text × Option Text
  | [] => ([],none)
  | c::cs => if c=sep then ([],some cs) else (c::(splitOnce sep cs).1,(splitOnce sep cs).2)

variable {sep : Nat} {part rest cs : Text}

theorem splitOnce_append (h : sep∉part) : splitOnce sep (part++sep::rest)=(part,some rest) := by
  induction part with
  | nil => simp [splitOnce]
  | cons c cs ih =>
    obtain ⟨hc,hcs⟩ := not_or.mp (mt List.mem_cons.mpr h)
    simp [splitOnce,Ne.symm hc,ih hcs]

/-- A text that was cut is its parts, the first of them without the separator. -/
theorem splitOnce_eq (h : splitOnce sep cs=(part,some rest)) : cs=part++sep::rest ∧ sep∉part := by
  induction cs generalizing part with
  | nil => cases h
  | cons c cs ih =>
    unfold splitOnce at h
    split at h
    · rename_i hc
      cases h
      rw [hc]
      exact ⟨rfl,List.not_mem_nil⟩
    · rename_i hc
      obtain ⟨rfl,hrest⟩ := Prod.mk.inj h
      obtain ⟨heq,hpart⟩ := ih (Prod.ext rfl hrest)
      rw [List.cons_append,← heq]
      exact ⟨rfl,fun hmem => (List.mem_cons.mp hmem).elim (fun he => hc he.symm) hpart⟩

/-- What stands around one part of a joined text does not depend on the part. -/
theorem intercalate_around (before after : List Text) :
    ∃ pre post : Text,∀ part,[sep].intercalate (before++part::after)=pre++(part++post) := by
  induction before with
  | nil =>
    cases after with
    | nil => exact ⟨[],[],fun part => by simp [List.intercalate]⟩
    | cons next after =>
      refine ⟨[],sep::[sep].intercalate (next::after),fun part => ?_⟩
      simp [List.intercalate]
  | cons first before ih =>
    obtain ⟨pre,post,heq⟩ := ih
    refine ⟨first++sep::pre,post,fun part => ?_⟩
    have hcons : [sep].intercalate (first::(before++part::after))=
        first++sep::[sep].intercalate (before++part::after) := by
      cases before <;> simp [List.intercalate,List.intersperse]
    rw [List.cons_append,hcons,heq,List.append_assoc,List.cons_append]

/-- The parts of a text have no separator. -/
theorem notMem_of_mem_splitOn {text : Text} (h : part∈text.splitOn sep) : sep∉part := by
  induction text generalizing part with
  | nil =>
    rw [List.splitOn_nil,List.mem_singleton] at h
    simp [h]
  | cons x text ih =>
    rw [List.splitOn_cons_eq_if_modifyHead] at h
    split at h
    · rcases List.mem_cons.mp h with rfl|h
      · exact List.not_mem_nil
      · exact ih h
    · rename_i hx
      cases hparts : text.splitOn sep with
      | nil => exact absurd hparts (List.splitOn_ne_nil sep text)
      | cons first parts =>
        rw [hparts,List.modifyHead_cons] at h
        rcases List.mem_cons.mp h with rfl|h
        · have hfirst : sep∉first := ih (hparts ▸ List.mem_cons_self)
          exact fun hmem => (List.mem_cons.mp hmem).elim (fun heq => hx (by simp [heq])) hfirst
        · exact ih (hparts ▸ List.mem_cons_of_mem first h)

end Voyagent.CodePoints
