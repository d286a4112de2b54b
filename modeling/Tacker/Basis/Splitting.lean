import Mathlib.Tactic.Lemma
import Mathlib.Tactic.TypeStar
import Mathlib.Data.List.Infix

/-!
# Pieces of a split list

What the pieces have when a list is split at a separator: none of them has the separator, all they
have is from the list, and the list begins as its first piece and ends as its last one.
-/

namespace Tacker.Basis

variable {α : Type*} {sep x : α} {text piece pat first : List α} {rest : List (List α)}

/-! ## The ends of lists with a separator -/

/-- What comes before a separator begins as the whole does. -/
lemma prefix_before_sep (free : sep ∉ pat) : pat <+: first ++ sep :: piece ↔ pat <+: first := by
  constructor
  · intro pre
    have other : first ++ [sep] <+: first ++ sep :: piece := ⟨piece, by rw [← List.append_cons]⟩
    rcases List.prefix_or_prefix_of_prefix pre other with inside | around
    · rcases List.prefix_concat_iff.mp inside with rfl | inside
      · exact absurd (List.mem_append_right _ List.mem_cons_self) free
      · exact inside
    · exact absurd (around.subset (List.mem_append_right _ List.mem_cons_self)) free
  · exact fun pre => pre.trans (List.prefix_append _ _)

/-- What comes after a separator ends as the whole does. -/
lemma suffix_after_sep (free : sep ∉ pat) : pat <:+ first ++ sep :: piece ↔ pat <:+ piece := by
  constructor
  · intro suff
    have other : sep :: piece <:+ first ++ sep :: piece := List.suffix_append _ _
    rcases List.suffix_or_suffix_of_suffix suff other with inside | around
    · rcases List.suffix_cons_iff.mp inside with rfl | inside
      · exact absurd List.mem_cons_self free
      · exact inside
    · exact absurd (around.subset List.mem_cons_self) free
  · exact fun suff => suff.trans ((List.suffix_cons sep piece).trans (List.suffix_append _ _))

/-! ## The elements of pieces -/

variable [DecidableEq α]

lemma of_mem_splitOn (mem : piece ∈ text.splitOn sep) (inPiece : x ∈ piece) :
    x ∈ text ∧ x ≠ sep := by
  induction text generalizing piece with
  | nil =>
    obtain rfl := List.mem_singleton.mp mem
    cases inPiece
  | cons c text ih =>
    rw [List.splitOn_cons_eq_if_modifyHead] at mem
    by_cases isSep : c = sep
    · rw [if_pos (beq_iff_eq.mpr isSep)] at mem
      rcases List.mem_cons.mp mem with rfl | mem
      · cases inPiece
      · obtain ⟨inText, ne⟩ := ih mem inPiece
        exact ⟨List.mem_cons_of_mem c inText, ne⟩
    · rw [if_neg (by simpa using isSep)] at mem
      cases split : text.splitOn sep with
      | nil => exact absurd split (List.splitOn_ne_nil sep text)
      | cons first rest =>
        rw [split, List.modifyHead_cons] at mem
        rcases List.mem_cons.mp mem with rfl | mem
        · rcases List.mem_cons.mp inPiece with rfl | inFirst
          · exact ⟨List.mem_cons_self, isSep⟩
          · obtain ⟨inText, ne⟩ := ih (split ▸ List.mem_cons_self) inFirst
            exact ⟨List.mem_cons_of_mem c inText, ne⟩
        · obtain ⟨inText, ne⟩ := ih (split ▸ List.mem_cons_of_mem first mem) inPiece
          exact ⟨List.mem_cons_of_mem c inText, ne⟩

lemma mem_intercalate {pieces : List (List α)} (mem : x ∈ [sep].intercalate pieces) :
    x = sep ∨ ∃ piece ∈ pieces, x ∈ piece := by
  induction pieces with
  | nil => cases mem
  | cons piece pieces ih =>
    cases pieces with
    | nil =>
      rw [List.intercalate_singleton] at mem
      exact .inr ⟨piece, List.mem_cons_self, mem⟩
    | cons second rest =>
      rw [List.intercalate_cons_cons, List.append_assoc, List.mem_append] at mem
      rcases mem with here | later
      · exact .inr ⟨piece, List.mem_cons_self, here⟩
      · rcases List.mem_cons.mp later with isSep | later
        · exact .inl isSep
        · rcases ih later with isSep | ⟨piece', isPiece, inPiece⟩
          · exact .inl isSep
          · exact .inr ⟨piece', List.mem_cons_of_mem piece isPiece, inPiece⟩

/-! ## The first and the last piece -/

/-- A list begins as its first piece does. -/
lemma prefix_splitOn (split : text.splitOn sep = first :: rest) (free : sep ∉ pat) :
    pat <+: first ↔ pat <+: text := by
  have whole : [sep].intercalate (text.splitOn sep) = text := List.intercalate_splitOn sep
  rw [← whole, split]
  cases rest with
  | nil => rw [List.intercalate_singleton]
  | cons second rest =>
    rw [List.intercalate_cons_cons, List.append_assoc, List.singleton_append]
    exact (prefix_before_sep free).symm

/-- A list ends as its last piece does. -/
lemma suffix_splitOn (free : sep ∉ pat) :
    pat <:+ (text.splitOn sep).getLastD [] ↔ pat <:+ text := by
  have last : ∀ pieces : List (List α), pieces ≠ [] →
      (pat <:+ pieces.getLastD [] ↔ pat <:+ [sep].intercalate pieces) := by
    intro pieces ne
    induction pieces with
    | nil => exact absurd rfl ne
    | cons piece pieces ih =>
      cases pieces with
      | nil => rw [List.intercalate_singleton]; rfl
      | cons second rest =>
        rw [List.intercalate_cons_cons, List.append_assoc, List.singleton_append,
          suffix_after_sep free]
        exact ih (List.cons_ne_nil second rest)
  rw [last _ (List.splitOn_ne_nil sep text), List.intercalate_splitOn]

end Tacker.Basis
