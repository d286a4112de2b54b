import Mathlib.Data.List.Basic
import Mathlib.Logic.Function.Basic

/-!
# Self-delimiting codes

Codes that tell the value in front of any text, for numbers, texts and pairs of them.
-/

namespace Tacker.Basis

variable {α β γ : Type*} {code : α → List Char} {code' : β → List Char}

/-- A code in front of a text tells the value and the text. -/
structure SelfDelimiting (code : α → List Char) : Prop where
  read : ∀ {a a' rest rest'}, code a ++ rest = code a' ++ rest' → a = a' ∧ rest = rest'

/-- A number, as a row of ones. -/
def codeNat : Nat → List Char
  | 0 => ['0']
  | n + 1 => '1' :: codeNat n

/-- A text, each character with a mark in front. -/
def codeText : List Char → List Char
  | [] => ['0']
  | c :: cs => '1' :: c :: codeText cs

/-- A pair, one code after the other. -/
def codePair (code : α → List Char) (code' : β → List Char) (p : α × β) : List Char :=
  code p.1 ++ code' p.2

lemma selfDelimiting_codeNat : SelfDelimiting codeNat := by
  refine ⟨?_⟩
  intro n
  induction n with
  | zero =>
    intro n' rest rest' eq
    cases n' with
    | zero => exact ⟨rfl, (List.cons.inj eq).2⟩
    | succ n' => exact absurd (List.cons.inj eq).1 (by decide)
  | succ n ih =>
    intro n' rest rest' eq
    cases n' with
    | zero => exact absurd (List.cons.inj eq).1 (by decide)
    | succ n' =>
      obtain ⟨rfl, same⟩ := ih (List.cons.inj eq).2
      exact ⟨rfl, same⟩

lemma selfDelimiting_codeText : SelfDelimiting codeText := by
  refine ⟨?_⟩
  intro cs
  induction cs with
  | nil =>
    intro cs' rest rest' eq
    cases cs' with
    | nil => exact ⟨rfl, (List.cons.inj eq).2⟩
    | cons c' cs' => exact absurd (List.cons.inj eq).1 (by decide)
  | cons c cs ih =>
    intro cs' rest rest' eq
    cases cs' with
    | nil => exact absurd (List.cons.inj eq).1 (by decide)
    | cons c' cs' =>
      obtain ⟨rfl, behind⟩ := List.cons.inj (List.cons.inj eq).2
      obtain ⟨rfl, same⟩ := ih behind
      exact ⟨rfl, same⟩

lemma SelfDelimiting.pair (first : SelfDelimiting code) (second : SelfDelimiting code') :
    SelfDelimiting (codePair code code') := by
  refine ⟨?_⟩
  rintro ⟨a, b⟩ ⟨a', b'⟩ rest rest' eq
  simp only [codePair, List.append_assoc] at eq
  obtain ⟨rfl, behind⟩ := first.read eq
  obtain ⟨rfl, same⟩ := second.read behind
  exact ⟨rfl, same⟩

/-- The values may be named by others. -/
lemma SelfDelimiting.comp (delimiting : SelfDelimiting code) {name : γ → α}
    (injective : Function.Injective name) : SelfDelimiting fun c => code (name c) := by
  refine ⟨?_⟩
  intro c c' rest rest' eq
  obtain ⟨same, eq⟩ := delimiting.read eq
  exact ⟨injective same, eq⟩

/-- No code is the beginning of another one. -/
lemma SelfDelimiting.eq_of_isPrefix (delimiting : SelfDelimiting code) {a a' : α}
    (begins : code a <+: code a') : a = a' := by
  obtain ⟨rest, eq⟩ := begins
  rw [← List.append_nil (code a')] at eq
  exact (delimiting.read eq).1

end Tacker.Basis
