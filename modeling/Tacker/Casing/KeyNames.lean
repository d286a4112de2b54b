import Mathlib
import Tacker.Basis.Regex

/-!
# Names of keys

`convert_string_to_snakecase` of `common/utils.py` and the way back. The first inserts underscores in
two substitutions and makes all letters small; what they do together is told by the place of each
capital: it gets an underscore if a small letter or a digit is before it or a small letter is behind
it. `lower` and `upper` are those of ASCII texts.
-/

namespace Tacker.Casing

open Tacker.Basis Regex

/-! ## Conversion -/

/-- `[a-z0-9]`. -/
def isLowerOrDigit (c : Char) : Bool := c.isLower || c.isDigit

/-- `(.)([A-Z][a-z]+)`. -/
def wordRe : Regex :=
  .seq (.group 1 (.char (· != '\n')))
    (.group 2 (.seq (.char Char.isUpper) (.plus (.char Char.isLower))))

/-- `([a-z0-9])([A-Z])`. -/
def capitalRe : Regex :=
  .seq (.group 1 (.char isLowerOrDigit)) (.group 2 (.char Char.isUpper))

/-- `\1_\2`. -/
def underscored (text : List Char) (m : Scan) : List Char :=
  m.group text 1 ++ '_' :: m.group text 2

/-- `convert_string_to_snakecase`. -/
def convertStringToSnakecase (name : String) : String :=
  let nameWithUnderscores := wordRe.sub underscored name.toList
  String.ofList ((capitalRe.sub underscored nameWithUnderscores).map Char.toLower)

/-- `_([a-z])`. -/
def underscoreRe : Regex :=
  .seq (.lit '_') (.group 1 (.char Char.isLower))

/-- `match.group(1).upper()`. -/
def capitalised (text : List Char) (m : Scan) : List Char :=
  (m.group text 1).map Char.toUpper

/-- `convert` of `convert_snakecase_to_camelcase`. -/
def convert (name : String) : String :=
  String.ofList (underscoreRe.sub capitalised name.toList)

/-- `camelcase`: a key that starts with an underscore stays. -/
def camelcase (key : String) : String :=
  if key.toList.head? = some '_' then key else convert key

/-! ## Matches -/

variable {c d u : Char} {cs t run rest : List Char}

lemma consumes_capitalRe : [] ∉ capitalRe.lang := by
  intro mem
  obtain ⟨w, ⟨c, -, rfl⟩, v, -, eq⟩ := mem_lang_seq.mp mem
  cases eq

lemma consumes_wordRe : [] ∉ wordRe.lang := by
  intro mem
  obtain ⟨w, ⟨c, -, rfl⟩, v, -, eq⟩ := mem_lang_seq.mp mem
  cases eq

lemma consumes_underscoreRe : [] ∉ underscoreRe.lang := by
  intro mem
  obtain ⟨w, ⟨c, -, rfl⟩, v, -, eq⟩ := mem_lang_seq.mp mem
  cases eq

lemma capitalRe_match (small : isLowerOrDigit c = true) (upper : u.isUpper = true) :
    ∃ m, capitalRe.match? (c :: u :: t) = some m ∧ m.rest = t ∧
      underscored (c :: u :: t) m = [c, '_', u] := by
  refine ⟨⟨2, t, Function.update (Function.update (fun _ => none) 1 (some (0, 1))) 2
    (some (1, 2))⟩, ?_, rfl, rfl⟩
  simp only [capitalRe, match?, results, small, upper, if_true, List.map_cons, List.map_nil,
    List.flatMap_singleton, List.head?_cons]

/-- Without a capital behind it nothing is matched. -/
lemma capitalRe_other
    (other : ¬ (isLowerOrDigit c = true ∧ ∃ u t, cs = u :: t ∧ u.isUpper = true)) :
    capitalRe.match? (c :: cs) = none := by
  rw [match?, results_eq_nil]
  · rfl
  · intro w inLang tail eq
    obtain ⟨w₁, ⟨c', small, rfl⟩, w₂, ⟨u, upper, rfl⟩, rfl⟩ := mem_lang_seq.mp inLang
    obtain ⟨rfl, rest⟩ := List.cons.inj eq
    exact other ⟨small, u, tail, rest, upper⟩

lemma underscoreRe_match (lower : d.isLower = true) :
    ∃ m, underscoreRe.match? ('_' :: d :: t) = some m ∧ m.rest = t ∧
      capitalised ('_' :: d :: t) m = [d.toUpper] := by
  refine ⟨⟨2, t, Function.update (fun _ => none) 1 (some (1, 2))⟩, ?_, rfl, rfl⟩
  simp only [underscoreRe, match?, results, lit, beq_self_eq_true, lower, if_true, List.map_cons,
    List.map_nil, List.flatMap_singleton, List.head?_cons]

lemma underscoreRe_other (other : c ≠ '_') : underscoreRe.match? (c :: t) = none := by
  rw [match?, results_eq_nil]
  · rfl
  · intro w inLang tail eq
    obtain ⟨w₁, isLit, w₂, -, rfl⟩ := mem_lang_seq.mp inLang
    rw [mem_lang_lit.mp isLit] at eq
    exact other (List.cons.inj eq).1

/-- The longest run of small letters is matched. -/
lemma wordRe_match (noNewline : c ≠ '\n') (upper : u.isUpper = true) (nonempty : run ≠ [])
    (lower : ∀ d ∈ run, d.isLower = true) (ends : ∀ d ∈ rest.head?, d.isLower = false) :
    ∃ m, wordRe.match? (c :: u :: (run ++ rest)) = some m ∧ m.rest = rest ∧
      underscored (c :: u :: (run ++ rest)) m = c :: '_' :: u :: run := by
  have noNewline' : (c != '\n') = true := bne_iff_ne.mpr noNewline
  let groups : Nat → Option (Nat × Nat) := Function.update (fun _ => none) 1 (some (0, 1))
  -- the letters after the capital, as far as they go
  have letters : ∃ st',
      ((Regex.plus (.char Char.isLower)).results ⟨2, run ++ rest, groups⟩).head? = some st' ∧
        st'.rest = rest := by
    have split : run ++ rest = (run.map fun d => [d]).flatten ++ rest := by
      rw [← List.flatMap_def, List.flatMap_singleton']
    apply head?_plus ⟨2, run ++ rest, groups⟩ deterministic_char
      (fun none => nonempty (List.map_eq_nil_iff.mp none)) ?_ split ?_
    · intro part mem
      obtain ⟨d, isLetter, rfl⟩ := List.mem_map.mp mem
      exact ⟨⟨d, lower d isLetter, rfl⟩, List.cons_ne_nil d []⟩
    · intro st' atRest
      apply results_eq_nil
      rintro w ⟨d, isLower, rfl⟩ tail eq
      rw [atRest] at eq
      have notLower := ends d (by rw [eq]; rfl)
      rw [isLower] at notLower
      cases notLower
  obtain ⟨st', first, atRest⟩ := letters
  have mem := List.mem_of_head? first
  obtain ⟨w, -, eq, pos⟩ := results_lang mem
  have isRun : w = run := by
    rw [atRest] at eq
    exact (List.append_cancel_right eq).symm
  have group1 : st'.groups 1 = some (0, 1) := groups_of_not_mem mem List.not_mem_nil
  refine ⟨{ st' with groups := Function.update st'.groups 2 (some (1, st'.pos)) }, ?_, atRest, ?_⟩
  · simp only [wordRe, match?]
    rw [results, results, results]
    simp only [noNewline', if_true, List.map_cons, List.map_nil, List.flatMap_singleton]
    rw [results, results, results]
    simp only [upper, if_true, List.flatMap_singleton]
    rw [List.head?_map, first]
    rfl
  · have first : c :: u :: (run ++ rest) = [] ++ ([c] ++ u :: (run ++ rest)) := rfl
    have behind : c :: u :: (run ++ rest) = [c] ++ (u :: run ++ rest) := rfl
    have before : slice (c :: u :: (run ++ rest)) 0 1 = [c] := slice_eq [] first rfl rfl
    have word : slice (c :: u :: (run ++ rest)) 1 st'.pos = u :: run := by
      apply slice_eq [c] behind rfl
      rw [pos, isRun, List.length_cons]
      exact (Nat.add_assoc 1 1 _).trans (congrArg (1 + ·) (Nat.add_comm 1 _))
    have span1 : (Function.update st'.groups 2 (some (1, st'.pos)) 1).getD (0, 0) = (0, 1) := by
      rw [Function.update_of_ne (by decide), group1]
      rfl
    have span2 : (Function.update st'.groups 2 (some (1, st'.pos)) 2).getD (0, 0) =
        (1, st'.pos) := by
      rw [Function.update_self]
      rfl
    rw [underscored, Scan.group, Scan.group, Scan.span, Scan.span]
    show slice _ (Option.getD _ (0, 0)).1 (Option.getD _ (0, 0)).2 ++
      '_' :: slice _ (Option.getD _ (0, 0)).1 (Option.getD _ (0, 0)).2 = _
    rw [span1, span2, before, word]
    rfl

lemma wordRe_other
    (other : ¬ ∃ u d t, cs = u :: d :: t ∧ u.isUpper = true ∧ d.isLower = true) :
    wordRe.match? (c :: cs) = none := by
  rw [match?, results_eq_nil]
  · rfl
  · intro w inLang tail eq
    obtain ⟨w₁, ⟨c', -, rfl⟩, w₂, isWord, rfl⟩ := mem_lang_seq.mp inLang
    obtain ⟨w₃, ⟨u, upper, rfl⟩, w₄, isRun, rfl⟩ := mem_lang_seq.mp isWord
    obtain ⟨nonempty, lower⟩ := mem_lang_plus_char.mp isRun
    obtain ⟨d, run, rfl⟩ := List.exists_cons_of_ne_nil nonempty
    obtain ⟨rfl, rest⟩ := List.cons.inj eq
    exact other ⟨u, d, run ++ tail, rest, upper, lower d List.mem_cons_self⟩

/-! ## Underscores -/

/-- A capital begins a word if a small letter or a digit is before it or a small letter is behind
it. -/
def beginsWord (prev c : Char) (next : List Char) : Bool :=
  c.isUpper && (isLowerOrDigit prev || next.head?.any Char.isLower)

/-- The text behind a character, with an underscore before each capital that begins a word. -/
def spelled : Char → List Char → List Char
  | _, [] => []
  | prev, c :: cs =>
    if beginsWord prev c cs = true then '_' :: c :: spelled c cs else c :: spelled c cs

lemma not_isLowerOrDigit (upper : u.isUpper = true) : isLowerOrDigit u = false := by
  have notDigit : u.isDigit = false := by
    rw [Bool.eq_false_iff]
    intro digit
    simp only [Char.isUpper, Char.isDigit, Bool.and_eq_true, decide_eq_true_iff, ge_iff_le,
      UInt32.le_iff_toNat_le, UInt32.reduceToNat, Char.reduceVal] at upper digit
    omega
  rw [isLowerOrDigit, notDigit, Bool.or_false, Bool.eq_false_iff]
  exact Char.not_isLower_of_isUpper upper

lemma isLowerOrDigit_of_isLower (lower : d.isLower = true) : isLowerOrDigit d = true := by
  rw [isLowerOrDigit, lower, Bool.true_or]

lemma not_isUpper_of_isLower (lower : d.isLower = true) : d.isUpper = false :=
  Bool.eq_false_iff.mpr (Char.not_isUpper_of_isLower lower)

/-- A character is copied by the second substitution, with an underscore behind it where a capital
follows a small letter or a digit. -/
lemma capitalRe_sub (c : Char) (cs : List Char) :
    capitalRe.sub underscored (c :: cs) =
      c :: if isLowerOrDigit c = true ∧ cs.head?.any Char.isUpper = true
        then '_' :: capitalRe.sub underscored cs else capitalRe.sub underscored cs := by
  by_cases here : isLowerOrDigit c = true ∧ cs.head?.any Char.isUpper = true
  · rw [if_pos here]
    obtain ⟨small, behind⟩ := here
    cases cs with
    | nil => cases behind
    | cons u t =>
      have upper : u.isUpper = true := behind
      obtain ⟨m, found, rfl, put⟩ := capitalRe_match (t := t) small upper
      have alone : capitalRe.sub underscored (u :: m.rest) =
          u :: capitalRe.sub underscored m.rest := by
        apply sub_copy
        apply capitalRe_other
        rw [not_isLowerOrDigit upper]
        rintro ⟨eq, -⟩
        cases eq
      rw [sub_replace consumes_capitalRe found, put, alone]
      rfl
  · rw [if_neg here]
    apply sub_copy
    apply capitalRe_other
    rintro ⟨small, u, t, rfl, upper⟩
    exact here ⟨small, upper⟩

/-- A run of small letters is copied by it. -/
lemma capitalRe_sub_run (lower : ∀ d ∈ run, d.isLower = true) (nonempty : run ≠ []) :
    capitalRe.sub underscored (run ++ rest) =
      run ++ if rest.head?.any Char.isUpper = true then '_' :: capitalRe.sub underscored rest
        else capitalRe.sub underscored rest := by
  induction run with
  | nil => exact absurd rfl nonempty
  | cons d run ih =>
    obtain ⟨first, others⟩ := List.forall_mem_cons.mp lower
    rw [List.cons_append, capitalRe_sub]
    cases run with
    | nil =>
      rw [List.nil_append]
      by_cases upper : rest.head?.any Char.isUpper = true
      · rw [if_pos ⟨isLowerOrDigit_of_isLower first, upper⟩, if_pos upper]
        rfl
      · rw [if_neg (fun both => upper both.2), if_neg upper]
        rfl
    | cons e run =>
      have notUpper : ¬ ((e :: run ++ rest).head?.any Char.isUpper = true) := by
        show ¬ (e.isUpper = true)
        rw [not_isUpper_of_isLower (others e List.mem_cons_self)]
        exact Bool.false_ne_true
      rw [if_neg (fun both => notUpper both.2), ih others (List.cons_ne_nil e run)]
      rfl

/-- A word that begins behind a character is set apart by the first substitution. -/
lemma wordRe_sub_word (noNewline : c ≠ '\n') (upper : u.isUpper = true) (nonempty : run ≠ [])
    (lower : ∀ d ∈ run, d.isLower = true) (ends : ∀ d ∈ rest.head?, d.isLower = false) :
    wordRe.sub underscored (c :: u :: (run ++ rest)) =
      c :: '_' :: u :: (run ++ wordRe.sub underscored rest) := by
  obtain ⟨m, found, rfl, put⟩ := wordRe_match noNewline upper nonempty lower ends
  rw [sub_replace consumes_wordRe found, put]
  rfl

/-- A word begins behind a character, or does not. -/
lemma word_or_not (cs : List Char) :
    (∃ u run rest, cs = u :: (run ++ rest) ∧ u.isUpper = true ∧ run ≠ [] ∧
      (∀ d ∈ run, d.isLower = true) ∧ ∀ d ∈ rest.head?, d.isLower = false) ∨
    ¬ ∃ u d t, cs = u :: d :: t ∧ u.isUpper = true ∧ d.isLower = true := by
  by_cases word : ∃ u d t, cs = u :: d :: t ∧ u.isUpper = true ∧ d.isLower = true
  · obtain ⟨u, d, t, rfl, upper, lower⟩ := word
    refine .inl ⟨u, (d :: t).takeWhile Char.isLower, (d :: t).dropWhile Char.isLower, ?_, upper, ?_,
      ?_, ?_⟩
    · rw [List.takeWhile_append_dropWhile]
    · rw [List.takeWhile_cons, if_pos lower]
      exact List.cons_ne_nil _ _
    · intro e mem
      exact List.mem_takeWhile_imp mem
    · intro e mem
      have ends := List.head?_dropWhile_not Char.isLower (d :: t)
      rw [Option.mem_def.mp mem] at ends
      exact ends
  · exact .inr word

lemma head?_wordRe_sub (noNewline : c ≠ '\n') :
    (wordRe.sub underscored (c :: cs)).head? = some c := by
  rcases word_or_not cs with ⟨u, run, rest, rfl, upper, nonempty, lower, ends⟩ | other
  · rw [wordRe_sub_word noNewline upper nonempty lower ends]
    rfl
  · rw [sub_copy (wordRe_other other)]
    rfl

/-- In a run of small letters nothing is spelled otherwise. -/
lemma spelled_run (prev : Char) (lower : ∀ d ∈ run, d.isLower = true) (nonempty : run ≠ []) :
    spelled prev (run ++ rest) = run ++ spelled (run.getLast nonempty) rest := by
  induction run generalizing prev with
  | nil => exact absurd rfl nonempty
  | cons d run ih =>
    obtain ⟨first, others⟩ := List.forall_mem_cons.mp lower
    have plain : beginsWord prev d (run ++ rest) = false := by
      rw [beginsWord, not_isUpper_of_isLower first, Bool.false_and]
    rw [List.cons_append, spelled, plain, if_neg Bool.false_ne_true]
    cases run with
    | nil => rfl
    | cons e run =>
      rw [ih d others (List.cons_ne_nil e run), List.getLast_cons (List.cons_ne_nil e run)]
      rfl

/-- Both substitutions together put an underscore before each capital that begins a word. -/
theorem underscores_eq (c : Char) (cs : List Char) (noNewline : '\n' ∉ c :: cs) :
    capitalRe.sub underscored (wordRe.sub underscored (c :: cs)) = c :: spelled c cs := by
  induction length : cs.length using Nat.strongRecOn generalizing c cs with
  | ind n ih =>
    subst length
    have first : c ≠ '\n' := fun eq => noNewline (eq ▸ List.mem_cons_self)
    have others : '\n' ∉ cs := fun mem => noNewline (List.mem_cons_of_mem c mem)
    rcases word_or_not cs with ⟨u, run, rest, rfl, upper, nonempty, lower, ends⟩ | other
    · have begins : beginsWord c u (run ++ rest) = true := by
        obtain ⟨d, run, rfl⟩ := List.exists_cons_of_ne_nil nonempty
        rw [beginsWord, upper, List.cons_append, List.head?_cons, Option.any_some,
          lower d List.mem_cons_self, Bool.or_true, Bool.and_true]
      have alone : ¬ (isLowerOrDigit u = true ∧
          (run ++ wordRe.sub underscored rest).head?.any Char.isUpper = true) := fun both => by
        rw [not_isLowerOrDigit upper] at both
        cases both.1
      rw [wordRe_sub_word first upper nonempty lower ends, capitalRe_sub,
        if_neg (fun both => Bool.false_ne_true both.2), capitalRe_sub,
        if_neg (fun both => Bool.false_ne_true both.1), capitalRe_sub, if_neg alone,
        capitalRe_sub_run lower nonempty, spelled, if_pos begins, spelled_run u lower nonempty]
      cases rest with
      | nil =>
        rw [sub_nil, List.head?_nil, Option.any_none, if_neg Bool.false_ne_true]
        rfl
      | cons r rs =>
        have notNewline : r ≠ '\n' := by
          rintro rfl
          exact others (List.mem_cons_of_mem u (List.mem_append_right run List.mem_cons_self))
        have others : '\n' ∉ r :: rs := fun mem =>
          others (List.mem_cons_of_mem u (List.mem_append_right run mem))
        have shorter : rs.length < (u :: (run ++ r :: rs)).length := by
          rw [List.length_cons, List.length_append, List.length_cons]
          omega
        have last : isLowerOrDigit (run.getLast nonempty) = true :=
          isLowerOrDigit_of_isLower (lower _ (List.getLast_mem nonempty))
        rw [head?_wordRe_sub notNewline, ih rs.length shorter r rs others rfl, spelled, beginsWord,
          last, Bool.true_or, Bool.and_true, Option.any_some]
    · rw [sub_copy (wordRe_other other), capitalRe_sub]
      cases cs with
      | nil =>
        rw [sub_nil, if_neg (fun both => Bool.false_ne_true both.2)]
        rfl
      | cons d ds =>
        have notNewline : d ≠ '\n' := fun eq => others (eq ▸ List.mem_cons_self)
        rw [head?_wordRe_sub notNewline, ih ds.length (Nat.lt_succ_self _) d ds others rfl, spelled,
          Option.any_some]
        have same : beginsWord c d ds = true ↔ isLowerOrDigit c = true ∧ d.isUpper = true := by
          rw [beginsWord, Bool.and_eq_true, Bool.or_eq_true]
          constructor
          · rintro ⟨upper, small | lower⟩
            · exact ⟨small, upper⟩
            · cases ds with
              | nil => cases lower
              | cons e ds => exact absurd ⟨d, e, ds, rfl, upper, lower⟩ other
          · rintro ⟨small, upper⟩
            exact ⟨upper, .inl small⟩
        by_cases begins : beginsWord c d ds = true
        · rw [if_pos begins, if_pos (same.mp begins)]
        · rw [if_neg begins, if_neg (fun both => begins (same.mpr both))]

/-! ## There and back -/

/-- A small letter, then letters and digits. -/
def isLowerCamelcase (name : List Char) : Bool :=
  name.head?.any Char.isLower && name.all Char.isAlphanum

/-- No capital stands behind another one, except where a small letter is behind it. -/
def capitalsApart : List Char → Bool
  | prev :: c :: cs =>
    !(prev.isUpper && c.isUpper && !cs.head?.any Char.isLower) && capitalsApart (c :: cs)
  | _ => true

/-- The text behind a character, with the capitals that begin no word made small. -/
def recased : Char → List Char → List Char
  | _, [] => []
  | prev, c :: cs => (if beginsWord prev c cs = true then c else c.toLower) :: recased c cs

lemma isAlphanum_toLower (alphanum : c.isAlphanum = true) : c.toLower.isAlphanum = true := by
  rcases Bool.or_eq_true_iff.mp alphanum with alpha | digit
  · rw [Char.isAlphanum, Char.isAlpha_toLower_eq_isAlpha, alpha, Bool.true_or]
  · by_cases upper : c.isUpper = true
    · have small := not_isLowerOrDigit upper
      rw [isLowerOrDigit, digit, Bool.or_true] at small
      cases small
    · rw [Char.toLower_eq_of_not_isUpper upper, alphanum]

lemma isLowerOrDigit_iff (alphanum : c.isAlphanum = true) :
    isLowerOrDigit c = true ↔ ¬ c.isUpper = true := by
  constructor
  · intro small upper
    rw [not_isLowerOrDigit upper] at small
    cases small
  · intro notUpper
    rw [Char.isAlphanum, Char.isAlpha, Bool.eq_false_iff.mpr notUpper, Bool.false_or] at alphanum
    exact alphanum

lemma ne_of_isAlphanum {d : Char} (alphanum : c.isAlphanum = true) (other : d.isAlphanum = false) :
    c ≠ d := by
  rintro rfl
  rw [other] at alphanum
  cases alphanum

/-- What the way back makes of the spelled text. -/
lemma underscoreRe_sub_spelled (prev : Char) (alphanum : ∀ c ∈ cs, c.isAlphanum = true) :
    underscoreRe.sub capitalised ((spelled prev cs).map Char.toLower) = recased prev cs := by
  induction cs generalizing prev with
  | nil => rfl
  | cons c cs ih =>
    obtain ⟨first, others⟩ := List.forall_mem_cons.mp alphanum
    rw [spelled, recased]
    by_cases begins : beginsWord prev c cs = true
    · have upper : c.isUpper = true := (Bool.and_eq_true_iff.mp begins).1
      have lower : c.toLower.isLower = true := by
        rw [Char.isLower_toLower_eq_isAlpha, Char.isAlpha, upper, Bool.true_or]
      have kept : c.toUpper = c := Char.toUpper_eq_of_not_isLower (Char.not_isLower_of_isUpper upper)
      obtain ⟨m, found, rest, put⟩ :=
        underscoreRe_match (t := (spelled c cs).map Char.toLower) lower
      rw [if_pos begins, if_pos begins, List.map_cons, List.map_cons]
      show underscoreRe.sub capitalised ('_' :: c.toLower :: (spelled c cs).map Char.toLower) = _
      rw [sub_replace consumes_underscoreRe found, put, rest, ih c others,
        Char.toUpper_toLower_eq_toUpper, kept]
      rfl
    · have noUnderscore : c.toLower ≠ '_' := ne_of_isAlphanum (isAlphanum_toLower first) rfl
      rw [if_neg begins, if_neg begins, List.map_cons, sub_copy (underscoreRe_other noUnderscore),
        ih c others]

/-- Nothing is made small exactly if all capitals begin words or stand apart. -/
lemma recased_eq_iff {prev : Char} (alphanum : ∀ c ∈ prev :: cs, c.isAlphanum = true) :
    recased prev cs = cs ↔ capitalsApart (prev :: cs) = true := by
  induction cs generalizing prev with
  | nil => exact ⟨fun _ => rfl, fun _ => rfl⟩
  | cons c cs ih =>
    obtain ⟨first, others⟩ := List.forall_mem_cons.mp alphanum
    rw [recased, capitalsApart, List.cons.injEq, ih others, Bool.and_eq_true]
    apply and_congr_left
    intro _
    rw [Bool.not_eq_true', Bool.eq_false_iff, beginsWord]
    by_cases upper : c.isUpper = true
    · have changed : c.toLower ≠ c := fun same => by
        have notUpper := Char.isUpper_toLower_eq_false c
        rw [same, upper] at notUpper
        cases notUpper
      rw [upper, Bool.true_and, Bool.and_true]
      by_cases begins : (isLowerOrDigit prev || cs.head?.any Char.isLower) = true
      · rw [if_pos begins]
        refine ⟨fun _ both => ?_, fun _ => rfl⟩
        obtain ⟨prevUpper, ends⟩ := Bool.and_eq_true_iff.mp both
        rcases Bool.or_eq_true_iff.mp begins with small | lower
        · exact (isLowerOrDigit_iff first).mp small prevUpper
        · rw [lower] at ends
          cases ends
      · rw [if_neg begins]
        refine ⟨fun same => absurd same changed, fun apart => absurd ?_ apart⟩
        rw [Bool.or_eq_true, not_or, isLowerOrDigit_iff first, not_not] at begins
        rw [begins.1, Bool.true_and, Bool.not_eq_true', Bool.eq_false_iff]
        exact begins.2
    · rw [Char.toLower_eq_of_not_isUpper upper, Bool.eq_false_iff.mpr upper, ite_self]
      refine ⟨fun _ => ?_, fun _ => rfl⟩
      rw [Bool.and_false, Bool.false_and]
      exact Bool.false_ne_true

/-- What was made small stays apart. -/
lemma capitalsApart_recased {prev prev' : Char} (alphanum : ∀ c ∈ prev :: cs, c.isAlphanum = true)
    (made : prev'.isUpper = true → prev.isUpper = true) :
    capitalsApart (prev' :: recased prev cs) = true := by
  induction cs generalizing prev prev' with
  | nil => rfl
  | cons c cs ih =>
    obtain ⟨first, others⟩ := List.forall_mem_cons.mp alphanum
    have kept : (if beginsWord prev c cs = true then c else c.toLower).isUpper = true →
        beginsWord prev c cs = true ∧ c.isUpper = true := by
      by_cases begins : beginsWord prev c cs = true
      · rw [if_pos begins]
        exact fun upper => ⟨begins, upper⟩
      · rw [if_neg begins, Char.isUpper_toLower_eq_false]
        intro impossible
        cases impossible
    rw [recased, capitalsApart, Bool.and_eq_true, Bool.not_eq_true', Bool.eq_false_iff]
    refine ⟨fun close => ?_, ih others fun upper => (kept upper).2⟩
    rw [Bool.and_eq_true, Bool.and_eq_true, Bool.not_eq_true'] at close
    obtain ⟨⟨upper', upper⟩, ends⟩ := close
    obtain ⟨begins, -⟩ := kept upper
    rw [beginsWord, Bool.and_eq_true, Bool.or_eq_true, isLowerOrDigit_iff first] at begins
    rcases begins.2 with small | lower
    · exact small (made upper')
    · cases cs with
      | nil => cases lower
      | cons d ds =>
        have lower : d.isLower = true := lower
        have notUpper := not_isUpper_of_isLower lower
        have stays : ¬ beginsWord c d ds = true := by
          rw [beginsWord, notUpper, Bool.false_and]
          exact Bool.false_ne_true
        rw [recased, if_neg stays, List.head?_cons, Option.any_some,
          Char.toLower_eq_of_not_isUpper (Bool.eq_false_iff.mp notUpper), lower] at ends
        cases ends

lemma isAlphanum_recased {prev : Char} (alphanum : ∀ c ∈ cs, c.isAlphanum = true) :
    ∀ c ∈ recased prev cs, c.isAlphanum = true := by
  induction cs generalizing prev with
  | nil => exact fun c mem => absurd mem List.not_mem_nil
  | cons c cs ih =>
    obtain ⟨first, others⟩ := List.forall_mem_cons.mp alphanum
    rw [recased, List.forall_mem_cons]
    refine ⟨?_, ih others⟩
    by_cases begins : beginsWord prev c cs = true
    · rw [if_pos begins, first]
    · rw [if_neg begins, isAlphanum_toLower first]

/-! ## Names -/

/-- A name is a small letter with letters and digits behind it. -/
lemma isLowerCamelcase_iff {name : List Char} :
    isLowerCamelcase name = true ↔
      ∃ c cs, name = c :: cs ∧ c.isLower = true ∧ ∀ d ∈ c :: cs, d.isAlphanum = true := by
  rw [isLowerCamelcase, Bool.and_eq_true, List.all_eq_true]
  constructor
  · rintro ⟨lower, alphanum⟩
    cases name with
    | nil => cases lower
    | cons c cs => exact ⟨c, cs, rfl, lower, alphanum⟩
  · rintro ⟨c, cs, rfl, lower, alphanum⟩
    exact ⟨lower, alphanum⟩

/-- The snake case of a name. -/
lemma convertStringToSnakecase_eq {name : String} (eq : name.toList = c :: cs)
    (alphanum : ∀ d ∈ c :: cs, d.isAlphanum = true) :
    convertStringToSnakecase name = String.ofList ((c :: spelled c cs).map Char.toLower) := by
  have noNewline : '\n' ∉ c :: cs := fun mem => ne_of_isAlphanum (alphanum _ mem) rfl rfl
  rw [convertStringToSnakecase, eq, underscores_eq c cs noNewline]

/-- A name after the way there and back. -/
theorem camelcase_snakecase {name : String} (eq : name.toList = c :: cs) (lower : c.isLower = true)
    (alphanum : ∀ d ∈ c :: cs, d.isAlphanum = true) :
    camelcase (convertStringToSnakecase name) = String.ofList (c :: recased c cs) := by
  have notUpper : ¬ c.isUpper = true := Char.not_isUpper_of_isLower lower
  have noUnderscore : c ≠ '_' := ne_of_isAlphanum (alphanum c List.mem_cons_self) rfl
  have others : ∀ d ∈ cs, d.isAlphanum = true := (List.forall_mem_cons.mp alphanum).2
  rw [convertStringToSnakecase_eq eq alphanum, camelcase, if_neg, convert, String.toList_ofList,
    List.map_cons, Char.toLower_eq_of_not_isUpper notUpper,
    sub_copy (underscoreRe_other noUnderscore), underscoreRe_sub_spelled c others]
  rw [String.toList_ofList, List.map_cons, Char.toLower_eq_of_not_isUpper notUpper, List.head?_cons,
    Option.some.injEq]
  exact noUnderscore

/-- A name is got back exactly if its capitals stand apart. -/
theorem camelcase_snakecase_eq_iff {name : String} (isName : isLowerCamelcase name.toList = true) :
    camelcase (convertStringToSnakecase name) = name ↔ capitalsApart name.toList = true := by
  obtain ⟨c, cs, eq, lower, alphanum⟩ := isLowerCamelcase_iff.mp isName
  rw [camelcase_snakecase eq lower alphanum, eq, ← recased_eq_iff alphanum]
  constructor
  · intro same
    have lists := congrArg String.toList same
    rw [String.toList_ofList, eq] at lists
    exact (List.cons.inj lists).2
  · intro same
    rw [same, ← eq, String.ofList_toList]

/-- What is got back stays when it is converted again. -/
lemma camelcase_snakecase_stays {name : String} (isName : isLowerCamelcase name.toList = true) :
    camelcase (convertStringToSnakecase (camelcase (convertStringToSnakecase name))) =
      camelcase (convertStringToSnakecase name) := by
  obtain ⟨c, cs, eq, lower, alphanum⟩ := isLowerCamelcase_iff.mp isName
  rw [camelcase_snakecase eq lower alphanum]
  obtain ⟨first, others⟩ := List.forall_mem_cons.mp alphanum
  apply (camelcase_snakecase_eq_iff ?_).mpr
  · rw [String.toList_ofList]
    exact capitalsApart_recased alphanum fun upper => upper
  · rw [String.toList_ofList, isLowerCamelcase_iff]
    refine ⟨c, recased c cs, rfl, lower, ?_⟩
    exact List.forall_mem_cons.mpr ⟨first, isAlphanum_recased others⟩

end Tacker.Casing
