import Mathlib.Tactic.Lemma
import Mathlib.Tactic.TypeStar
import Mathlib.Computability.Language
import Mathlib.Logic.Relation
import Mathlib.Logic.Function.Basic

/-!
# Regular expressions

Matching by backtracking, with capture groups, as a scripting language's regular expressions do it:
the results of an expression at a place of a text are listed in the order in which backtracking
tries them, and a match is the first one. The language of an expression says which texts are
consumed; greedy repetition says which of the results comes first.
-/

namespace Tacker.Basis

/-- A regular expression over characters. -/
inductive Regex where
  | char (p : Char → Bool)
  | seq (r s : Regex)
  | alt (r s : Regex)
  | star (r : Regex)
  | group (n : Nat) (r : Regex)

/-- Where a matching stands: the number of characters consumed, those that follow, and the place of
each group that has been captured. -/
@[ext]
structure Scan where
  pos : Nat
  rest : List Char
  groups : Nat → Option (Nat × Nat)

namespace Regex

/-- One character. -/
def lit (c : Char) : Regex := char (· == c)

/-- The greedy repetition, at least once. -/
def plus (r : Regex) : Regex := seq r (star r)

/-- A greedy repetition that goes on only while characters are consumed. -/
def iterate (f : Scan → List Scan) : Nat → Scan → List Scan
  | 0, st => [st]
  | fuel + 1, st =>
    ((f st).filter (fun st' => st'.rest.length < st.rest.length)).flatMap (iterate f fuel) ++ [st]

/-- The ways to match an expression, in the order in which they are tried. -/
def results : Regex → Scan → List Scan
  | char p, st =>
    match st.rest with
    | [] => []
    | c :: tail => if p c then [{ st with pos := st.pos + 1, rest := tail }] else []
  | seq r s, st => (results r st).flatMap (results s)
  | alt r s, st => results r st ++ results s st
  | star r, st => iterate (results r) st.rest.length st
  | group n r, st => (results r st).map fun st' =>
    { st' with groups := Function.update st'.groups n (some (st.pos, st'.pos)) }

/-- The match at the beginning of a text. -/
def match? (r : Regex) (text : List Char) : Option Scan :=
  (r.results ⟨0, text, fun _ => none⟩).head?

/-- The text with its matches replaced from left to right, for an expression that consumes something
wherever it matches. -/
def subst (r : Regex) (repl : List Char → Scan → List Char) : Nat → List Char → List Char
  | 0, text => text
  | _ + 1, [] => []
  | fuel + 1, c :: text =>
    match r.match? (c :: text) with
    | none => c :: subst r repl fuel text
    | some m => repl (c :: text) m ++ subst r repl fuel m.rest

/-- The text with all matches replaced. -/
def sub (r : Regex) (repl : List Char → Scan → List Char) (text : List Char) : List Char :=
  r.subst repl text.length text

/-- The groups of an expression. -/
def groupNumbers : Regex → List Nat
  | char _ => []
  | seq r s => groupNumbers r ++ groupNumbers s
  | alt r s => groupNumbers r ++ groupNumbers s
  | star r => groupNumbers r
  | group n r => n :: groupNumbers r

/-- The texts an expression matches as a whole. -/
def lang : Regex → Language Char
  | char p => { w | ∃ c, p c = true ∧ w = [c] }
  | seq r s => lang r * lang s
  | alt r s => lang r + lang s
  | star r => KStar.kstar (lang r)
  | group _ r => lang r

end Regex

/-! ## Captured text -/

/-- The characters of a text from one place to another. -/
def slice (text : List Char) (first last : Nat) : List Char :=
  (text.drop first).take (last - first)

/-- Where a group begins and ends; a group that took no part is not asked for. -/
def Scan.span (m : Scan) (n : Nat) : Nat × Nat :=
  (m.groups n).getD (0, 0)

/-- The text of a group, in the text that was matched. -/
def Scan.group (m : Scan) (text : List Char) (n : Nat) : List Char :=
  slice text (m.span n).1 (m.span n).2

lemma slice_eq {text : List Char} (front : List Char) {mid back : List Char} {first last : Nat}
    (eq : text = front ++ (mid ++ back)) (isFirst : first = front.length)
    (isLast : last = first + mid.length) : slice text first last = mid := by
  unfold slice
  rw [isLast, Nat.add_sub_cancel_left, isFirst, eq, List.drop_left, List.take_left]

namespace Regex

variable {r s : Regex} {st st' : Scan} {p : Char → Bool} {n : Nat} {w tail : List Char}

/-! ## Membership -/

@[simp] lemma mem_results_char :
    st' ∈ (char p).results st ↔
      ∃ c, p c = true ∧ st.rest = c :: st'.rest ∧ st'.pos = st.pos + 1 ∧ st'.groups = st.groups := by
  obtain ⟨pos, rest, groups⟩ := st
  obtain ⟨pos', rest', groups'⟩ := st'
  cases rest with
  | nil => simp [results]
  | cons c tail =>
    simp only [results]
    by_cases ok : p c = true
    · simp only [if_pos ok, List.mem_singleton, Scan.mk.injEq, List.cons.injEq]
      constructor
      · rintro ⟨rfl, rfl, rfl⟩
        exact ⟨c, ok, ⟨rfl, rfl⟩, rfl, rfl⟩
      · rintro ⟨c', -, ⟨-, rfl⟩, rfl, rfl⟩
        exact ⟨rfl, rfl, rfl⟩
    · simp only [if_neg ok, List.not_mem_nil, false_iff]
      rintro ⟨c', ok', eq, -⟩
      cases eq
      exact ok ok'

@[simp] lemma mem_results_seq :
    st' ∈ (seq r s).results st ↔ ∃ mid ∈ r.results st, st' ∈ s.results mid :=
  List.mem_flatMap

@[simp] lemma mem_results_alt :
    st' ∈ (alt r s).results st ↔ st' ∈ r.results st ∨ st' ∈ s.results st :=
  List.mem_append

lemma mem_results_group :
    st' ∈ (group n r).results st ↔ ∃ mid ∈ r.results st,
      st' = { mid with groups := Function.update mid.groups n (some (st.pos, mid.pos)) } := by
  simp only [results, List.mem_map, eq_comm]

/-- One turn of a repetition. -/
def Turn (f : Scan → List Scan) (st st' : Scan) : Prop :=
  st' ∈ f st ∧ st'.rest.length < st.rest.length

lemma mem_iterate {f : Scan → List Scan} (fuel : Nat) (enough : st.rest.length ≤ fuel) :
    st' ∈ iterate f fuel st ↔ Relation.ReflTransGen (Turn f) st st' := by
  induction fuel generalizing st with
  | zero =>
    have stuck (b : Scan) : ¬ Turn f st b := fun turn => by
      have := turn.2
      omega
    rw [iterate, List.mem_singleton, eq_comm, Relation.reflTransGen_iff_eq stuck, eq_comm]
  | succ fuel ih =>
    rw [iterate, List.mem_append, List.mem_singleton, List.mem_flatMap]
    constructor
    · rintro (⟨mid, mem, more⟩ | rfl)
      · rw [List.mem_filter, decide_eq_true_eq] at mem
        exact Relation.ReflTransGen.head mem ((ih (by omega)).mp more)
      · exact Relation.ReflTransGen.refl
    · intro turns
      rcases Relation.ReflTransGen.cases_head turns with rfl | ⟨mid, turn, more⟩
      · exact Or.inr rfl
      · refine Or.inl ⟨mid, ?_, (ih (by have := turn.2; omega)).mpr more⟩
        rw [List.mem_filter, decide_eq_true_eq]
        exact turn

lemma mem_results_star :
    st' ∈ (star r).results st ↔ Relation.ReflTransGen (Turn r.results) st st' :=
  mem_iterate _ le_rfl

/-! ## What is consumed -/

/-- A result consumes a text of the language. -/
theorem results_lang (mem : st' ∈ r.results st) :
    ∃ w ∈ r.lang, st.rest = w ++ st'.rest ∧ st'.pos = st.pos + w.length := by
  induction r generalizing st st' with
  | char p =>
    obtain ⟨c, ok, rest, pos, -⟩ := mem_results_char.mp mem
    exact ⟨[c], ⟨c, ok, rfl⟩, rest, pos⟩
  | seq r s ihr ihs =>
    obtain ⟨mid, memR, memS⟩ := mem_results_seq.mp mem
    obtain ⟨w, inR, restR, posR⟩ := ihr memR
    obtain ⟨v, inS, restS, posS⟩ := ihs memS
    refine ⟨w ++ v, Language.append_mem_mul inR inS, ?_, ?_⟩
    · rw [restR, restS, List.append_assoc]
    · rw [posS, posR, List.length_append, Nat.add_assoc]
  | alt r s ihr ihs =>
    rcases mem_results_alt.mp mem with memR | memS
    · obtain ⟨w, inR, eqs⟩ := ihr memR
      exact ⟨w, Or.inl inR, eqs⟩
    · obtain ⟨w, inS, eqs⟩ := ihs memS
      exact ⟨w, Or.inr inS, eqs⟩
  | star r ih =>
    have turns := mem_results_star.mp mem
    clear mem
    induction turns using Relation.ReflTransGen.head_induction_on with
    | refl => exact ⟨[], Language.nil_mem_kstar _, rfl, rfl⟩
    | head turn _ more =>
      obtain ⟨w, inR, restR, posR⟩ := ih turn.1
      obtain ⟨v, inStar, restS, posS⟩ := more
      refine ⟨w ++ v, ?_, ?_, ?_⟩
      · obtain ⟨parts, rfl, each⟩ := Language.mem_kstar.mp inStar
        refine Language.mem_kstar.mpr ⟨w :: parts, rfl, fun y memY => ?_⟩
        rcases List.mem_cons.mp memY with rfl | memY
        · exact inR
        · exact each y memY
      · rw [restR, restS, List.append_assoc]
      · rw [posS, posR, List.length_append, Nat.add_assoc]
  | group n r ih =>
    obtain ⟨mid, memR, eq⟩ := mem_results_group.mp mem
    obtain ⟨w, inR, rest, pos⟩ := ih memR
    subst eq
    exact ⟨w, inR, rest, pos⟩

/-- Parts that can be consumed one after the other are consumed by turns of the repetition. -/
lemma exists_turns {parts : List (List Char)}
    (consumes : ∀ {w tail : List Char} {st : Scan}, w ∈ r.lang → st.rest = w ++ tail →
      ∃ st' ∈ r.results st, st'.rest = tail)
    (each : ∀ part ∈ parts, part ∈ r.lang ∧ part ≠ []) (rest : st.rest = parts.flatten ++ tail) :
    ∃ st', Relation.ReflTransGen (Turn r.results) st st' ∧ st'.rest = tail := by
  induction parts generalizing st with
  | nil => exact ⟨st, Relation.ReflTransGen.refl, rest⟩
  | cons part parts more =>
    have others := fun other mem => each other (List.mem_cons_of_mem part mem)
    rw [List.flatten_cons, List.append_assoc] at rest
    obtain ⟨inR, nonempty⟩ := each part List.mem_cons_self
    obtain ⟨mid, mem, eq⟩ := consumes inR rest
    obtain ⟨st', turns, restS⟩ := more others eq
    refine ⟨st', Relation.ReflTransGen.head ⟨mem, ?_⟩ turns, restS⟩
    have some := List.length_pos_iff.mpr nonempty
    have length := congrArg List.length rest
    rw [List.length_append] at length
    rw [eq]
    omega

/-- Every text of the language at the place is consumed by some result. -/
theorem exists_results (st : Scan) (inLang : w ∈ r.lang) (rest : st.rest = w ++ tail) :
    ∃ st' ∈ r.results st, st'.rest = tail := by
  induction r generalizing st w tail with
  | char p =>
    obtain ⟨c, ok, rfl⟩ := inLang
    exact ⟨⟨st.pos + 1, tail, st.groups⟩, mem_results_char.mpr ⟨c, ok, rest, rfl, rfl⟩, rfl⟩
  | seq r s ihr ihs =>
    obtain ⟨w, inR, v, inS, rfl⟩ := Language.mem_mul.mp inLang
    obtain ⟨mid, memR, restR⟩ := ihr _ inR (rest.trans (List.append_assoc w v tail))
    obtain ⟨st', memS, restS⟩ := ihs _ inS restR
    exact ⟨st', mem_results_seq.mpr ⟨mid, memR, memS⟩, restS⟩
  | alt r s ihr ihs =>
    rcases inLang with inR | inS
    · obtain ⟨st', mem, eq⟩ := ihr _ inR rest
      exact ⟨st', mem_results_alt.mpr (Or.inl mem), eq⟩
    · obtain ⟨st', mem, eq⟩ := ihs _ inS rest
      exact ⟨st', mem_results_alt.mpr (Or.inr mem), eq⟩
  | star r ih =>
    -- an empty part would be no turn
    obtain ⟨parts, rfl, each⟩ := Language.mem_kstar_iff_exists_nonempty.mp inLang
    obtain ⟨st', turns, eq⟩ := exists_turns (fun inR rest => ih _ inR rest) each rest
    exact ⟨st', mem_results_star.mpr turns, eq⟩
  | group n r ih =>
    obtain ⟨mid, mem, eq⟩ := ih _ inLang rest
    exact ⟨_, mem_results_group.mpr ⟨mid, mem, rfl⟩, eq⟩

/-- Groups that do not occur in an expression stay as they are. -/
theorem groups_of_not_mem (mem : st' ∈ r.results st) (other : n ∉ r.groupNumbers) :
    st'.groups n = st.groups n := by
  induction r generalizing st st' with
  | char p =>
    obtain ⟨c, -, -, -, groups⟩ := mem_results_char.mp mem
    rw [groups]
  | seq r s ihr ihs =>
    obtain ⟨mid, memR, memS⟩ := mem_results_seq.mp mem
    rw [groupNumbers, List.mem_append, not_or] at other
    rw [ihs memS other.2, ihr memR other.1]
  | alt r s ihr ihs =>
    rw [groupNumbers, List.mem_append, not_or] at other
    rcases mem_results_alt.mp mem with memR | memS
    · exact ihr memR other.1
    · exact ihs memS other.2
  | star r ih =>
    have turns := mem_results_star.mp mem
    clear mem
    induction turns using Relation.ReflTransGen.head_induction_on with
    | refl => rfl
    | head turn _ more => rw [more, ih turn.1 other]
  | group k r ih =>
    rw [groupNumbers, List.mem_cons, not_or] at other
    obtain ⟨mid, memR, eq⟩ := mem_results_group.mp mem
    subst eq
    exact (Function.update_of_ne other.1 _ _).trans (ih memR other.2)

/-- A repeated group ends where the repetition ends. -/
lemma groups_plus_group (mem : st' ∈ (plus (group n r)).results st) :
    ∃ first, st'.groups n = some (first, st'.pos) := by
  obtain ⟨mid, memOnce, memStar⟩ := mem_results_seq.mp mem
  have captured {a b : Scan} (memG : b ∈ (group n r).results a) : b.groups n = some (a.pos, b.pos) := by
    obtain ⟨c, -, rfl⟩ := mem_results_group.mp memG
    exact Function.update_self ..
  rcases Relation.ReflTransGen.cases_tail (mem_results_star.mp memStar) with rfl | ⟨last, -, turn⟩
  · exact ⟨_, captured memOnce⟩
  · exact ⟨_, captured turn.1⟩

/-- What a group captures is what it consumes. -/
lemma results_group (mem : st' ∈ (group n r).results st) :
    ∃ w ∈ r.lang, st.rest = w ++ st'.rest ∧ st'.pos = st.pos + w.length ∧
      st'.groups n = some (st.pos, st'.pos) := by
  obtain ⟨w, inLang, rest, pos⟩ := results_lang mem
  obtain ⟨mid, -, eq⟩ := mem_results_group.mp mem
  subst eq
  exact ⟨w, inLang, rest, pos, Function.update_self ..⟩

/-! ## Languages of the common expressions -/

variable {c : Char}

lemma mem_lang_lit : w ∈ (lit c).lang ↔ w = [c] := by
  constructor
  · rintro ⟨d, eq, rfl⟩
    rw [beq_iff_eq.mp eq]
  · rintro rfl
    exact ⟨c, beq_self_eq_true c, rfl⟩

lemma mem_lang_seq : w ∈ (seq r s).lang ↔ ∃ u ∈ r.lang, ∃ v ∈ s.lang, w = u ++ v := by
  rw [lang, Language.mem_mul]
  constructor
  · rintro ⟨u, inR, v, inS, rfl⟩
    exact ⟨u, inR, v, inS, rfl⟩
  · rintro ⟨u, inR, v, inS, rfl⟩
    exact ⟨u, inR, v, inS, rfl⟩

lemma mem_lang_star :
    w ∈ (star r).lang ↔ ∃ parts : List (List Char), (∀ part ∈ parts, part ∈ r.lang) ∧
      w = parts.flatten := by
  rw [lang, Language.mem_kstar]
  exact exists_congr fun parts => and_comm

lemma mem_lang_plus :
    w ∈ (plus r).lang ↔ ∃ parts : List (List Char), parts ≠ [] ∧
      (∀ part ∈ parts, part ∈ r.lang) ∧ w = parts.flatten := by
  rw [plus, mem_lang_seq]
  constructor
  · rintro ⟨u, inR, v, inStar, rfl⟩
    obtain ⟨parts, each, rfl⟩ := mem_lang_star.mp inStar
    refine ⟨u :: parts, List.cons_ne_nil u parts, fun part mem => ?_, rfl⟩
    rcases List.mem_cons.mp mem with rfl | mem
    · exact inR
    · exact each part mem
  · rintro ⟨parts, nonempty, each, rfl⟩
    obtain ⟨u, parts, rfl⟩ := List.exists_cons_of_ne_nil nonempty
    exact ⟨u, each u List.mem_cons_self, parts.flatten,
      mem_lang_star.mpr ⟨parts, fun part mem => each part (List.mem_cons_of_mem u mem), rfl⟩, rfl⟩

/-- The repetition of an expression whose texts are made from something. -/
lemma mem_lang_plus_of {α : Type*} {make : α → List Char} {ok : α → Prop}
    (made : ∀ w, w ∈ r.lang ↔ ∃ a, ok a ∧ w = make a) :
    w ∈ (plus r).lang ↔ ∃ as : List α, as ≠ [] ∧ (∀ a ∈ as, ok a) ∧ w = as.flatMap make := by
  rw [mem_lang_plus]
  constructor
  · rintro ⟨parts, nonempty, each, rfl⟩
    suffices all : ∃ as : List α, (∀ a ∈ as, ok a) ∧ parts = as.map make by
      obtain ⟨as, oks, rfl⟩ := all
      exact ⟨as, fun none => nonempty (none ▸ rfl), oks, List.flatMap_def.symm⟩
    clear nonempty
    induction parts with
    | nil => exact ⟨[], nofun, rfl⟩
    | cons part parts ih =>
      obtain ⟨a, isOk, rfl⟩ := (made part).mp (each part List.mem_cons_self)
      obtain ⟨as, oks, rfl⟩ := ih (fun other mem => each other (List.mem_cons_of_mem _ mem))
      refine ⟨a :: as, fun b mem => ?_, rfl⟩
      rcases List.mem_cons.mp mem with rfl | mem
      · exact isOk
      · exact oks b mem
  · rintro ⟨as, nonempty, oks, rfl⟩
    refine ⟨as.map make, fun none => nonempty (List.map_eq_nil_iff.mp none), fun part mem => ?_,
      List.flatMap_def⟩
    obtain ⟨a, memA, rfl⟩ := List.mem_map.mp mem
    exact (made _).mpr ⟨a, oks a memA, rfl⟩

lemma mem_lang_star_char : w ∈ (star (char p)).lang ↔ ∀ c ∈ w, p c = true := by
  rw [mem_lang_star]
  constructor
  · rintro ⟨parts, each, rfl⟩ c mem
    obtain ⟨part, memPart, memC⟩ := List.mem_flatten.mp mem
    obtain ⟨d, ok, rfl⟩ := each part memPart
    exact List.mem_singleton.mp memC ▸ ok
  · intro all
    refine ⟨w.map (fun c => [c]), fun part mem => ?_, ?_⟩
    · obtain ⟨c, memC, rfl⟩ := List.mem_map.mp mem
      exact ⟨c, all c memC, rfl⟩
    · rw [← List.flatMap_def, List.flatMap_singleton']

lemma mem_lang_plus_char : w ∈ (plus (char p)).lang ↔ w ≠ [] ∧ ∀ c ∈ w, p c = true := by
  rw [plus, mem_lang_seq]
  constructor
  · rintro ⟨u, ⟨c, ok, rfl⟩, v, inStar, rfl⟩
    refine ⟨List.cons_ne_nil c v, fun d mem => ?_⟩
    rcases List.mem_cons.mp mem with rfl | mem
    · exact ok
    · exact mem_lang_star_char.mp inStar d mem
  · rintro ⟨nonempty, all⟩
    obtain ⟨c, v, rfl⟩ := List.exists_cons_of_ne_nil nonempty
    exact ⟨[c], ⟨c, all c List.mem_cons_self, rfl⟩, v,
      mem_lang_star_char.mpr (fun d mem => all d (List.mem_cons_of_mem c mem)), rfl⟩

/-- The expression takes no other characters. -/
def Only (ok : Char → Bool) : Regex → Prop
  | char p => ∀ c, p c = true → ok c = true
  | seq r s => Only ok r ∧ Only ok s
  | alt r s => Only ok r ∧ Only ok s
  | star r => Only ok r
  | group _ r => Only ok r

lemma mem_lang_only {ok : Char → Bool} (only : r.Only ok) (mem : w ∈ r.lang) :
    ∀ c ∈ w, ok c = true := by
  induction r generalizing w with
  | char p =>
    obtain ⟨c, isP, rfl⟩ := mem
    intro d inW
    rw [List.mem_singleton.mp inW]
    exact only c isP
  | seq r s ihr ihs =>
    obtain ⟨u, inR, v, inS, rfl⟩ := mem_lang_seq.mp mem
    intro c inW
    rcases List.mem_append.mp inW with inU | inV
    · exact ihr only.1 inR c inU
    · exact ihs only.2 inS c inV
  | alt r s ihr ihs =>
    rcases mem with inR | inS
    · exact ihr only.1 inR
    · exact ihs only.2 inS
  | star r ih =>
    obtain ⟨parts, each, rfl⟩ := mem_lang_star.mp mem
    intro c inW
    obtain ⟨part, inParts, inPart⟩ := List.mem_flatten.mp inW
    exact ih only (each part inParts) c inPart
  | group n r ih => exact ih only mem

/-- A number of copies, one after the other: one more than it is told. -/
def times (r : Regex) : Nat → Regex
  | 0 => r
  | n + 1 => seq r (times r n)

/-- Some copies, one after the other: at least one, and at most one more than it is told. -/
def oneTo (r : Regex) : Nat → Regex
  | 0 => r
  | n + 1 => alt (times r (n + 1)) (oneTo r n)

lemma only_times {ok : Char → Bool} (only : r.Only ok) (n : Nat) : (times r n).Only ok := by
  induction n with
  | zero => exact only
  | succ n ih => exact ⟨only, ih⟩

lemma only_oneTo {ok : Char → Bool} (only : r.Only ok) (n : Nat) : (oneTo r n).Only ok := by
  induction n with
  | zero => exact only
  | succ n ih => exact ⟨only_times only (n + 1), ih⟩

lemma mem_lang_times_char {n : Nat} :
    w ∈ (times (char p) n).lang ↔ w.length = n + 1 ∧ ∀ c ∈ w, p c = true := by
  induction n generalizing w with
  | zero =>
    constructor
    · rintro ⟨c, ok, rfl⟩
      refine ⟨rfl, fun d mem => ?_⟩
      rw [List.mem_singleton.mp mem, ok]
    · rintro ⟨length, all⟩
      obtain ⟨c, rfl⟩ := List.length_eq_one_iff.mp length
      exact ⟨c, all c List.mem_cons_self, rfl⟩
  | succ n ih =>
    rw [times, mem_lang_seq]
    constructor
    · rintro ⟨u, ⟨c, ok, rfl⟩, v, inTimes, rfl⟩
      obtain ⟨length, all⟩ := ih.mp inTimes
      refine ⟨by rw [List.singleton_append, List.length_cons, length], fun d mem => ?_⟩
      rcases List.mem_cons.mp mem with rfl | mem
      · exact ok
      · exact all d mem
    · rintro ⟨length, all⟩
      obtain ⟨c, v, rfl⟩ := List.exists_cons_of_length_eq_add_one length
      refine ⟨[c], ⟨c, all c List.mem_cons_self, rfl⟩, v, ih.mpr ⟨?_, fun d mem => ?_⟩, rfl⟩
      · exact Nat.succ.inj length
      · exact all d (List.mem_cons_of_mem c mem)

lemma mem_lang_oneTo_char {n : Nat} : w ∈ (oneTo (char p) n).lang ↔
    0 < w.length ∧ w.length ≤ n + 1 ∧ ∀ c ∈ w, p c = true := by
  induction n with
  | zero =>
    have one := mem_lang_times_char (p := p) (w := w) (n := 0)
    show w ∈ (times (char p) 0).lang ↔ _
    rw [one, ← and_assoc]
    apply and_congr_left
    intro _
    omega
  | succ n ih =>
    show w ∈ (times (char p) (n + 1)).lang ∨ w ∈ (oneTo (char p) n).lang ↔ _
    rw [mem_lang_times_char, ih]
    constructor
    · rintro (⟨length, all⟩ | ⟨some, length, all⟩)
      · exact ⟨by omega, by omega, all⟩
      · exact ⟨some, by omega, all⟩
    · rintro ⟨some, length, all⟩
      by_cases most : w.length = n + 1 + 1
      · exact .inl ⟨most, all⟩
      · exact .inr ⟨some, by omega, all⟩

/-- Blocks of characters, one after the other. -/
lemma mem_lang_plus_times_char {n : Nat} : w ∈ (plus (times (char p) n)).lang ↔
    w ≠ [] ∧ n + 1 ∣ w.length ∧ ∀ c ∈ w, p c = true := by
  rw [mem_lang_plus]
  constructor
  · rintro ⟨parts, nonempty, each, rfl⟩
    obtain ⟨part, rest, rfl⟩ := List.exists_cons_of_ne_nil nonempty
    refine ⟨fun none => ?_, ?_, fun c mem => ?_⟩
    · have length := (mem_lang_times_char.mp (each part List.mem_cons_self)).1
      rw [List.flatten_cons] at none
      rw [(List.append_eq_nil_iff.mp none).1] at length
      cases length
    · clear nonempty
      generalize part :: rest = parts at each
      induction parts with
      | nil => exact Nat.dvd_zero (n + 1)
      | cons part' parts ih =>
        rw [List.flatten_cons, List.length_append,
          (mem_lang_times_char.mp (each part' List.mem_cons_self)).1]
        apply Nat.dvd_add (Nat.dvd_refl (n + 1))
        exact ih fun other mem => each other (List.mem_cons_of_mem part' mem)
    · obtain ⟨part', there, mem⟩ := List.mem_flatten.mp mem
      exact (mem_lang_times_char.mp (each part' there)).2 c mem
  · rintro ⟨nonempty, ⟨k, length⟩, all⟩
    induction k generalizing w with
    | zero => exact absurd (List.length_eq_zero_iff.mp length) nonempty
    | succ k ih =>
      have split : (n + 1) * (k + 1) = (n + 1) * k + (n + 1) := Nat.mul_succ _ _
      have first : w.take (n + 1) ∈ (times (char p) n).lang := by
        apply mem_lang_times_char.mpr
        refine ⟨?_, fun c mem => all c (List.mem_of_mem_take mem)⟩
        rw [List.length_take, length]
        omega
      by_cases none : w.drop (n + 1) = []
      · refine ⟨[w.take (n + 1)], List.cons_ne_nil _ _, fun part mem => ?_, ?_⟩
        · rw [List.mem_singleton.mp mem]
          exact first
        · rw [List.flatten_singleton]
          have whole := List.take_append_drop (n + 1) w
          rw [none, List.append_nil] at whole
          exact whole.symm
      · obtain ⟨parts, -, each, eq⟩ := ih none (fun c mem => all c (List.mem_of_mem_drop mem))
          (by rw [List.length_drop, length]; omega)
        refine ⟨w.take (n + 1) :: parts, List.cons_ne_nil _ _, fun part mem => ?_, ?_⟩
        · rcases List.mem_cons.mp mem with rfl | mem
          · exact first
          · exact each part mem
        · rw [List.flatten_cons, ← eq, List.take_append_drop]

/-! ## The first result -/

/-- There is at most one way to match the expression. -/
def Deterministic (r : Regex) : Prop :=
  ∀ st, (r.results st).length ≤ 1

lemma Deterministic.eq_singleton (det : Deterministic r) (mem : st' ∈ r.results st) :
    r.results st = [st'] := by
  have atMost := det st
  cases eq : r.results st with
  | nil => rw [eq] at mem; cases mem
  | cons first more =>
    rw [eq, List.length_cons] at atMost
    have none : more = [] := List.length_eq_zero_iff.mp (by omega)
    rw [eq, none] at mem
    rw [none, List.mem_singleton.mp mem]

lemma deterministic_char : Deterministic (char p) := by
  rintro ⟨pos, rest, groups⟩
  cases rest with
  | nil => exact Nat.zero_le 1
  | cons c tail =>
    simp only [results]
    split
    · exact le_rfl
    · exact Nat.zero_le 1

lemma Deterministic.group (det : Deterministic r) : Deterministic (group n r) := fun st => by
  rw [results, List.length_map]
  exact det st

lemma Deterministic.seq (detR : Deterministic r) (detS : Deterministic s) :
    Deterministic (seq r s) := fun st => by
  have atMost := detR st
  rw [results]
  cases eq : r.results st with
  | nil => exact Nat.zero_le 1
  | cons first more =>
    rw [eq, List.length_cons] at atMost
    have none : more = [] := List.length_eq_zero_iff.mp (by omega)
    rw [none, List.flatMap_singleton]
    exact detS first

/-- A run of characters up to a closing one. -/
lemma deterministic_run (closing : p c = false) :
    Deterministic (.seq (star (char p)) (lit c)) := by
  intro st
  rw [results, results]
  generalize st.rest.length = fuel
  induction fuel generalizing st with
  | zero => exact (List.flatMap_singleton ..).symm ▸ deterministic_char st
  | succ fuel ih =>
    rw [iterate, List.flatMap_append, List.flatMap_singleton]
    cases eq : (char p).results st with
    | nil => exact deterministic_char st
    | cons first more =>
      -- a character of the run is not the closing one
      have goes : first ∈ (char p).results st := by rw [eq]; exact List.mem_cons_self
      obtain ⟨d, ok, rest, -⟩ := mem_results_char.mp goes
      have stuck : (lit c).results st = [] := by
        refine List.eq_nil_iff_forall_not_mem.mpr (fun other mem => ?_)
        obtain ⟨e, isC, rest', -⟩ := mem_results_char.mp mem
        have same := (List.cons.inj (rest.symm.trans rest')).1
        rw [same, beq_iff_eq.mp isC, closing] at ok
        cases ok
      have single := deterministic_char.eq_singleton goes
      rw [← eq, single, stuck, List.append_nil, List.filter_cons]
      split
      · rw [List.filter_nil, List.flatMap_singleton]
        exact ih first
      · exact Nat.zero_le 1

/-- A repetition of something that can be matched in one way at most goes on to the end. -/
lemma head?_iterate (det : Deterministic r) (fuel : Nat) (enough : st.rest.length ≤ fuel)
    (turns : Relation.ReflTransGen (Turn r.results) st st') (stuck : r.results st' = []) :
    (iterate r.results fuel st).head? = some st' := by
  induction fuel generalizing st with
  | zero =>
    rcases Relation.ReflTransGen.cases_head turns with rfl | ⟨mid, turn, -⟩
    · rfl
    · have := turn.2
      omega
  | succ fuel ih =>
    rcases Relation.ReflTransGen.cases_head turns with rfl | ⟨mid, turn, more⟩
    · rw [iterate, stuck]
      rfl
    · have shorter := turn.2
      have first := ih (by omega) more
      rw [iterate, det.eq_singleton turn.1]
      simp [shorter, first]

/-- The first match of a repetition is the longest one. -/
lemma head?_plus (st : Scan) {parts : List (List Char)} (det : Deterministic r) (nonempty : parts ≠ [])
    (each : ∀ part ∈ parts, part ∈ r.lang ∧ part ≠ []) (rest : st.rest = parts.flatten ++ tail)
    (stuck : ∀ st', st'.rest = tail → r.results st' = []) :
    ∃ st', ((plus r).results st).head? = some st' ∧ st'.rest = tail := by
  obtain ⟨part, parts, rfl⟩ := List.exists_cons_of_ne_nil nonempty
  rw [List.flatten_cons, List.append_assoc] at rest
  obtain ⟨mid, mem, restMid⟩ := exists_results st (each part List.mem_cons_self).1 rest
  obtain ⟨st', turns, restEnd⟩ := exists_turns (exists_results _)
    (fun other mem => each other (List.mem_cons_of_mem part mem)) restMid
  refine ⟨st', ?_, restEnd⟩
  rw [plus, results, det.eq_singleton mem, List.flatMap_singleton, results]
  exact head?_iterate det _ le_rfl turns (stuck st' restEnd)

/-- Where nothing of the language begins there is no result. -/
lemma results_eq_nil (none : ∀ w ∈ r.lang, ∀ tail, st.rest ≠ w ++ tail) : r.results st = [] := by
  refine List.eq_nil_iff_forall_not_mem.mpr (fun st' mem => ?_)
  obtain ⟨w, inLang, rest, -⟩ := results_lang mem
  exact none w inLang _ rest

/-! ## Replacing -/

section subst

variable {repl : List Char → Scan → List Char} {text mid done done' : List Char} {m : Scan}

/-- Replacing goes through a part of the text, up to `tail`. -/
def Passes (r : Regex) (repl : List Char → Scan → List Char) (text done tail : List Char) : Prop :=
  ∀ fuel, text.length ≤ fuel →
    ∃ fuel', tail.length ≤ fuel' ∧ r.subst repl fuel text = done ++ r.subst repl fuel' tail

lemma Passes.copy (none : r.match? (c :: tail) = none) : Passes r repl (c :: tail) [c] tail := by
  intro fuel enough
  rw [List.length_cons] at enough
  obtain ⟨fuel, rfl⟩ := Nat.exists_eq_add_of_lt (Nat.lt_of_lt_of_le (Nat.succ_pos _) enough)
  refine ⟨fuel, by omega, ?_⟩
  rw [Nat.zero_add, subst, none]
  rfl

lemma Passes.replace (repl : List Char → Scan → List Char) (some : r.match? (c :: text) = some m)
    (shorter : m.rest.length ≤ text.length) :
    Passes r repl (c :: text) (repl (c :: text) m) m.rest := by
  intro fuel enough
  rw [List.length_cons] at enough
  obtain ⟨fuel, rfl⟩ := Nat.exists_eq_add_of_lt (Nat.lt_of_lt_of_le (Nat.succ_pos _) enough)
  refine ⟨fuel, by omega, ?_⟩
  rw [Nat.zero_add, subst, some]

lemma Passes.trans (first : Passes r repl text done mid) (second : Passes r repl mid done' tail) :
    Passes r repl text (done ++ done') tail := by
  intro fuel enough
  obtain ⟨fuel₁, enough₁, eq₁⟩ := first fuel enough
  obtain ⟨fuel₂, enough₂, eq₂⟩ := second fuel₁ enough₁
  exact ⟨fuel₂, enough₂, by rw [eq₁, eq₂, List.append_assoc]⟩

/-- A text that is made of parts is replaced part by part. -/
lemma sub_flatMap {α : Type*} {code done : α → List Char} (as : List α)
    (passes : ∀ a tail, Passes r repl (code a ++ tail) (done a) tail) :
    r.sub repl (as.flatMap code) = as.flatMap done := by
  suffices through : ∀ fuel, (as.flatMap code).length ≤ fuel →
      r.subst repl fuel (as.flatMap code) = as.flatMap done from through _ le_rfl
  induction as with
  | nil => intro fuel _; cases fuel <;> rfl
  | cons a as ih =>
    intro fuel enough
    obtain ⟨fuel', enough', eq⟩ := passes a (as.flatMap code) fuel enough
    rw [List.flatMap_cons, eq, ih fuel' enough', List.flatMap_cons]

/-- A match of an expression that consumes something leaves less. -/
lemma length_rest_le (consumes : [] ∉ r.lang) (some : r.match? (c :: text) = some m) :
    m.rest.length ≤ text.length := by
  obtain ⟨w, inLang, eq, -⟩ := results_lang (List.mem_of_head? some)
  have length := congrArg List.length eq
  rw [List.length_cons, List.length_append] at length
  cases w with
  | nil => exact absurd inLang consumes
  | cons d w =>
    rw [List.length_cons] at length
    omega

/-- It does not matter how much fuel is left over. -/
lemma subst_fuel (consumes : [] ∉ r.lang) {fuel fuel' : Nat} (enough : text.length ≤ fuel)
    (enough' : text.length ≤ fuel') : r.subst repl fuel text = r.subst repl fuel' text := by
  induction fuel generalizing text fuel' with
  | zero =>
    obtain rfl := List.length_eq_zero_iff.mp (Nat.le_zero.mp enough)
    cases fuel' <;> rfl
  | succ fuel ih =>
    cases text with
    | nil => cases fuel' <;> rfl
    | cons c text =>
      rw [List.length_cons] at enough enough'
      obtain ⟨fuel', rfl⟩ := Nat.exists_eq_add_of_lt (Nat.lt_of_lt_of_le (Nat.succ_pos _) enough')
      rw [Nat.zero_add, subst, subst]
      cases found : r.match? (c :: text) with
      | none => exact congrArg (c :: ·) (ih (by omega) (by omega))
      | some m =>
        have shorter := length_rest_le consumes found
        exact congrArg (repl (c :: text) m ++ ·) (ih (by omega) (by omega))

lemma sub_nil : r.sub repl [] = [] := rfl

/-- Where nothing is matched a character is copied. -/
lemma sub_copy (none : r.match? (c :: text) = none) :
    r.sub repl (c :: text) = c :: r.sub repl text := by
  rw [sub, List.length_cons, subst, none]
  rfl

/-- A match is replaced. -/
lemma sub_replace (consumes : [] ∉ r.lang) (some : r.match? (c :: text) = some m) :
    r.sub repl (c :: text) = repl (c :: text) m ++ r.sub repl m.rest := by
  rw [sub, List.length_cons, subst, some]
  exact congrArg (repl (c :: text) m ++ ·)
    (subst_fuel consumes (length_rest_le consumes some) le_rfl)

end subst

end Regex

end Tacker.Basis
