import Tacker.Basis.Regex

/-!
# Names of pods

The pods of a resource are found by the naming rule of its kind, and the name of a resource is got
back from that of one of its pods. A name consists of lower case letters, digits, hyphens and
periods, so that a period is the only one of its characters that means something to a regular
expression.
-/

namespace Tacker.Kubernetes

open Tacker.Basis

/-- The kinds of resources that run pods, and the others. -/
inductive Kind where
  | pod
  | deployment
  | replicaSet
  | daemonSet
  | statefulSet
  | other (name : String)
deriving DecidableEq, Repr

/-- `SCALABLE_KIND`. -/
def Kind.scalable : Kind → Bool
  | deployment => true
  | replicaSet => true
  | statefulSet => true
  | _ => false

/-! ## The naming rule -/

/-- `[0-9a-f]`. -/
def hexDigit : Regex :=
  .char fun c => c.isDigit || ('a' ≤ c && c ≤ 'f')

/-- `[0-9a-z]`. -/
def alnum : Regex :=
  .char fun c => c.isDigit || ('a' ≤ c && c ≤ 'z')

/-- `[0-9]`. -/
def digit : Regex :=
  .char fun c => c.isDigit

/-- The name of a resource as an expression, with what follows it. -/
def nameThen (rscName : List Char) (tail : Regex) : Regex :=
  rscName.foldr (fun c r => .seq (if c = '.' then .char (· ≠ '\n') else .lit c) r) tail

/-- What follows the name of the resource in the name of a pod. -/
def suffix : Kind → Option Regex
  | .deployment =>
    some (.seq (.lit '-') (.seq (.group 1 (.oneTo hexDigit 9))
      (.seq (.lit '-') (.plus (.group 2 (.times alnum 4))))))
  | .replicaSet => some (.seq (.lit '-') (.plus (.group 1 (.times alnum 4))))
  | .daemonSet => some (.seq (.lit '-') (.plus (.group 1 (.times alnum 4))))
  | .statefulSet => some (.seq (.lit '-') (.plus digit))
  | _ => none

/-- `re.match` of an expression that ends with `$`. -/
def matchEnd (r : Regex) (text : List Char) : Bool :=
  (r.results ⟨0, text, fun _ => none⟩).any fun st => st.rest = [] || st.rest = ['\n']

/-- `is_match_pod_naming`. -/
def isMatchPodNaming (rscKind : Kind) (rscName podName : String) : Bool :=
  match rscKind with
  | .pod => rscName = podName
  | kind =>
    match suffix kind with
    | some tail => matchEnd (nameThen rscName.toList tail) podName.toList
    | none => false

/-- `_get_resource_name`. -/
def getResourceName (resourceId : String) (resourceType : Kind) : String :=
  let nameList := resourceId.toList.splitOn '-'
  let join names := String.ofList (['-'].intercalate names)
  match resourceType with
  | .pod => resourceId
  | .deployment => join (nameList.take (nameList.length - 2))
  | .replicaSet => join nameList.dropLast
  | .daemonSet => join nameList.dropLast
  | .statefulSet => join nameList.dropLast
  | .other _ => join nameList

example : isMatchPodNaming .deployment "vdu1" "vdu1-5f9c-x2k7q" = true := by decide

/-! ## Names without a period -/

variable {rscName text w : List Char} {tail : Regex}

/-- A name without a period stands for itself. -/
lemma mem_lang_nameThen (plain : '.' ∉ rscName) :
    w ∈ (nameThen rscName tail).lang ↔ ∃ v ∈ tail.lang, w = rscName ++ v := by
  induction rscName generalizing w with
  | nil => exact ⟨fun mem => ⟨w, mem, rfl⟩, fun ⟨v, mem, eq⟩ => eq ▸ mem⟩
  | cons c rscName ih =>
    obtain ⟨ne, plain⟩ := not_or.mp fun mem => plain (List.mem_cons.mpr mem)
    show w ∈ (Regex.seq (if c = '.' then _ else .lit c) (nameThen rscName tail)).lang ↔ _
    rw [if_neg (fun eq => ne eq.symm), Regex.mem_lang_seq]
    constructor
    · rintro ⟨u, isC, v, inRest, rfl⟩
      obtain rfl := Regex.mem_lang_lit.mp isC
      obtain ⟨v, inTail, rfl⟩ := (ih plain).mp inRest
      exact ⟨v, inTail, rfl⟩
    · rintro ⟨v, inTail, rfl⟩
      exact ⟨[c], Regex.mem_lang_lit.mpr rfl, rscName ++ v, (ih plain).mpr ⟨v, inTail, rfl⟩, rfl⟩

lemma ne_hyphen {r : Regex} (only : r.Only fun c => c ≠ '-') (mem : w ∈ r.lang) : '-' ∉ w := by
  intro inW
  have isNot := Regex.mem_lang_only only mem '-' inW
  cases isNot

lemma only_alnum : alnum.Only fun c => c ≠ '-' := by
  rintro c isAlnum
  rw [decide_eq_true_iff]
  rintro rfl
  cases isAlnum

lemma only_hexDigit : hexDigit.Only fun c => c ≠ '-' := by
  rintro c isHex
  rw [decide_eq_true_iff]
  rintro rfl
  cases isHex

lemma only_fives {n : Nat} : (Regex.plus (.group n (.times alnum 4))).Only fun c => c ≠ '-' :=
  And.intro (Regex.only_times only_alnum 4) (Regex.only_times only_alnum 4)

lemma only_digit : digit.Only fun c => c ≠ '-' := by
  rintro c isDigit
  rw [decide_eq_true_iff]
  rintro rfl
  cases isDigit

/-- A text that matches up to the end is one of the expression's, or has a line feed after it. -/
lemma matchEnd_lang {r : Regex} (matched : matchEnd r text = true) :
    ∃ v ∈ r.lang, ∃ feed, text = v ++ feed ∧ '-' ∉ feed := by
  obtain ⟨st, inResults, ended⟩ := List.any_eq_true.mp matched
  obtain ⟨v, inLang, eq, -⟩ := Regex.results_lang inResults
  refine ⟨v, inLang, st.rest, eq, fun mem => ?_⟩
  rcases Bool.or_eq_true_iff.mp ended with none | feed
  · rw [of_decide_eq_true none] at mem
    cases mem
  · rw [of_decide_eq_true feed] at mem
    cases List.mem_singleton.mp mem

/-- The name of a pod of a resource with one part after the resource's name. -/
lemma splitOn_of_matchEnd {part : Regex} (plain : '.' ∉ rscName) (only : part.Only fun c => c ≠ '-')
    (matched : matchEnd (nameThen rscName (.seq (.lit '-') part)) text = true) :
    ∃ last, text.splitOn '-' = rscName.splitOn '-' ++ [last] := by
  obtain ⟨v, inLang, feed, rfl, noFeed⟩ := matchEnd_lang matched
  obtain ⟨v, inTail, rfl⟩ := (mem_lang_nameThen plain).mp inLang
  obtain ⟨u, isHyphen, s, inPart, rfl⟩ := Regex.mem_lang_seq.mp inTail
  obtain rfl := Regex.mem_lang_lit.mp isHyphen
  refine ⟨s ++ feed, ?_⟩
  have last : '-' ∉ s ++ feed := by
    rw [List.mem_append]
    exact not_or.mpr ⟨ne_hyphen only inPart, noFeed⟩
  rw [List.append_assoc, List.append_assoc, List.singleton_append, List.splitOn_append_cons_self,
    List.splitOn_eq_singleton last]

/-- The name of a resource without a period is got back from the names of its pods. -/
theorem getResourceName_of_match {rscKind : Kind} {rscName podName : String}
    (plain : '.' ∉ rscName.toList) (matched : isMatchPodNaming rscKind rscName podName = true) :
    getResourceName podName rscKind = rscName := by
  have one : ∀ part : Regex, part.Only (fun c => c ≠ '-') →
      matchEnd (nameThen rscName.toList (.seq (.lit '-') part)) podName.toList = true →
      String.ofList (['-'].intercalate (podName.toList.splitOn '-').dropLast) = rscName := by
    intro part only matched
    obtain ⟨last, split⟩ := splitOn_of_matchEnd plain only matched
    rw [split, List.dropLast_concat, List.intercalate_splitOn, String.ofList_toList]
  cases rscKind with
  | pod => exact (of_decide_eq_true matched).symm
  | deployment =>
    obtain ⟨v, inLang, feed, eq, noFeed⟩ := matchEnd_lang matched
    obtain ⟨v, inTail, rfl⟩ := (mem_lang_nameThen plain).mp inLang
    obtain ⟨u, isHyphen, v, inHashed, rfl⟩ := Regex.mem_lang_seq.mp inTail
    obtain rfl := Regex.mem_lang_lit.mp isHyphen
    obtain ⟨hash, inHash, v, inLast, rfl⟩ := Regex.mem_lang_seq.mp inHashed
    obtain ⟨u, isHyphen', s, inPart, rfl⟩ := Regex.mem_lang_seq.mp inLast
    obtain rfl := Regex.mem_lang_lit.mp isHyphen'
    have noHash : '-' ∉ hash := ne_hyphen (Regex.only_oneTo only_hexDigit 9) inHash
    have noLast : '-' ∉ s ++ feed := by
      rw [List.mem_append]
      exact not_or.mpr ⟨ne_hyphen only_fives inPart, noFeed⟩
    have split : podName.toList.splitOn '-' = rscName.toList.splitOn '-' ++ [hash, s ++ feed] := by
      have parts : podName.toList = rscName.toList ++ '-' :: (hash ++ '-' :: (s ++ feed)) := by
        rw [eq]
        simp
      rw [parts, List.splitOn_append_cons_self, List.splitOn_append_cons_self,
        List.splitOn_eq_singleton noHash, List.splitOn_eq_singleton noLast]
      rfl
    show String.ofList (['-'].intercalate ((podName.toList.splitOn '-').take
      ((podName.toList.splitOn '-').length - 2))) = rscName
    rw [split, List.length_append]
    show String.ofList (['-'].intercalate (List.take ((rscName.toList.splitOn '-').length + 2 - 2) _))
      = rscName
    rw [Nat.add_sub_cancel, List.take_left, List.intercalate_splitOn, String.ofList_toList]
  | replicaSet =>
    exact one _ only_fives matched
  | daemonSet =>
    exact one _ only_fives matched
  | statefulSet => exact one (.plus digit) (And.intro only_digit only_digit) matched
  | other name => cases matched

end Tacker.Kubernetes
