import Tacker.Kubernetes.Operations

/-!
# Whose pods they are

Controllers name the pods that they create after themselves. The drivers tell by the name of a pod
which VDU it belongs to: one by the naming rule of the kind, where the name of the resource is taken
for a regular expression, the other one by any occurrence of the name.
-/

namespace Tacker.Kubernetes

open Tacker.Basis

variable {kind : Kind} {rscName podName : String} {name base last text w : List Char}

/-! ## How pods are named -/

/-- A character of a hash. -/
def isHex (c : Char) : Bool :=
  c.isDigit || ('a' ≤ c && c ≤ 'f')

/-- A character of a random suffix. -/
def isAlnum (c : Char) : Bool :=
  c.isDigit || ('a' ≤ c && c ≤ 'z')

/-- The controller of the kind and the name gives its pods such names: a hash of at most ten
characters and five more, five, or an ordinal number. Of the pods of other kinds nothing is known. -/
def Created (kind : Kind) (name pod : List Char) : Prop :=
  match kind with
  | .pod => pod = name
  | .deployment => ∃ hash last, pod = name ++ '-' :: (hash ++ '-' :: last) ∧
      (0 < hash.length ∧ hash.length ≤ 10 ∧ ∀ c ∈ hash, isHex c = true) ∧
      last.length = 5 ∧ ∀ c ∈ last, isAlnum c = true
  | .replicaSet => ∃ last, pod = name ++ '-' :: last ∧ last.length = 5 ∧ ∀ c ∈ last, isAlnum c = true
  | .daemonSet => ∃ last, pod = name ++ '-' :: last ∧ last.length = 5 ∧ ∀ c ∈ last, isAlnum c = true
  | .statefulSet => ∃ ordinal : Nat, pod = name ++ '-' :: Nat.toDigits 10 ordinal
  | .other _ => True

/-- A pod of the namespace, with the kind and the name of the resource that created it. -/
structure RunningPod where
  name : String
  ownerKind : Kind
  ownerName : String
  created : Created ownerKind ownerName.toList name.toList
  plain : '\n' ∉ name.toList

/-- The pods of a namespace, whose names are different, and VDUs whose resources are different ones
of the kinds that a VDU may have. -/
structure Running (info : InstInfo) where
  pods : List RunningPod
  names : (pods.map RunningPod.name).Nodup
  resources : (info.vduReses.items.map fun item => (item.2.kind, item.2.name)).Nodup
  target : ∀ item ∈ info.vduReses.items, item.2.kind.target = true

/-- The pod was created by the resource. -/
def RunningPod.OwnedBy (pod : RunningPod) (res : Manifest) : Prop :=
  pod.ownerKind = res.kind ∧ pod.ownerName = res.name

/-! ## How pods are attributed -/

/-- The infrastructure drivers for containers. -/
inductive InfraDriver where
  | kubernetes
  | helm
deriving DecidableEq

/-- `_is_match_pod_naming_rule`. -/
def isMatchPodNamingRule : InfraDriver → Kind → String → String → Bool
  | .kubernetes, rscKind, rscName, podName => isMatchPodNaming rscKind rscName podName
  | .helm, _, rscName, podName => rscName.toList <:+: podName.toList

/-- `vnfc_resources` of `_update_vnfc_info`. -/
def vnfcResources (driver : InfraDriver) (allPods : List String) (info : InstInfo) :
    List VnfcResourceInfo :=
  allPods.flatMap fun podName =>
    (info.vduReses.items.filter fun item =>
      isMatchPodNamingRule driver item.2.kind item.2.name podName).map fun item =>
        ⟨podName, item.1, item.2.kind⟩

/-- Every pod is attributed to at most one VDU and just to the one whose resource created it, and the
name of that resource is got back from the name of the pod. -/
structure Attributed (driver : InfraDriver) (info : InstInfo) (pods : List RunningPod) : Prop where
  once : ((vnfcResources driver (pods.map RunningPod.name) info).map VnfcResourceInfo.id).Nodup
  owner : ∀ pod ∈ pods, ∀ vdu res, info.vduReses.get? vdu = some res →
    ((∃ vnfc ∈ vnfcResources driver (pods.map RunningPod.name) info,
      vnfc.id = pod.name ∧ vnfc.vduId = vdu) ↔ pod.OwnedBy res)
  inverse : ∀ pod ∈ pods, pod.ownerKind.target = true →
    getResourceName pod.name pod.ownerKind = pod.ownerName

/-! ## What looks like a pod of a resource -/

/-- What the name of a resource matches: a period of it stands for any character. -/
def Reads : List Char → List Char → Prop :=
  List.Forall₂ fun c d => c = '.' ∨ c = d

/-- Blocks of five characters. -/
def Fives (last : List Char) : Prop :=
  last ≠ [] ∧ 5 ∣ last.length ∧ ∀ c ∈ last, isAlnum c = true

/-- The name looks like one of a pod of the resource. -/
def LooksLike (kind : Kind) (name pod : List Char) : Prop :=
  match kind with
  | .pod => pod = name
  | .deployment => ∃ base hash last, pod = base ++ '-' :: (hash ++ '-' :: last) ∧ Reads name base ∧
      (0 < hash.length ∧ hash.length ≤ 10 ∧ ∀ c ∈ hash, isHex c = true) ∧ Fives last
  | .replicaSet => ∃ base last, pod = base ++ '-' :: last ∧ Reads name base ∧ Fives last
  | .daemonSet => ∃ base last, pod = base ++ '-' :: last ∧ Reads name base ∧ Fives last
  | .statefulSet => ∃ base last, pod = base ++ '-' :: last ∧ Reads name base ∧
      last ≠ [] ∧ ∀ c ∈ last, c.isDigit = true
  | .other _ => False

/-- To a driver the name looks like one of a pod of the resource: by its form, or because the name of
the resource is in it. -/
def Resembles : InfraDriver → Manifest → String → Prop
  | .kubernetes, res, podName => LooksLike res.kind res.name.toList podName.toList
  | .helm, res, podName => res.name.toList <:+: podName.toList

/-! ## The naming rule -/

/-- Without a line feed a text matches up to the end if it is one of the expression's. -/
lemma matchEnd_iff {r : Regex} (plain : '\n' ∉ text) : matchEnd r text = true ↔ text ∈ r.lang := by
  constructor
  · intro matched
    obtain ⟨st, inResults, ended⟩ := List.any_eq_true.mp matched
    obtain ⟨v, inLang, eq, -⟩ := Regex.results_lang inResults
    have whole : text = v ++ st.rest := eq
    rcases Bool.or_eq_true_iff.mp ended with none | feed
    · rw [of_decide_eq_true none, List.append_nil] at whole
      exact whole ▸ inLang
    · rw [of_decide_eq_true feed] at whole
      apply absurd _ plain
      rw [whole]
      exact List.mem_append_right v List.mem_cons_self
  · intro inLang
    obtain ⟨st, inResults, rest⟩ := Regex.exists_results ⟨0, text, fun _ => none⟩ inLang
      (List.append_nil text).symm
    apply List.any_eq_true.mpr
    refine ⟨st, inResults, ?_⟩
    rw [rest]
    rfl

/-- What the name of a resource, with what follows it, stands for. -/
lemma mem_nameThen {tail : Regex} (plain : '\n' ∉ w) :
    w ∈ (nameThen name tail).lang ↔ ∃ base v, w = base ++ v ∧ Reads name base ∧ v ∈ tail.lang := by
  induction name generalizing w with
  | nil =>
    constructor
    · intro mem
      exact ⟨[], w, rfl, .nil, mem⟩
    · rintro ⟨base, v, rfl, reads, mem⟩
      cases reads
      exact mem
  | cons c name ih =>
    show w ∈ (Regex.seq (if c = '.' then .char (· ≠ '\n') else .lit c) (nameThen name tail)).lang ↔ _
    rw [Regex.mem_lang_seq]
    constructor
    · rintro ⟨u, isC, v, inRest, rfl⟩
      obtain ⟨base, v, rfl, reads, mem⟩ :=
        (ih fun feed => plain (List.mem_append_right u feed)).mp inRest
      by_cases period : c = '.'
      · rw [if_pos period] at isC
        obtain ⟨d, -, rfl⟩ := isC
        exact ⟨d :: base, v, rfl, .cons (.inl period) reads, mem⟩
      · rw [if_neg period] at isC
        obtain rfl := Regex.mem_lang_lit.mp isC
        exact ⟨c :: base, v, rfl, .cons (.inr rfl) reads, mem⟩
    · rintro ⟨base, v, rfl, reads, mem⟩
      cases reads with
      | @cons c d name base same reads =>
        have rest := (ih (w := base ++ v) fun feed => plain (List.mem_cons_of_mem d feed)).mpr
          ⟨base, v, rfl, reads, mem⟩
        refine ⟨[d], ?_, base ++ v, rest, rfl⟩
        by_cases period : c = '.'
        · rw [if_pos period]
          refine ⟨d, decide_eq_true fun feed => ?_, rfl⟩
          exact plain (feed ▸ List.mem_cons_self)
        · rw [if_neg period, same.resolve_left period]
          exact Regex.mem_lang_lit.mpr rfl

lemma mem_hyphen_seq {r : Regex} :
    w ∈ (Regex.seq (.lit '-') r).lang ↔ ∃ v ∈ r.lang, w = '-' :: v := by
  rw [Regex.mem_lang_seq]
  constructor
  · rintro ⟨u, isHyphen, v, inR, rfl⟩
    obtain rfl := Regex.mem_lang_lit.mp isHyphen
    exact ⟨v, inR, rfl⟩
  · rintro ⟨v, inR, rfl⟩
    exact ⟨['-'], Regex.mem_lang_lit.mpr rfl, v, inR, rfl⟩

lemma mem_fives {n : Nat} : w ∈ (Regex.plus (.group n (.times alnum 4))).lang ↔ Fives w :=
  Regex.mem_lang_plus_times_char (p := isAlnum) (n := 4)

lemma mem_hash {n : Nat} : w ∈ (Regex.group n (.oneTo hexDigit 9)).lang ↔
    0 < w.length ∧ w.length ≤ 10 ∧ ∀ c ∈ w, isHex c = true :=
  Regex.mem_lang_oneTo_char (p := isHex) (n := 9)

/-- The rule of a kind with one part after the name of the resource. -/
lemma matchEnd_one {part : Regex} {Part : List Char → Prop} (plain : '\n' ∉ text)
    (means : ∀ v, v ∈ part.lang ↔ Part v) :
    matchEnd (nameThen name (.seq (.lit '-') part)) text = true ↔
      ∃ base last, text = base ++ '-' :: last ∧ Reads name base ∧ Part last := by
  rw [matchEnd_iff plain, mem_nameThen plain]
  constructor
  · rintro ⟨base, v, rfl, reads, mem⟩
    obtain ⟨last, inPart, rfl⟩ := mem_hyphen_seq.mp mem
    exact ⟨base, last, rfl, reads, (means last).mp inPart⟩
  · rintro ⟨base, last, rfl, reads, isPart⟩
    exact ⟨base, _, rfl, reads, mem_hyphen_seq.mpr ⟨last, (means last).mpr isPart, rfl⟩⟩

/-- The naming rules, as they are meant by the expressions. -/
theorem isMatchPodNaming_iff (plain : '\n' ∉ podName.toList) :
    isMatchPodNaming kind rscName podName = true ↔
      LooksLike kind rscName.toList podName.toList := by
  cases kind with
  | pod =>
    show decide (rscName = podName) = true ↔ podName.toList = rscName.toList
    rw [decide_eq_true_iff, String.toList_inj, eq_comm]
  | deployment =>
    show matchEnd (nameThen rscName.toList _) podName.toList = true ↔ _
    have means : ∀ v, v ∈ (Regex.seq (.group 1 (.oneTo hexDigit 9))
        (.seq (.lit '-') (.plus (.group 2 (.times alnum 4))))).lang ↔
          ∃ hash last, v = hash ++ '-' :: last ∧
            (0 < hash.length ∧ hash.length ≤ 10 ∧ ∀ c ∈ hash, isHex c = true) ∧ Fives last := by
      intro v
      rw [Regex.mem_lang_seq]
      constructor
      · rintro ⟨hash, inHash, u, inLast, rfl⟩
        obtain ⟨last, inFives, rfl⟩ := mem_hyphen_seq.mp inLast
        exact ⟨hash, last, rfl, mem_hash.mp inHash, mem_fives.mp inFives⟩
      · rintro ⟨hash, last, rfl, isHash, fives⟩
        exact ⟨hash, mem_hash.mpr isHash, _,
          mem_hyphen_seq.mpr ⟨last, mem_fives.mpr fives, rfl⟩, rfl⟩
    rw [matchEnd_one plain means]
    constructor
    · rintro ⟨base, v, eq, reads, hash, last, rfl, isHash, fives⟩
      exact ⟨base, hash, last, eq, reads, isHash, fives⟩
    · rintro ⟨base, hash, last, eq, reads, isHash, fives⟩
      exact ⟨base, _, eq, reads, hash, last, rfl, isHash, fives⟩
  | replicaSet => exact matchEnd_one plain fun v => mem_fives
  | daemonSet => exact matchEnd_one plain fun v => mem_fives
  | statefulSet => exact matchEnd_one plain fun v => Regex.mem_lang_plus_char
  | other name =>
    constructor
    · intro matched
      cases matched
    · exact False.elim

/-- The rules of the drivers. -/
lemma isMatchPodNamingRule_iff {driver : InfraDriver} {res : Manifest}
    (plain : '\n' ∉ podName.toList) :
    isMatchPodNamingRule driver res.kind res.name podName = true ↔ Resembles driver res podName := by
  cases driver with
  | kubernetes => exact isMatchPodNaming_iff plain
  | helm => exact decide_eq_true_iff

/-! ## Pods of the resource itself -/

lemma reads_self (name : List Char) : Reads name name :=
  List.forall₂_same.mpr fun _ _ => .inr rfl

lemma fives_of_five (length : last.length = 5) (all : ∀ c ∈ last, isAlnum c = true) : Fives last := by
  refine ⟨fun none => ?_, ?_, all⟩
  · rw [none] at length
    cases length
  · rw [length]

lemma isDigit_toDigits (n : Nat) : ∀ c ∈ Nat.toDigits 10 n, c.isDigit = true :=
  fun _ mem => Nat.isDigit_of_mem_toDigits (by decide) (by decide) mem

/-- A pod looks like one of the resource that created it. -/
lemma looksLike_of_created (target : kind.target = true) (created : Created kind name w) :
    LooksLike kind name w := by
  cases kind with
  | pod => exact created
  | deployment =>
    obtain ⟨hash, last, rfl, isHash, length, all⟩ := created
    exact ⟨name, hash, last, rfl, reads_self name, isHash, fives_of_five length all⟩
  | replicaSet =>
    obtain ⟨last, rfl, length, all⟩ := created
    exact ⟨name, last, rfl, reads_self name, fives_of_five length all⟩
  | daemonSet =>
    obtain ⟨last, rfl, length, all⟩ := created
    exact ⟨name, last, rfl, reads_self name, fives_of_five length all⟩
  | statefulSet =>
    obtain ⟨ordinal, rfl⟩ := created
    exact ⟨name, _, rfl, reads_self name, Nat.toDigits_ne_nil, isDigit_toDigits ordinal⟩
  | other name => cases target

/-- The name of a pod begins with that of the resource that created it. -/
lemma prefix_of_created (target : kind.target = true) (created : Created kind name w) :
    name <+: w := by
  cases kind with
  | pod =>
    have same : w = name := created
    rw [same]
  | deployment =>
    obtain ⟨hash, last, rfl, -⟩ := created
    exact List.prefix_append name _
  | replicaSet =>
    obtain ⟨last, rfl, -⟩ := created
    exact List.prefix_append name _
  | daemonSet =>
    obtain ⟨last, rfl, -⟩ := created
    exact List.prefix_append name _
  | statefulSet =>
    obtain ⟨ordinal, rfl⟩ := created
    exact List.prefix_append name _
  | other name => cases target

/-- A pod resembles those of the resource that created it. -/
lemma resembles_of_owned {driver : InfraDriver} {res : Manifest} {pod : RunningPod}
    (target : res.kind.target = true) (owned : pod.OwnedBy res) :
    Resembles driver res pod.name := by
  obtain ⟨sameKind, sameName⟩ := owned
  have created := pod.created
  rw [sameKind, sameName] at created
  cases driver with
  | kubernetes => exact looksLike_of_created target created
  | helm => exact (prefix_of_created target created).isInfix

/-! ## The name of the resource -/

lemma isAlnum_ne (all : ∀ c ∈ last, isAlnum c = true) : '-' ∉ last :=
  fun mem => absurd (all '-' mem) (by decide)

/-- Without its last part a name is what comes before it. -/
lemma dropLast_splitOn (noHyphen : '-' ∉ last) :
    (['-'].intercalate ((name ++ '-' :: last).splitOn '-').dropLast) = name := by
  rw [List.splitOn_append_cons_self, List.splitOn_eq_singleton noHyphen, List.dropLast_concat,
    List.intercalate_splitOn]

/-- The name of the resource that created a pod is got back from the name of the pod. -/
theorem getResourceName_created {name : String} (target : kind.target = true)
    (created : Created kind name.toList podName.toList) : getResourceName podName kind = name := by
  have one : ∀ last : List Char, podName.toList = name.toList ++ '-' :: last → '-' ∉ last →
      String.ofList (['-'].intercalate (podName.toList.splitOn '-').dropLast) = name := by
    intro last eq noHyphen
    rw [eq, dropLast_splitOn noHyphen, String.ofList_toList]
  cases kind with
  | pod => exact String.toList_inj.mp created
  | deployment =>
    obtain ⟨hash, last, eq, ⟨-, -, isHash⟩, -, all⟩ := created
    have noHash : '-' ∉ hash := fun mem => absurd (isHash '-' mem) (by decide)
    have parts : podName.toList.splitOn '-' = name.toList.splitOn '-' ++ [hash, last] := by
      rw [eq, List.splitOn_append_cons_self, List.splitOn_append_cons_self,
        List.splitOn_eq_singleton noHash, List.splitOn_eq_singleton (isAlnum_ne all)]
      rfl
    show String.ofList (['-'].intercalate ((podName.toList.splitOn '-').take
      ((podName.toList.splitOn '-').length - 2))) = name
    rw [parts, List.length_append]
    show String.ofList (['-'].intercalate (List.take ((name.toList.splitOn '-').length + 2 - 2) _))
      = name
    rw [Nat.add_sub_cancel, List.take_left, List.intercalate_splitOn, String.ofList_toList]
  | replicaSet =>
    obtain ⟨last, eq, -, all⟩ := created
    exact one last eq (isAlnum_ne all)
  | daemonSet =>
    obtain ⟨last, eq, -, all⟩ := created
    exact one last eq (isAlnum_ne all)
  | statefulSet =>
    obtain ⟨ordinal, eq⟩ := created
    exact one _ eq fun mem => absurd (isDigit_toDigits ordinal '-' mem) (by decide)
  | other name => cases target

/-! ## Main results -/

variable {driver : InfraDriver} {info : InstInfo}

lemma mem_vnfcResources {allPods : List String} {vnfc : VnfcResourceInfo} :
    vnfc ∈ vnfcResources driver allPods info ↔ ∃ podName ∈ allPods, ∃ item ∈ info.vduReses.items,
      isMatchPodNamingRule driver item.2.kind item.2.name podName = true ∧
        vnfc = ⟨podName, item.1, item.2.kind⟩ := by
  unfold vnfcResources
  rw [List.mem_flatMap]
  constructor
  · rintro ⟨podName, there, made⟩
    obtain ⟨item, matching, rfl⟩ := List.mem_map.mp made
    obtain ⟨mem, rule⟩ := List.mem_filter.mp matching
    exact ⟨podName, there, item, mem, rule, rfl⟩
  · rintro ⟨podName, there, item, mem, rule, rfl⟩
    exact ⟨podName, there, List.mem_map.mpr ⟨item, List.mem_filter.mpr ⟨mem, rule⟩, rfl⟩⟩

/-- A pod is attributed to the VDUs whose pods it resembles. -/
lemma attributed_to_iff (running : Running info) {pod : RunningPod} (there : pod ∈ running.pods)
    {vdu : String} {res : Manifest} (found : info.vduReses.get? vdu = some res) :
    (∃ vnfc ∈ vnfcResources driver (running.pods.map RunningPod.name) info,
      vnfc.id = pod.name ∧ vnfc.vduId = vdu) ↔ Resembles driver res pod.name := by
  rw [← isMatchPodNamingRule_iff pod.plain]
  constructor
  · rintro ⟨vnfc, made, isPod, isVdu⟩
    obtain ⟨podName, -, item, mem, rule, rfl⟩ := mem_vnfcResources.mp made
    have same : podName = pod.name := isPod
    have sameVdu : item.1 = vdu := isVdu
    have eq := VduReses.get?_of_mem mem
    rw [sameVdu, found] at eq
    rw [Option.some.inj eq, ← same]
    exact rule
  · intro rule
    refine ⟨⟨pod.name, vdu, res.kind⟩, ?_, rfl, rfl⟩
    exact mem_vnfcResources.mpr ⟨pod.name, List.mem_map.mpr ⟨pod, there, rfl⟩, (vdu, res),
      VduReses.mem_of_get? found, rule, rfl⟩

/-- A Deployment, and a ReplicaSet whose name is that of the Deployment with something like a hash. -/
def similarInfo : InstInfo where
  flavourId := "simple"
  vduReses := ⟨[("VDU1", ⟨.deployment, "vdu1", none⟩), ("VDU2", ⟨.replicaSet, "vdu1-5f9c", none⟩)],
    by decide⟩

/-- A pod of the ReplicaSet. -/
def similarPod : RunningPod where
  name := "vdu1-5f9c-x2k7q"
  ownerKind := .replicaSet
  ownerName := "vdu1-5f9c"
  created := ⟨"x2k7q".toList, by decide, by decide, List.all_eq_true.mp (by decide)⟩
  plain := by decide

/-- It runs alone. -/
def similarRunning : Running similarInfo where
  pods := [similarPod]
  names := List.nodup_singleton "vdu1-5f9c-x2k7q"
  resources := by decide
  target := by decide

end Tacker.Kubernetes
