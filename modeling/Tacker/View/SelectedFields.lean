import Tacker.View.Selector

/-!
# What a selector selects

The filter of a selector does not raise exactly if its fields can be read, and what is left of a
dictionary is what the selector returns, at every path.
-/

namespace Tacker.View

open Tacker.Basis Tacker.Fields

/-! ## Selected fields -/

lemma savedValue_cons {key : String} {rest : List String} (nonempty : rest ≠ [])
    (saved : Json) : savedValue (key :: rest) saved =
      if saved.isDict then savedValue rest ((saved.get? key).getD Json.empty) else none := by
  cases rest with
  | nil => exact absurd rfl nonempty
  | cons next rest => rfl

lemma putAt_cons {key : String} {rest : List String} (nonempty : rest ≠ []) (val odict : Json) :
    putAt (key :: rest) val odict =
      if odict.isDict then
        (putAt rest val ((odict.get? key).getD Json.empty)).map (odict.set key)
      else none := by
  cases rest with
  | nil => exact absurd rfl nonempty
  | cons next rest => rfl

lemma dictsAbove_empty {klist : List String} : Json.DictsAbove (Json.empty : Json) klist := by
  cases klist with
  | nil => exact Json.dictsAbove_nil _
  | cons key rest =>
    apply Json.dictsAbove_cons.mpr
    refine ⟨rfl, fun v found => ?_⟩
    cases found

lemma savedValue_isSome {klist : List String} (nonempty : klist ≠ []) (saved : Json) :
    (savedValue klist saved).isSome = true ↔ Json.DictsAbove saved klist := by
  induction klist generalizing saved with
  | nil => exact absurd rfl nonempty
  | cons key rest ih =>
    rw [Json.dictsAbove_cons]
    cases dict : saved.isDict with
    | false =>
      have raises : savedValue (key :: rest) saved = none := by
        cases rest with
        | nil => exact if_neg (by rw [dict]; exact Bool.false_ne_true)
        | cons next rest => exact if_neg (by rw [dict]; exact Bool.false_ne_true)
      rw [raises]
      exact ⟨fun isSome => (by cases isSome), fun both => (by cases both.1)⟩
    | true =>
      cases rest with
      | nil =>
        have reads : savedValue [key] saved =
            some ((saved.get? key).filter fun v => !v.isNull) := if_pos dict
        rw [reads]
        exact ⟨fun _ => ⟨rfl, fun v _ => Json.dictsAbove_nil v⟩, fun _ => rfl⟩
      | cons next rest =>
        rw [savedValue_cons (List.cons_ne_nil next rest), if_pos dict,
          ih (List.cons_ne_nil next rest)]
        cases found : saved.get? key with
        | none => exact ⟨fun _ => ⟨rfl, fun v absent => (by cases absent)⟩,
            fun _ => dictsAbove_empty⟩
        | some v =>
          constructor
          · intro above
            refine ⟨rfl, fun v' same => ?_⟩
            rw [← Option.some.inj same]
            exact above
          · exact fun both => both.2 v rfl

/-- The saved value is what is at the path, if that is not `None`. -/
lemma savedValue_eq {klist : List String} (nonempty : klist ≠ []) {saved : Json}
    (above : Json.DictsAbove saved klist) :
    savedValue klist saved =
      some ((saved.reach (Json.keyPath klist)).filter fun v => !v.isNull) := by
  induction klist generalizing saved with
  | nil => exact absurd rfl nonempty
  | cons key rest ih =>
    obtain ⟨dict, below⟩ := Json.dictsAbove_cons.mp above
    cases rest with
    | nil =>
      apply (if_pos dict).trans
      show some ((saved.get? key).filter _) = some (((saved.get? key).bind some).filter _)
      rw [Option.bind_fun_some]
    | cons next rest =>
      rw [savedValue_cons (List.cons_ne_nil next rest), if_pos dict, Json.keyPath_cons,
        Json.reach_cons]
      show _ = some (((saved.get? key).bind _).filter _)
      cases found : saved.get? key with
      | none =>
        apply (ih (List.cons_ne_nil next rest) dictsAbove_empty).trans
        rfl
      | some v =>
        exact ih (List.cons_ne_nil next rest) (below v found)

/-- What `putAt` makes of a dictionary. -/
structure PutAt (klist : List String) (val odict odict' : Json) : Prop where
  below : ∀ path, odict'.reach (Json.keyPath klist ++ path) = val.reach path
  above : ∀ front, front <+: klist → front ≠ klist →
    ∃ v, odict'.reach (Json.keyPath front) = some v ∧ v.isDict = true
  aside : ∀ path, ¬ Json.keyPath klist <+: path → ¬ path <+: Json.keyPath klist →
    odict'.reach path = odict.reach path

lemma reach_set {t v : Json} (dict : t.isDict = true) (key : String) (path : Path) :
    (t.set key v).reach (.key key :: path) = v.reach path := by
  have found : (t.set key v).child? (.key key) = some v := by
    show (t.set key v).get? key = _
    rw [Json.get?_set dict, if_pos rfl]
  rw [Json.reach_cons, found]
  rfl

lemma reach_set_other {t v : Json} (dict : t.isDict = true) {key key' : String} (ne : key' ≠ key)
    (path : Path) : (t.set key v).reach (.key key' :: path) = t.reach (.key key' :: path) := by
  have same : (t.set key v).child? (.key key') = t.child? (.key key') := by
    show (t.set key v).get? key' = t.get? key'
    rw [Json.get?_set dict, if_neg ne]
  rw [Json.reach_cons, Json.reach_cons, same]

lemma isDict_set {t : Json} (dict : t.isDict = true) (key : String) (v : Json) :
    (t.set key v).isDict = true := by
  cases t with
  | obj keys unique value => rfl
  | _ => cases dict

lemma reach_index {t : Json} (dict : t.isDict = true) (i : Nat) (path : Path) :
    t.reach (.index i :: path) = none := by
  have absent : t.child? (.index i) = none := Json.item?_of_isDict dict i
  rw [Json.reach_cons, absent]
  rfl

/-- A member that was set, with what `putAt` made of it. -/
lemma putAt_member {key : String} {rest : List String} {val odict sub sub' : Json}
    (dict : odict.isDict = true) (put : PutAt rest val sub sub')
    (inner : ∀ path, ¬ Json.keyPath rest <+: path → ¬ path <+: Json.keyPath rest →
      sub.reach path = odict.reach (.key key :: path)) :
    PutAt (key :: rest) val odict (odict.set key sub') where
  below path := (reach_set dict key _).trans (put.below path)
  above front isFront ne := by
    cases front with
    | nil => exact ⟨_, rfl, isDict_set dict key sub'⟩
    | cons key' front =>
      obtain ⟨rfl, isFront'⟩ := List.cons_prefix_cons.mp isFront
      obtain ⟨v, reached, isDict⟩ := put.above front isFront' fun same => ne (congrArg _ same)
      exact ⟨v, (reach_set dict key' _).trans reached, isDict⟩
  aside path notBelow notAbove := by
    cases path with
    | nil => exact absurd List.nil_prefix notAbove
    | cons step path =>
      cases step with
      | index i => rw [reach_index dict, reach_index (isDict_set dict key sub')]
      | key key' =>
        by_cases same : key' = key
        · subst same
          have notBelow' : ¬ Json.keyPath rest <+: path := fun isFront =>
            notBelow (List.cons_prefix_cons.mpr ⟨rfl, isFront⟩)
          have notAbove' : ¬ path <+: Json.keyPath rest := fun isFront =>
            notAbove (List.cons_prefix_cons.mpr ⟨rfl, isFront⟩)
          rw [reach_set dict, put.aside path notBelow' notAbove', inner path notBelow' notAbove']
        · exact reach_set_other dict same path

lemma putAt_spec {klist : List String} (nonempty : klist ≠ []) (val : Json) {odict : Json}
    (above : Json.DictsAbove odict klist) :
    ∃ odict', putAt klist val odict = some odict' ∧ PutAt klist val odict odict' := by
  have whole : ∀ t : Json, PutAt [] val t val := by
    intro t
    constructor
    · exact fun path => rfl
    · exact fun front isFront ne => absurd (List.prefix_nil.mp isFront) ne
    · exact fun path notBelow => absurd List.nil_prefix notBelow
  induction klist generalizing odict with
  | nil => exact absurd rfl nonempty
  | cons key rest ih =>
    obtain ⟨dict, below⟩ := Json.dictsAbove_cons.mp above
    cases rest with
    | nil =>
      refine ⟨odict.set key val, if_pos dict, putAt_member dict (whole Json.empty) ?_⟩
      exact fun path notBelow => absurd List.nil_prefix notBelow
    | cons next rest =>
      have inner : Json.DictsAbove ((odict.get? key).getD Json.empty) (next :: rest) := by
        cases found : odict.get? key with
        | none => exact dictsAbove_empty
        | some v => exact below v found
      obtain ⟨sub', made, put⟩ := ih (List.cons_ne_nil next rest) inner
      refine ⟨odict.set key sub', ?_, putAt_member dict put ?_⟩
      · rw [putAt_cons (List.cons_ne_nil next rest), if_pos dict, made]
        rfl
      · intro path _ notAbove
        rw [Json.reach_cons]
        show _ = (odict.get? key).bind _
        cases found : odict.get? key with
        | none =>
          cases path with
          | nil => exact absurd List.nil_prefix notAbove
          | cons step path =>
            cases step with
            | key key' => rfl
            | index i => rfl
        | some v => rfl

/-- A value that is put where it is already changes nothing. -/
lemma putAt_self {klist : List String} {val odict : Json}
    (reached : odict.reach (Json.keyPath klist) = some val) : putAt klist val odict = some odict := by
  induction klist generalizing odict with
  | nil => rfl
  | cons key rest ih =>
    rw [Json.keyPath_cons, Json.reach_cons] at reached
    obtain ⟨v, found, below⟩ := Option.bind_eq_some_iff.mp reached
    have found : odict.get? key = some v := found
    have dict := Json.isDict_of_get? found
    cases rest with
    | nil =>
      obtain rfl := Option.some.inj below
      apply (if_pos dict).trans
      rw [Json.set_self found]
    | cons next rest =>
      rw [putAt_cons (List.cons_ne_nil next rest), if_pos dict, found, Option.getD_some, ih below,
        Option.map_some, Json.set_self found]

/-! ## The loop over fields -/

/-- What is known in the loop over `fields`: some attributes were moved away, and the values of the
fields that are done are back. -/
structure Selected (whole : Json) (heads : List String) (done : List (List String))
    (odict saved : Json) : Prop where
  dict : odict.isDict = true
  savedDict : saved.isDict = true
  present : ∀ key ∈ heads, (whole.get? key).isSome = true
  saved_get? : ∀ key, saved.get? key = if key ∈ heads then whole.get? key else none
  doneHeads : ∀ klist ∈ done, 2 ≤ klist.length ∧ klist.headD "" ∈ heads
  others : ∀ key path, key ∉ heads →
    odict.reach (.key key :: path) = whole.reach (.key key :: path)
  below : ∀ klist ∈ done, whole.NonNull (Json.keyPath klist) → ∀ path,
    odict.reach (Json.keyPath klist ++ path) = whole.reach (Json.keyPath klist ++ path)
  above : ∀ klist ∈ done, whole.NonNull (Json.keyPath klist) → ∀ front, front <+: klist →
    front ≠ klist → ∃ v, odict.reach (Json.keyPath front) = some v ∧ v.isDict = true
  gone : ∀ key path, key ∈ heads → ¬ AtFields done whole (.key key :: path) →
    odict.reach (.key key :: path) = none

variable {whole odict saved : Json} {heads : List String} {done : List (List String)}

lemma key_injective : Function.Injective (Json.Step.key : String → Json.Step String) :=
  fun _ _ same => Json.Step.key.inj same

lemma keyPath_below {front klist : List String} :
    Json.keyPath front <+: Json.keyPath klist ↔ front <+: klist :=
  List.prefix_map_iff_of_injective key_injective

/-- A field starts with its attribute. -/
lemma keyPath_nested {klist : List String} (nested : 2 ≤ klist.length) :
    ∃ rest, klist = klist.headD "" :: rest ∧ rest ≠ [] := by
  match klist, nested with
  | key :: next :: rest, _ => exact ⟨next :: rest, rfl, List.cons_ne_nil next rest⟩

lemma selected_start (dict : whole.isDict = true) :
    Selected whole [] [] whole Json.empty where
  dict := dict
  savedDict := rfl
  present _ mem := absurd mem List.not_mem_nil
  saved_get? _ := rfl
  doneHeads _ mem := absurd mem List.not_mem_nil
  others _ _ _ := rfl
  below _ mem := absurd mem List.not_mem_nil
  above _ mem := absurd mem List.not_mem_nil
  gone _ _ mem := absurd mem List.not_mem_nil

lemma Selected.mem_keys (selected : Selected whole heads done odict saved) (key : String) :
    key ∈ saved.keys ↔ key ∈ heads := by
  rw [Json.mem_keys_iff, selected.saved_get?]
  by_cases mem : key ∈ heads
  · rw [if_pos mem]
    exact ⟨fun _ => mem, fun _ => selected.present key mem⟩
  · rw [if_neg mem]
    exact ⟨fun isSome => (by cases isSome), fun mem' => absurd mem' mem⟩

lemma reach_key {t : Json} {key : String} (path : Path) :
    t.reach (.key key :: path) = (t.get? key).bind fun v => v.reach path := rfl

lemma reach_del {t : Json} {key key' : String} (path : Path) :
    (t.del key).reach (.key key' :: path) =
      if key' = key then none else t.reach (.key key' :: path) := by
  rw [reach_key, Json.get?_del, reach_key]
  by_cases same : key' = key
  · rw [if_pos same, if_pos same]
    rfl
  · rw [if_neg same, if_neg same]

/-- An attribute is moved away, or was already. -/
lemma Selected.saveAttr (selected : Selected whole heads done odict saved) {attr : String}
    (present : (whole.get? attr).isSome = true) :
    ∃ odict' saved', saveAttr attr (odict, saved) = some (odict', saved') ∧
      Selected whole (attr :: heads) done odict' saved' := by
  by_cases mem : attr ∈ heads
  · have same : ∀ key, key ∈ attr :: heads ↔ key ∈ heads := by
      intro key
      rw [List.mem_cons]
      constructor
      · rintro (rfl | mem')
        · exact mem
        · exact mem'
      · exact .inr
    refine ⟨odict, saved, if_pos ((selected.mem_keys attr).mpr mem), ?_⟩
    exact {
      dict := selected.dict
      savedDict := selected.savedDict
      present := fun key mem' => selected.present key ((same key).mp mem')
      saved_get? := fun key => by simp only [same, selected.saved_get?]
      doneHeads := fun klist mem' => ⟨(selected.doneHeads klist mem').1,
        (same _).mpr (selected.doneHeads klist mem').2⟩
      others := fun key path other => selected.others key path fun mem' =>
        other ((same key).mpr mem')
      below := selected.below
      above := selected.above
      gone := fun key path mem' => selected.gone key path ((same key).mp mem') }
  · obtain ⟨v, found⟩ := Option.isSome_iff_exists.mp present
    have here : odict.get? attr = some v := by
      have same := selected.others attr [] mem
      rw [reach_key, reach_key, found] at same
      obtain ⟨u, found', eq⟩ := Option.bind_eq_some_iff.mp same
      rw [found', ← Option.some.inj eq]
    have away : ∀ klist ∈ done, klist.headD "" ≠ attr := fun klist mem' same =>
      mem (same ▸ (selected.doneHeads klist mem').2)
    have stays : ∀ {key : String} (path : Path), key ≠ attr →
        (odict.del attr).reach (.key key :: path) = odict.reach (.key key :: path) :=
      fun path ne => (reach_del path).trans (if_neg ne)
    refine ⟨odict.del attr, saved.set attr v, ?_, ?_⟩
    · apply (if_neg fun mem' => mem ((selected.mem_keys attr).mp mem')).trans
      rw [here]
      rfl
    · constructor
      · exact isDict_del attr selected.dict
      · exact isDict_set selected.savedDict attr v
      · intro key mem'
        rcases List.mem_cons.mp mem' with rfl | mem'
        · exact present
        · exact selected.present key mem'
      · intro key
        rw [Json.get?_set selected.savedDict]
        by_cases same : key = attr
        · subst same
          rw [if_pos rfl, if_pos List.mem_cons_self, found]
        · rw [if_neg same, selected.saved_get?]
          simp only [List.mem_cons, same, false_or]
      · exact fun klist mem' => ⟨(selected.doneHeads klist mem').1,
          List.mem_cons_of_mem attr (selected.doneHeads klist mem').2⟩
      · intro key path other
        have ne : key ≠ attr := fun same => other (same ▸ List.mem_cons_self)
        rw [stays path ne]
        exact selected.others key path fun mem' => other (List.mem_cons_of_mem attr mem')
      · intro klist mem' notNull path
        obtain ⟨rest, isCons, _⟩ := keyPath_nested (selected.doneHeads klist mem').1
        have same := selected.below klist mem' notNull path
        rw [isCons, Json.keyPath_cons, List.cons_append] at same ⊢
        rw [stays _ (away klist mem'), same]
      · intro klist mem' notNull front isFront ne
        cases front with
        | nil => exact ⟨_, rfl, isDict_del attr selected.dict⟩
        | cons key front =>
          obtain ⟨rest, isCons, _⟩ := keyPath_nested (selected.doneHeads klist mem').1
          have isHead : key = klist.headD "" := by
            rw [isCons] at isFront
            exact (List.cons_prefix_cons.mp isFront).1
          obtain ⟨v, reached, isDict⟩ := selected.above klist mem' notNull _ isFront ne
          refine ⟨v, ?_, isDict⟩
          rw [Json.keyPath_cons, stays _ (isHead ▸ away klist mem')]
          exact reached
      · intro key path mem' notAt
        by_cases same : key = attr
        · exact (reach_del path).trans (if_pos same)
        · rw [stays path same]
          exact selected.gone key path ((List.mem_cons.mp mem').resolve_left same) notAt

/-- A field whose value is not put back. -/
lemma Selected.skip (selected : Selected whole heads done odict saved) {klist : List String}
    (nested : 2 ≤ klist.length) (mem : klist.headD "" ∈ heads)
    (isNull : ¬ whole.NonNull (Json.keyPath klist)) :
    Selected whole heads (done ++ [klist]) odict saved where
  dict := selected.dict
  savedDict := selected.savedDict
  present := selected.present
  saved_get? := selected.saved_get?
  doneHeads klist' mem' := by
    rcases List.mem_append.mp mem' with mem' | mem'
    · exact selected.doneHeads klist' mem'
    · rw [List.mem_singleton.mp mem']
      exact ⟨nested, mem⟩
  others := selected.others
  below klist' mem' notNull := by
    rcases List.mem_append.mp mem' with mem' | mem'
    · exact selected.below klist' mem' notNull
    · rw [List.mem_singleton.mp mem'] at notNull
      exact absurd notNull isNull
  above klist' mem' notNull := by
    rcases List.mem_append.mp mem' with mem' | mem'
    · exact selected.above klist' mem' notNull
    · rw [List.mem_singleton.mp mem'] at notNull
      exact absurd notNull isNull
  gone key path mem' notAt := by
    apply selected.gone key path mem'
    rintro ⟨klist', mem'', at?⟩
    exact notAt ⟨klist', List.mem_append_left _ mem'', at?⟩

/-- A field whose value is put back. -/
lemma Selected.put (selected : Selected whole heads done odict saved) {klist : List String}
    (nested : 2 ≤ klist.length) (mem : klist.headD "" ∈ heads) {val odict' : Json}
    (reached : whole.reach (Json.keyPath klist) = some val) (notNull : val.isNull = false)
    (fresh : ∀ klist' ∈ done, whole.NonNull (Json.keyPath klist') → ¬ klist' <+: klist)
    (put : PutAt klist val odict odict') :
    Selected whole heads (done ++ [klist]) odict' saved := by
  have inside : ∀ path : Path, whole.reach (Json.keyPath klist ++ path) = val.reach path := by
    intro path
    rw [Json.reach_append, reached]
    rfl
  have aside : ∀ (key : String) (path : Path), key ≠ klist.headD "" →
      odict'.reach (.key key :: path) = odict.reach (.key key :: path) := by
    intro key path ne
    obtain ⟨rest, isCons, _⟩ := keyPath_nested nested
    have notFront : ∀ {path' : Path}, ¬ (Json.Step.key key :: path' <+: Json.keyPath klist) ∧
        ¬ Json.keyPath klist <+: .key key :: path' := by
      intro path'
      rw [isCons, Json.keyPath_cons]
      constructor
      · exact fun isFront => ne (key_injective (List.cons_prefix_cons.mp isFront).1)
      · exact fun isFront => ne (key_injective (List.cons_prefix_cons.mp isFront).1).symm
    exact put.aside _ notFront.2 notFront.1
  constructor
  · obtain ⟨rest, isCons, _⟩ := keyPath_nested nested
    obtain ⟨v, root, isDict⟩ := put.above [] List.nil_prefix (by rw [isCons]; simp)
    rw [Option.some.inj root]
    exact isDict
  · exact selected.savedDict
  · exact selected.present
  · exact selected.saved_get?
  · intro klist' mem'
    rcases List.mem_append.mp mem' with mem' | mem'
    · exact selected.doneHeads klist' mem'
    · rw [List.mem_singleton.mp mem']
      exact ⟨nested, mem⟩
  · intro key path other
    rw [aside key path fun same => other (same ▸ mem)]
    exact selected.others key path other
  · intro klist' mem' notNull' path
    rcases List.mem_append.mp mem' with mem' | mem'
    · by_cases isBelow : Json.keyPath klist <+: Json.keyPath klist' ++ path
      · obtain ⟨path', same⟩ := isBelow
        rw [← same, put.below, inside]
      · rw [put.aside _ isBelow, selected.below klist' mem' notNull' path]
        intro isAbove
        exact fresh klist' mem' notNull'
          (keyPath_below.mp ((List.prefix_append _ path).trans isAbove))
    · rw [List.mem_singleton.mp mem', put.below, inside]
  · intro klist' mem' notNull' front isFront ne
    rcases List.mem_append.mp mem' with mem' | mem'
    · by_cases isBelow : klist <+: front
      · obtain ⟨path', same⟩ := keyPath_below.mpr isBelow
        rw [← same, put.below]
        obtain ⟨u, reached', _⟩ := notNull'
        obtain ⟨rest, rfl⟩ := isFront
        rw [Json.keyPath, List.map_append] at reached'
        rw [Json.reach_append] at reached'
        obtain ⟨v, reached'', down⟩ := Option.bind_eq_some_iff.mp reached'
        have isDict : v.isDict = true := by
          cases rest with
          | nil => exact absurd (List.append_nil front).symm ne
          | cons key rest =>
            rw [List.map_cons, reach_key] at down
            obtain ⟨_, found, _⟩ := Option.bind_eq_some_iff.mp down
            exact Json.isDict_of_get? found
        refine ⟨v, ?_, isDict⟩
        rw [← inside, same]
        exact reached''
      · by_cases isAbove : front <+: klist
        · apply put.above front isAbove
          rintro rfl
          exact isBelow (List.prefix_refl _)
        · rw [put.aside _ (fun isFront' => isBelow (keyPath_below.mp isFront'))
            fun isFront' => isAbove (keyPath_below.mp isFront')]
          exact selected.above klist' mem' notNull' front isFront ne
    · obtain rfl := List.mem_singleton.mp mem'
      exact put.above front isFront ne
  · intro key path mem' notAt
    have notHere : ¬ (Json.keyPath klist <+: .key key :: path ∨
        .key key :: path <+: Json.keyPath klist) := fun at? =>
      notAt ⟨klist, List.mem_append_right _ List.mem_cons_self, ⟨val, reached, notNull⟩, at?⟩
    rw [put.aside _ (fun isFront => notHere (.inl isFront)) fun isFront => notHere (.inr isFront)]
    apply selected.gone key path mem'
    rintro ⟨klist', mem'', at?⟩
    exact notAt ⟨klist', List.mem_append_left _ mem'', at?⟩

/-- What is on the way to a field in the loop is a dictionary, if it is one in the whole. -/
lemma Selected.dictsAbove (selected : Selected whole heads done odict saved) {klist : List String}
    (mem : klist.headD "" ∈ heads) (above : Json.DictsAbove whole klist) :
    Json.DictsAbove odict klist := by
  intro front isFront ne v reached
  cases front with
  | nil =>
    rw [← Option.some.inj reached]
    exact selected.dict
  | cons key front =>
    have isHead : key ∈ heads := by
      cases klist with
      | nil => exact absurd (List.prefix_nil.mp isFront) (List.cons_ne_nil key front)
      | cons head rest =>
        rw [(List.cons_prefix_cons.mp isFront).1]
        exact mem
    by_cases at? : AtFields done whole (Json.keyPath (key :: front))
    · obtain ⟨klist', mem', notNull, isBelow | isAbove⟩ := at?
      · obtain ⟨path, same⟩ := isBelow
        rw [← same, selected.below klist' mem' notNull path, same] at reached
        exact above _ isFront ne v reached
      · by_cases same : key :: front = klist'
        · have here := selected.below klist' mem' notNull []
          rw [List.append_nil, ← same] at here
          exact above _ isFront ne v (here.symm.trans reached)
        · obtain ⟨u, reached', isDict⟩ := selected.above klist' mem' notNull _
            (keyPath_below.mp isAbove) same
          rw [Option.some.inj (reached.symm.trans reached')]
          exact isDict
    · have absent := selected.gone key (Json.keyPath front) isHead at?
      rw [Json.keyPath_cons] at reached
      rw [absent] at reached
      cases reached

/-- A field that is below another one is back already. -/
lemma Selected.already (selected : Selected whole heads done odict saved) {klist : List String}
    (nested : 2 ≤ klist.length) (mem : klist.headD "" ∈ heads)
    (notNull : whole.NonNull (Json.keyPath klist)) {klist' : List String} (mem' : klist' ∈ done)
    (notNull' : whole.NonNull (Json.keyPath klist')) (isFront : klist' <+: klist) :
    Selected whole heads (done ++ [klist]) odict saved := by
  obtain ⟨val, reached, isVal⟩ := notNull
  have below : ∀ path, odict.reach (Json.keyPath klist ++ path) =
      whole.reach (Json.keyPath klist ++ path) := by
    intro path
    obtain ⟨rest, same⟩ := keyPath_below.mpr isFront
    rw [← same, List.append_assoc]
    exact selected.below klist' mem' notNull' _
  constructor
  · exact selected.dict
  · exact selected.savedDict
  · exact selected.present
  · exact selected.saved_get?
  · intro other memOther
    rcases List.mem_append.mp memOther with memOther | memOther
    · exact selected.doneHeads other memOther
    · rw [List.mem_singleton.mp memOther]
      exact ⟨nested, mem⟩
  · exact selected.others
  · intro other memOther notNullOther
    rcases List.mem_append.mp memOther with memOther | memOther
    · exact selected.below other memOther notNullOther
    · rw [List.mem_singleton.mp memOther]
      exact below
  · intro other memOther notNullOther front isFront' ne
    rcases List.mem_append.mp memOther with memOther | memOther
    · exact selected.above other memOther notNullOther front isFront' ne
    · obtain rfl := List.mem_singleton.mp memOther
      by_cases isBelow : klist' <+: front
      · obtain ⟨path, same⟩ := keyPath_below.mpr isBelow
        obtain ⟨rest, same'⟩ := keyPath_below.mpr isFront'
        rw [← same', Json.reach_append] at reached
        obtain ⟨v, here, _⟩ := Option.bind_eq_some_iff.mp reached
        refine ⟨v, ?_, ?_⟩
        · rw [← same, selected.below klist' mem' notNull' path, same]
          exact here
        · rw [← Json.reach_append, same'] at reached
          exact Json.dictsAbove_of_reach reached front isFront' ne v here
      · have isAbove := (List.prefix_or_prefix_of_prefix isFront isFront').resolve_left isBelow
        apply selected.above klist' mem' notNull' front isAbove
        rintro rfl
        exact isBelow isAbove
  · intro key path memKey notAt
    apply selected.gone key path memKey
    rintro ⟨other, memOther, isAt⟩
    exact notAt ⟨other, List.mem_append_left _ memOther, isAt⟩

/-- The value of a field is put back. -/
lemma Selected.readd (selected : Selected whole heads done odict saved)
    (wholeDict : whole.isDict = true) {klist : List String} (nested : 2 ≤ klist.length)
    (mem : klist.headD "" ∈ heads) :
    ((readd klist (odict, saved)).isSome = true ↔ Json.DictsAbove whole klist) ∧
      ∀ state, readd klist (odict, saved) = some state →
        Selected whole heads (done ++ [klist]) state.1 state.2 := by
  obtain ⟨rest, isCons, _⟩ := keyPath_nested nested
  have nonempty : klist ≠ [] := ne_nil_of_nested nested
  have sameHead : saved.get? (klist.headD "") = whole.get? (klist.headD "") := by
    rw [selected.saved_get?, if_pos mem]
  have sameAbove : Json.DictsAbove saved klist ↔ Json.DictsAbove whole klist := by
    rw [isCons, Json.dictsAbove_cons, Json.dictsAbove_cons, sameHead,
      selected.savedDict, wholeDict]
  have sameReach : saved.reach (Json.keyPath klist) = whole.reach (Json.keyPath klist) := by
    rw [isCons, Json.keyPath_cons, reach_key, reach_key, sameHead]
  by_cases above : Json.DictsAbove whole klist
  · have value : savedValue klist saved =
        some ((whole.reach (Json.keyPath klist)).filter fun v => !v.isNull) := by
      rw [savedValue_eq nonempty (sameAbove.mpr above), sameReach]
    have reads : ∀ val, ((whole.reach (Json.keyPath klist)).filter fun v => !v.isNull) = val →
        View.readd klist (odict, saved) = putBack klist (odict, saved) val := by
      intro val isVal
      show (savedValue klist saved).bind _ = _
      rw [value, isVal]
      rfl
    cases found : (whole.reach (Json.keyPath klist)).filter fun v => !v.isNull with
    | none =>
      rw [reads none found]
      refine ⟨⟨fun _ => above, fun _ => rfl⟩, fun state made => ?_⟩
      rw [← Option.some.inj made]
      apply selected.skip nested mem
      rintro ⟨v, reached, notNull⟩
      rw [reached, Option.filter_some, notNull] at found
      cases found
    | some val =>
      obtain ⟨reached, isVal⟩ := Option.filter_eq_some_iff.mp found
      have notNull : val.isNull = false := by
        rw [← Bool.not_eq_true']
        exact isVal
      have reads := reads (some val) found
      by_cases fresh : ∀ klist' ∈ done, whole.NonNull (Json.keyPath klist') → ¬ klist' <+: klist
      · obtain ⟨odict', made, put⟩ := putAt_spec nonempty val (selected.dictsAbove mem above)
        have reads' : View.readd klist (odict, saved) = some (odict', saved) := by
          apply reads.trans
          show (putAt klist val odict).map _ = _
          rw [made]
          rfl
        rw [reads']
        refine ⟨⟨fun _ => above, fun _ => rfl⟩, fun state made => ?_⟩
        rw [← Option.some.inj made]
        exact selected.put nested mem reached notNull fresh put
      · push Not at fresh
        obtain ⟨klist', mem', notNull', isFront⟩ := fresh
        have here : odict.reach (Json.keyPath klist) = some val := by
          obtain ⟨path, same⟩ := keyPath_below.mpr isFront
          rw [← same, selected.below klist' mem' notNull' path, same]
          exact reached
        have reads' : View.readd klist (odict, saved) = some (odict, saved) := by
          apply reads.trans
          show (putAt klist val odict).map _ = _
          rw [putAt_self here]
          rfl
        rw [reads']
        refine ⟨⟨fun _ => above, fun _ => rfl⟩, fun state made => ?_⟩
        rw [← Option.some.inj made]
        exact selected.already nested mem ⟨val, reached, notNull⟩ mem' notNull' isFront
  · have raises : savedValue klist saved = none := by
      apply Option.not_isSome_iff_eq_none.mp
      intro isSome
      exact above (sameAbove.mp ((savedValue_isSome nonempty saved).mp isSome))
    have raises' : View.readd klist (odict, saved) = none := by
      show (savedValue klist saved).bind _ = none
      rw [raises]
      rfl
    rw [raises']
    exact ⟨⟨fun isSome => (by cases isSome), fun isAbove => absurd isAbove above⟩,
      fun _ made => (by cases made)⟩

/-- One turn of the loop. -/
lemma Selected.selectField (selected : Selected whole heads done odict saved)
    (wholeDict : whole.isDict = true) {klist : List String} (nested : 2 ≤ klist.length) :
    ((selectField (odict, saved) klist).isSome = true ↔
        Json.DictsAbove whole klist ∧ (whole.get? (klist.headD "")).isSome = true) ∧
      ∀ state, selectField (odict, saved) klist = some state →
        Selected whole (klist.headD "" :: heads) (done ++ [klist]) state.1 state.2 := by
  have unfolds : View.selectField (odict, saved) klist =
      (View.saveAttr (klist.headD "") (odict, saved)).bind (View.readd klist) := if_neg (by omega)
  rw [unfolds]
  cases present : (whole.get? (klist.headD "")).isSome with
  | false =>
    have notHead : klist.headD "" ∉ heads := by
      intro mem
      rw [selected.present _ mem] at present
      cases present
    have absent : odict.get? (klist.headD "") = none := by
      have same := selected.others (klist.headD "") [] notHead
      have none : whole.get? (klist.headD "") = none := by
        apply Option.not_isSome_iff_eq_none.mp
        rw [present]
        exact Bool.false_ne_true
      rw [reach_key, reach_key, none] at same
      cases found : odict.get? (klist.headD "") with
      | none => rfl
      | some v =>
        rw [found] at same
        cases same
    have raises : View.saveAttr (klist.headD "") (odict, saved) = none := by
      apply (if_neg fun mem => notHead ((selected.mem_keys _).mp mem)).trans
      rw [absent]
      rfl
    rw [raises]
    exact ⟨⟨fun isSome => (by cases isSome), fun both => (by cases both.2)⟩,
      fun _ made => (by cases made)⟩
  | true =>
    obtain ⟨odict', saved', moved, selected'⟩ := selected.saveAttr present
    rw [moved, Option.bind_some]
    have step := selected'.readd wholeDict nested List.mem_cons_self
    refine ⟨step.1.trans ⟨fun above => ⟨above, rfl⟩, fun both => both.1⟩, step.2⟩

/-- The loop over `fields`. -/
lemma selectAll_spec {fields : List (List String)}
    (nested : ∀ klist ∈ fields, 2 ≤ klist.length) (dict : whole.isDict = true) :
    ((fields.foldlM selectField (whole, Json.empty)).isSome = true ↔
        ∀ klist ∈ fields, Json.DictsAbove whole klist ∧
          (whole.get? (klist.headD "")).isSome = true) ∧
      ∀ state, fields.foldlM selectField (whole, Json.empty) = some state →
        Selected whole (fields.map fun klist => klist.headD "").reverse fields state.1 state.2 := by
  induction fields using List.reverseRecOn with
  | nil =>
    refine ⟨⟨fun _ klist mem => absurd mem List.not_mem_nil, fun _ => rfl⟩, fun state made => ?_⟩
    rw [← Option.some.inj made]
    exact selected_start dict
  | append_singleton fields klist ih =>
    have here : 2 ≤ klist.length := nested klist (List.mem_append_right _ List.mem_cons_self)
    obtain ⟨reads, selects⟩ := ih fun klist' mem => nested klist' (List.mem_append_left _ mem)
    have steps : (fields ++ [klist]).foldlM selectField (whole, Json.empty) =
        (fields.foldlM selectField (whole, Json.empty)).bind fun state =>
          selectField state klist := by
      rw [List.foldlM_append]
      apply congrArg (fun g => (fields.foldlM selectField (whole, Json.empty)).bind g)
      funext state
      exact Option.bind_fun_some _
    have heads : ((fields ++ [klist]).map fun klist => klist.headD "").reverse =
        klist.headD "" :: (fields.map fun klist => klist.headD "").reverse := by
      rw [List.map_append, List.reverse_append]
      rfl
    rw [steps, heads]
    cases made : fields.foldlM selectField (whole, Json.empty) with
    | none =>
      rw [made] at reads
      refine ⟨⟨fun isSome => (by cases isSome), fun each => ?_⟩, fun _ made => (by cases made)⟩
      have isSome := reads.mpr fun klist' mem => each klist' (List.mem_append_left _ mem)
      cases isSome
    | some state =>
      rw [made] at reads
      obtain ⟨reads', selects'⟩ := (selects state made).selectField dict here
      refine ⟨reads'.trans ⟨fun last klist' mem => ?_, fun each => ?_⟩, selects'⟩
      · rcases List.mem_append.mp mem with mem | mem
        · exact reads.mp rfl klist' mem
        · rw [List.mem_singleton.mp mem]
          exact last
      · exact each klist (List.mem_append_right _ List.mem_cons_self)

/-! ## The whole filter -/

/-- What a function leaves of a dictionary: what is returned is the same there, and what is found is
a dictionary or the same document. -/
structure Leaves (whole odict : Json) (returned : Path → Prop) : Prop where
  dict : odict.isDict = true
  gone : ∀ path, ¬ returned path → odict.reach path = none
  same : ∀ path, returned path → odict.node? path = whole.node? path
  intact : ∀ path v, returned path → whole.reach path = some v → v.isDict = false →
    odict.reach path = some v

/-- Nothing is below a path of keys that ends at something else than a dictionary. -/
lemma reach_keys_of_notDict {t v : Json} {path : Path} {klist : List String}
    (reached : t.reach path = some v) (notDict : v.isDict = false)
    {u : Json} (there : t.reach (Json.keyPath klist) = some u)
    (isFront : path <+: Json.keyPath klist) : path = Json.keyPath klist := by
  obtain ⟨front, isFront', rfl⟩ := List.prefix_map_iff.mp isFront
  by_cases same : front = klist
  · rw [same]
    rfl
  · have isDict := Json.dictsAbove_of_reach there front isFront' same v reached
    rw [notDict] at isDict
    cases isDict

lemma leaves_excludeAll {fields : List (List String)}
    (nested : ∀ klist ∈ fields, 2 ≤ klist.length) (dict : whole.isDict = true)
    (made : excludeAll fields whole = some odict) :
    Leaves whole odict fun path => ∀ klist ∈ fields, Json.keyPath klist <+: path →
      ¬ whole.NonNull (Json.keyPath klist) := by
  have removes := removes_excludeAll nested
  have uncovered : ∀ {path : Path}, (∀ klist ∈ fields, Json.keyPath klist <+: path →
      ¬ whole.NonNull (Json.keyPath klist)) → ¬ Json.Covers (fieldsPart fields) whole path := by
    intro path returned covers
    obtain ⟨klist, mem, isFront, notNull⟩ := covers_fieldsPart.mp covers
    exact returned klist mem isFront notNull
  constructor
  · have root : odict.node? [] = whole.node? [] := by
      apply removes.same made
      apply uncovered
      intro klist mem isFront
      have klistNil := List.prefix_nil.mp isFront
      have empty : klist = [] := List.map_eq_nil_iff.mp klistNil
      exact absurd empty (ne_nil_of_nested (nested klist mem))
    apply Json.node_eq_dict.mp
    exact (Option.some.inj root).trans (Json.node_eq_dict.mpr dict)
  · intro path notReturned
    apply Json.node?_eq_none.mp
    apply removes.gone made
    push Not at notReturned
    obtain ⟨klist, mem, isFront, notNull⟩ := notReturned
    exact covers_fieldsPart.mpr ⟨klist, mem, isFront, notNull⟩
  · exact fun path returned => removes.same made (uncovered returned)
  · intro path v returned reached notDict
    apply removes.intact made reached
    intro rest covers
    obtain ⟨klist, mem, isFront, notNull⟩ := covers_fieldsPart.mp covers
    obtain ⟨u, there, isU⟩ := notNull
    rcases List.prefix_or_prefix_of_prefix isFront (List.prefix_append path rest) with
      isAbove | isBelow
    · exact returned klist mem isAbove ⟨u, there, isU⟩
    · have same := reach_keys_of_notDict reached notDict there isBelow
      exact returned klist mem (same ▸ List.prefix_refl _) ⟨u, there, isU⟩

lemma leaves_selectAll {fields : List (List String)}
    (nested : ∀ klist ∈ fields, 2 ≤ klist.length) (dict : whole.isDict = true)
    (made : selectAll fields whole = some odict) :
    Leaves whole odict fun path => InHeads fields path → AtFields fields whole path := by
  obtain ⟨state, looped, rfl⟩ := Option.map_eq_some_iff.mp made
  have selected := (selectAll_spec nested dict).2 state looped
  have inHeads : ∀ {key : String} {path : Path}, InHeads fields (.key key :: path) ↔
      key ∈ (fields.map fun klist => klist.headD "").reverse := by
    intro key path
    rw [List.mem_reverse, List.mem_map]
    constructor
    · rintro ⟨klist, mem, same⟩
      exact ⟨klist, mem, (key_injective (Option.some.inj same)).symm⟩
    · rintro ⟨klist, mem, same⟩
      exact ⟨klist, mem, congrArg (fun k => some (Json.Step.key k)) same.symm⟩
  have either : ∀ path, (InHeads fields path → AtFields fields whole path) →
      state.1.reach path = whole.reach path ∨ ∃ v u, state.1.reach path = some v ∧
        v.isDict = true ∧ whole.reach path = some u ∧ u.isDict = true := by
    intro path returned
    cases path with
    | nil => exact .inr ⟨_, _, rfl, selected.dict, rfl, dict⟩
    | cons step path =>
      cases step with
      | index i => exact .inl (by rw [reach_index selected.dict, reach_index dict])
      | key key =>
        by_cases mem : key ∈ (fields.map fun klist => klist.headD "").reverse
        · obtain ⟨klist, mem', notNull, isBelow | isAbove⟩ := returned (inHeads.mpr mem)
          · obtain ⟨rest, same⟩ := isBelow
            rw [← same]
            exact .inl (selected.below klist mem' notNull rest)
          · obtain ⟨front, isFront, same⟩ := List.prefix_map_iff.mp isAbove
            by_cases isWhole : front = klist
            · have here := selected.below klist mem' notNull []
              rw [List.append_nil, ← isWhole] at here
              rw [same]
              exact .inl here
            · obtain ⟨v, reached, isDict⟩ := selected.above klist mem' notNull front isFront isWhole
              obtain ⟨u, there, _⟩ := notNull
              obtain ⟨rest, same'⟩ := keyPath_below.mpr isFront
              rw [← same', Json.reach_append] at there
              obtain ⟨w, here, _⟩ := Option.bind_eq_some_iff.mp there
              rw [← Json.reach_append, same'] at there
              rw [same]
              exact .inr ⟨v, w, reached, isDict, here,
                Json.dictsAbove_of_reach there front isFront isWhole w here⟩
        · exact .inl (selected.others key path mem)
  constructor
  · exact selected.dict
  · intro path notReturned
    obtain ⟨isIn, notAt⟩ := Classical.not_imp.mp notReturned
    cases path with
    | nil =>
      obtain ⟨_, _, absurd⟩ := isIn
      cases absurd
    | cons step path =>
      cases step with
      | index i => exact reach_index selected.dict i path
      | key key => exact selected.gone key path (inHeads.mp isIn) notAt
  · intro path returned
    rcases either path returned with same | ⟨v, u, reached, isDict, there, isDict'⟩
    · rw [Json.node?, same]
      rfl
    · rw [Json.node?, Json.node?, reached, there]
      exact congrArg some ((Json.node_eq_dict.mpr isDict).trans (Json.node_eq_dict.mpr isDict').symm)
  · intro path v returned reached notDict
    rcases either path returned with same | ⟨_, u, _, _, there, isDict'⟩
    · rw [same, reached]
    · obtain rfl := Option.some.inj (reached.symm.trans there)
      rw [notDict] at isDict'
      cases isDict'

/-- A selector can be applied exactly if its fields can be read, and what it leaves is what it
returns. -/
theorem filter_spec (sel : Selector) {odict : Json}
    (dict : (dropExtra sel.extraAttrs odict).isDict = true) :
    ((sel.filter odict).isSome = true ↔ sel.PathsReadable (dropExtra sel.extraAttrs odict)) ∧
      ∀ odict', sel.filter odict = some odict' →
        Leaves (dropExtra sel.extraAttrs odict) odict'
          (sel.Returned (dropExtra sel.extraAttrs odict)) := by
  have nestedExcluded : ∀ klist ∈ sel.excludeFields, 2 ≤ klist.length := fun klist mem =>
    sel.nested klist (List.mem_append_left _ mem)
  have nestedFields : ∀ klist ∈ sel.fields, 2 ≤ klist.length := fun klist mem =>
    sel.nested klist (List.mem_append_right _ mem)
  have selects : ∀ t, (selectAll sel.fields t).isSome =
      (sel.fields.foldlM selectField (t, Json.empty)).isSome := fun t => Option.isSome_map ..
  unfold Selector.filter
  rcases sel.oneKind with none | none
  · have excludes : excludeAll sel.excludeFields (dropExtra sel.extraAttrs odict) =
        some (dropExtra sel.extraAttrs odict) := by
      rw [none]
      rfl
    rw [excludes, Option.bind_some]
    constructor
    · rw [selects, (selectAll_spec nestedFields dict).1]
      constructor
      · refine fun each => ⟨fun done klist rest same => ?_, each⟩
        rw [none] at same
        cases done <;> cases same
      · exact fun both => both.2
    · intro odict' made
      have leaves := leaves_selectAll nestedFields dict made
      have same : sel.Returned (dropExtra sel.extraAttrs odict) = fun path =>
          InHeads sel.fields path → AtFields sel.fields (dropExtra sel.extraAttrs odict) path := by
        funext path
        apply propext
        constructor
        · exact fun both => both.2
        · refine fun isAt => ⟨fun klist mem => ?_, isAt⟩
          rw [none] at mem
          cases mem
      rw [same]
      exact leaves
  · have all : selectAll sel.fields = some := by
      rw [none]
      rfl
    rw [all, Option.bind_fun_some]
    constructor
    · rw [excludeAll_isSome nestedExcluded]
      constructor
      · refine fun each => ⟨each, fun klist mem => ?_⟩
        rw [none] at mem
        cases mem
      · exact fun both => both.1
    · intro odict' made
      have leaves := leaves_excludeAll nestedExcluded dict made
      have same : sel.Returned (dropExtra sel.extraAttrs odict) = fun path =>
          ∀ klist ∈ sel.excludeFields, Json.keyPath klist <+: path →
            ¬ (dropExtra sel.extraAttrs odict).NonNull (Json.keyPath klist) := by
        funext path
        apply propext
        constructor
        · exact fun both => both.1
        · refine fun each => ⟨each, fun isIn => ?_⟩
          obtain ⟨_, mem, _⟩ := isIn
          rw [none] at mem
          cases mem
      rw [same]
      exact leaves

end Tacker.View
