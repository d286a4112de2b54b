import Tacker.OpParams.Phases

/-!
# When a phase leaves the parameters as they are

The connections of the grant are written into the connections of the request, the connection that is
selected is written to, and the driver for Helm writes the numbers of replicas. For each of them the
exact condition under which the request is what it was before.
-/

namespace Tacker.OpParams

open Tacker.Basis
open Tacker.Fields (Json str)
open Tacker.Kubernetes (ResourceDef getVdusNum)
open Tacker.Modify (Pairs VimConnectionInfo)

section

variable {ρ : Type} {m : Memory ρ} {db : VimDb} {infos filled used : VimInfos} {going : Going}
  {addResources : Option (List ResourceDef)} {pairs : Pairs} {starting selects : Bool}
  {item : String × VimConnectionInfo}

/-! ## Writing to the connections -/

@[simp] lemma vimInfos_write : (m.write infos).vimInfos = infos := by
  cases eq : m.params.vimConnectionInfo <;> simp [Memory.write, Memory.vimInfos, eq]

lemma params_write : (m.write infos).params =
    { m.params with vimConnectionInfo := m.params.vimConnectionInfo.map fun _ => infos } := by
  cases eq : m.params.vimConnectionInfo with
  | some i => simp [Memory.write, eq]
  | none =>
    simp only [Memory.write, eq, Option.map_none]
    rw [← eq]

@[simp] lemma vimInfos_select : m.select.vimInfos = select m.vimInfos := by
  show (m.write (select m.vimInfos)).vimInfos = select m.vimInfos
  exact vimInfos_write

lemma params_select : m.select.params =
    { m.params with vimConnectionInfo := m.params.vimConnectionInfo.map select } := by
  show (m.write (select m.vimInfos)).params = _
  rw [params_write]
  cases eq : m.params.vimConnectionInfo with
  | some i => simp only [Memory.vimInfos, eq, Option.map_some, Option.getD_some]
  | none => rfl

/-! ## Selecting -/

/-- A connection is written to if it is one to Kubernetes under the name of the VIM DB. -/
lemma recognized_eq_self : recognized item = item ↔ item.2.vimType ≠ some "kubernetes" := by
  rw [recognized]
  split
  · case isTrue named =>
    constructor
    · intro same
      have renamed := congrArg (fun item => item.2.vimType) same
      rw [named] at renamed
      exact absurd renamed (by simp)
    · intro other
      exact absurd named other
  · case isFalse other => exact ⟨fun _ => other, fun _ => rfl⟩

lemma recognized_recognized : recognized (recognized item) = recognized item := by
  apply recognized_eq_self.mpr
  rw [recognized]
  split
  · simp
  · assumption

lemma select_select : select (select infos) = select infos := by
  apply Table.editFirst_eq_self.mpr
  intro item first
  rw [select, Table.rows_editFirst, List.head?_modifyHead] at first
  obtain ⟨item, there, rfl⟩ := Option.map_eq_some_iff.mp first
  exact recognized_recognized

lemma selected_select : selected (select infos) = selected infos := by
  rw [selected, select, Table.rows_editFirst, List.head?_modifyHead, Option.map_map, selected]
  congr 1
  funext item
  rw [Function.comp, recognized_recognized]

/-! ## The connections -/

/-- The connections that an operation works with: those of the request with those of the grant over
them, or else the default VIM. -/
def usedInfos (db : VimDb) (infos : Option VimInfos) (filled : VimInfos) : Option VimInfos :=
  match ((infos.getD ∅).overlay filled).rows with
  | [] => db.defaultVim.map fun info => (∅ : VimInfos).put ("default", info)
  | _ :: _ => some ((infos.getD ∅).overlay filled)

/-- The connections of a request stay what they are: those of the grant are among them, as the
first one is once it is selected, there is some connection or no default VIM, and the first one is
not written to when it is selected. -/
structure ConnectionsKept (db : VimDb) (selects : Bool) (infos filled : VimInfos) : Prop where
  granted : ∀ item ∈ filled.rows, infos.get item.1 = some
    (if selects = true ∧ infos.rows.head?.map Prod.fst = some item.1 then recognized item else item)
  noDefault : infos.rows = [] → db.defaultVim = none
  first : selects = true → ∀ item ∈ infos.rows.head?, filled.get item.1 = none →
    item.2.vimType ≠ some "kubernetes"

/-- The connections of a request, once they are settled. -/
def settle (selects : Bool) (infos : VimInfos) : VimInfos :=
  if selects then select infos else infos

lemma keys_settle (selects : Bool) (infos : VimInfos) :
    (settle selects infos).rows.map Prod.fst = infos.rows.map Prod.fst := by
  rw [settle]
  split
  · exact Table.keys_editFirst
  · rfl

lemma get_settle {k : String} : (settle selects infos).get k =
    if selects = true ∧ infos.rows.head?.map Prod.fst = some k then (infos.get k).map recognized
    else infos.get k := by
  cases selects with
  | true =>
    simp only [settle, if_true, select, Table.get_editFirst, true_and]
  | false => simp [settle]

/-- Connections under the same names, of which the first is the same. -/
lemma head_of_keys {infos' : VimInfos} (keys : infos.rows.map Prod.fst = infos'.rows.map Prod.fst) :
    infos.rows.head?.map Prod.fst = infos'.rows.head?.map Prod.fst := by
  rw [← List.head?_map, ← List.head?_map, keys]

lemma get_head (first : item ∈ infos.rows.head?) : infos.get item.1 = some item :=
  Table.get_eq_some.mpr ⟨List.mem_of_mem_head? first, rfl⟩

lemma kept_of_settle (some_ : (infos.overlay filled).rows ≠ [])
    (same : settle selects (infos.overlay filled) = infos) :
    ConnectionsKept db selects infos filled := by
  have keys : (infos.overlay filled).rows.map Prod.fst = infos.rows.map Prod.fst := by
    rw [← keys_settle selects, same]
  have found (k : String) : infos.get k = if selects = true ∧ infos.rows.head?.map Prod.fst = some k
      then ((filled.get k).or (infos.get k)).map recognized
      else (filled.get k).or (infos.get k) := by
    rw [← Table.get_overlay, ← head_of_keys keys, ← get_settle, same]
  constructor
  · intro item mem
    have there : filled.get item.1 = some item := Table.get_eq_some.mpr ⟨mem, rfl⟩
    rw [found, there, Option.some_or]
    split <;> rfl
  · intro nil
    rw [nil, List.map_nil, List.map_eq_nil_iff] at keys
    exact absurd keys some_
  · intro picks item first absent
    have here := found item.1
    have isFirst : infos.rows.head?.map Prod.fst = some item.1 := by
      rw [Option.mem_def.mp first]
      rfl
    rw [if_pos ⟨picks, isFirst⟩, absent, Option.none_or, get_head first, Option.map_some] at here
    exact recognized_eq_self.mp (Option.some.inj here).symm

lemma settle_of_kept (kept : ConnectionsKept db selects infos filled) :
    settle selects (infos.overlay filled) = infos := by
  have keys : (infos.overlay filled).rows.map Prod.fst = infos.rows.map Prod.fst := by
    apply Table.keys_overlay
    intro item mem
    by_contra absent
    rw [← Table.get_eq_none, kept.granted item mem] at absent
    cases absent
  apply Table.eq_of_get ((keys_settle ..).trans keys)
  intro k
  rw [get_settle, head_of_keys keys, Table.get_overlay]
  cases there : filled.get k with
  | some item =>
    obtain ⟨mem, rfl⟩ := Table.get_eq_some.mp there
    rw [kept.granted item mem, Option.some_or]
    split <;> rfl
  | none =>
    rw [Option.none_or]
    split
    · case isTrue picks =>
      obtain ⟨item, first, rfl⟩ := Option.map_eq_some_iff.mp picks.2
      rw [get_head first, Option.map_some,
        recognized_eq_self.mpr (kept.first picks.1 item first there)]
    · rfl

/-- The settled connections are the ones of the request exactly if the condition holds. -/
lemma settle_eq_iff (some_ : usedInfos db (some infos) filled = some used) :
    settle selects used = infos ↔ ConnectionsKept db selects infos filled := by
  rw [usedInfos, Option.getD_some] at some_
  split at some_
  · case h_1 nil =>
    obtain ⟨info, known, rfl⟩ := Option.map_eq_some_iff.mp some_
    obtain ⟨none, -⟩ := Table.overlay_eq_empty.mp nil
    constructor
    · intro same
      have keys := keys_settle selects ((∅ : VimInfos).put ("default", info))
      rw [same, none] at keys
      cases keys
    · intro kept
      rw [kept.noDefault none] at known
      cases known
  · case h_2 first rest rows =>
    obtain rfl := Option.some.inj some_
    exact ⟨kept_of_settle (by rw [rows]; exact List.cons_ne_nil _ _), settle_of_kept⟩

/-- Where there is no connection at all, nothing is written. -/
lemma kept_of_none (selects : Bool) (none : usedInfos db (some infos) filled = none) :
    infos.overlay filled = infos ∧ ConnectionsKept db selects infos filled := by
  rw [usedInfos, Option.getD_some] at none
  split at none
  · case h_1 nil =>
    obtain ⟨nilInfos, nilFilled⟩ := Table.overlay_eq_empty.mp nil
    constructor
    · rw [Table.overlay, nilFilled]
      rfl
    · constructor
      · intro item mem
        rw [nilFilled] at mem
        cases mem
      · intro _
        exact Option.map_eq_none_iff.mp none
      · intro _ item first
        rw [nilInfos] at first
        cases first
  · cases none

end

/-!
## The effects of the phases

What `instantiate_post_grant`, the process and the rollback leave of the parameters, for each way in
which they end.
-/

variable {ρ : Type} {m : Memory ρ} {db : VimDb} {infos filled used : VimInfos} {going : Going}
  {addResources : Option (List ResourceDef)} {pairs : Pairs} {starting : Bool}

/-! ## After the grant -/

/-- The ways in which `instantiate_post_grant` ends: a VIM of the grant is not known, there is no
connection, or the connections are settled. -/
inductive Posted (db : VimDb) (starting : Bool) (m : Memory ρ) : Memory ρ × Bool → Prop where
  | unknown : fill db m.granted = none → Posted db starting m (m, false)
  | noVim {out : Memory ρ × Bool} {filled : VimInfos} : fill db m.granted = some filled →
    usedInfos db m.params.vimConnectionInfo filled = none → out.1.params = m.params →
    out.2 = false → Posted db starting m out
  | settled {out : Memory ρ × Bool} {filled used : VimInfos} : fill db m.granted = some filled →
    usedInfos db m.params.vimConnectionInfo filled = some used →
    out.1.vimInfos = settle starting used →
    out.1.params = { m.params with
      vimConnectionInfo := m.params.vimConnectionInfo.map fun _ => settle starting used } →
    out.2 = (!starting || (selected used).any (vimTypeCheck m.params.additionalParams)) →
    Posted db starting m out

lemma vimInfos_merge (m : Memory ρ) (filled : VimInfos) :
    (m.merge filled).vimInfos = m.vimInfos.overlay filled := by
  show (m.write (m.vimInfos.overlay filled)).vimInfos = _
  exact vimInfos_write

lemma params_merge : (m.merge filled).params = { m.params with
    vimConnectionInfo := m.params.vimConnectionInfo.map fun _ => m.vimInfos.overlay filled } := by
  show (m.write (m.vimInfos.overlay filled)).params = _
  exact params_write

lemma checked_fst (m : Memory ρ) (starting : Bool) :
    (m.checked starting).1.vimInfos = settle starting m.vimInfos ∧
    (m.checked starting).1.params = { m.params with
      vimConnectionInfo := m.params.vimConnectionInfo.map (settle starting) } := by
  cases starting with
  | true => exact ⟨vimInfos_select, params_select⟩
  | false =>
    refine ⟨rfl, ?_⟩
    show m.params = { m.params with vimConnectionInfo := m.params.vimConnectionInfo.map id }
    rw [Option.map_id]
    rfl

lemma checked_snd : (m.checked starting).2 =
    (!starting || (selected m.vimInfos).any (vimTypeCheck m.params.additionalParams)) := by
  cases starting <;> rfl

/-- The dictionary `vim_infos` before the grant: that of the request or a new one. -/
lemma vimInfos_fresh (fresh : m.own = ∅) :
    m.vimInfos = m.params.vimConnectionInfo.getD ∅ := by
  rw [Memory.vimInfos, fresh]

/-- The connections are there and only have to be selected. -/
lemma posted_checked {m' : Memory ρ} (filling : fill db m.granted = some filled)
    (uses : usedInfos db m.params.vimConnectionInfo filled = some used)
    (infosOf : m'.vimInfos = used)
    (paramsOf : m'.params = { m.params with
      vimConnectionInfo := m.params.vimConnectionInfo.map fun _ => used }) :
    Posted db starting m (m'.checked starting) := by
  obtain ⟨infosOf', paramsOf'⟩ := checked_fst m' starting
  apply Posted.settled filling uses
  · rw [infosOf', infosOf]
  · rw [paramsOf', paramsOf, Option.map_map]
    rfl
  · rw [checked_snd, infosOf, paramsOf]

/-- `instantiate_post_grant` ends in one of the ways. -/
lemma posted (fresh : m.own = ∅) : Posted db starting m (instantiatePostGrant db starting m) := by
  cases filling : fill db m.granted with
  | none =>
    rw [instantiatePostGrant, filling]
    exact .unknown filling
  | some filled =>
    rw [instantiatePostGrant, filling]
    show Posted db starting m ((m.merge filled).settled db starting)
    have merged := vimInfos_merge m filled
    rw [vimInfos_fresh fresh] at merged
    have uses := usedInfos.eq_def db m.params.vimConnectionInfo filled
    rw [← merged] at uses
    cases rows : (m.merge filled).vimInfos.rows with
    | nil =>
      have none : (m.merge filled).vimInfos = ∅ := Table.eq_of_rows rows
      rw [Memory.settled, rows]
      rw [rows] at uses
      cases default : db.defaultVim with
      | none =>
        rw [default] at uses
        apply Posted.noVim filling uses
        · rw [params_merge]
          cases has : m.params.vimConnectionInfo with
          | none => rw [Option.map_none, ← has]
          | some infos =>
            rw [has] at uses
            rw [Option.map_some, Memory.vimInfos, has, Option.getD_some,
              (kept_of_none false uses).1, ← has]
        · rfl
      | some info =>
        rw [default] at uses
        apply posted_checked filling uses
        · rw [vimInfos_write, none]
        · rw [params_write, params_merge, none, Option.map_map]
          rfl
    | cons first rest =>
      rw [Memory.settled, rows]
      rw [rows] at uses
      apply posted_checked filling uses rfl
      rw [params_merge, merged, vimInfos_fresh fresh]

/-! ## The values of a Helm chart -/

lemma fillParameters_dict {helmValueNames parameters : Json} {vdusNum : List (String × Int)}
    (dict : parameters.isDict = true) :
    (fillParameters helmValueNames vdusNum parameters).1 =
      parameters.writeAll (writes helmValueNames vdusNum) := by
  induction vdusNum generalizing parameters with
  | nil => rfl
  | cons item vdusNum ih =>
    rw [fillParameters, writes]
    cases replicaParam helmValueNames item.1 with
    | none => rfl
    | some name =>
      cases name with
      | none => exact ih dict
      | some name =>
        have dict' : (parameters.set name (number item.2)).isDict = true :=
          Json.isDict_set.trans dict
        show (if parameters.isDict = true then
          fillParameters helmValueNames vdusNum (parameters.set name (number item.2))
          else (parameters, false)).1 = _
        rw [if_pos dict]
        exact ih dict'

lemma fillParameters_other {helmValueNames parameters : Json} {vdusNum : List (String × Int)}
    (other : parameters.isDict = false) :
    (fillParameters helmValueNames vdusNum parameters).1 = parameters := by
  induction vdusNum with
  | nil => rfl
  | cons item vdusNum ih =>
    rw [fillParameters]
    cases replicaParam helmValueNames item.1 with
    | none => rfl
    | some name =>
      cases name with
      | none => exact ih
      | some name => simp [other]

/-- The values that the driver writes to the request are there already. -/
def ParametersKept (addResources : Option (List ResourceDef)) (pairs : Pairs) : Prop :=
  ∀ helmChartPath helmValueNames reses parameters,
    pairs.doc.get? "helm_chart_path" = some helmChartPath →
    pairs.doc.get? "helm_value_names" = some helmValueNames → addResources = some reses →
    pairs.doc.get? "helm_parameters" = some parameters → parameters.isDict = true →
    ∀ name value, Json.lastWrite (writes helmValueNames (getVdusNum reses)) name = some value →
      parameters.get? name = some value

lemma Pairs.eq_of_doc {pairs pairs' : Pairs} (same : pairs.doc = pairs'.doc) : pairs = pairs' := by
  cases pairs
  cases pairs'
  cases same
  rfl

lemma Pairs.set_eq_self {name : String} {value value' : Json}
    (there : pairs.doc.get? name = some value) :
    Pairs.set pairs name value' = pairs ↔ value' = value := by
  constructor
  · intro same
    have doc : pairs.doc.set name value' = pairs.doc := congrArg Modify.Pairs.doc same
    have found : (pairs.doc.set name value').get? name = some value' :=
      (Json.get?_set pairs.dict).trans (if_pos rfl)
    rw [doc, there] at found
    exact (Option.some.inj found).symm
  · intro same
    apply Pairs.eq_of_doc
    rw [same]
    exact Json.set_self there

lemma fillParameters_eq_self {helmValueNames parameters : Json} {vdusNum : List (String × Int)} :
    (fillParameters helmValueNames vdusNum parameters).1 = parameters ↔
      (parameters.isDict = true → ∀ name value,
        Json.lastWrite (writes helmValueNames vdusNum) name = some value →
          parameters.get? name = some value) := by
  cases dict : parameters.isDict with
  | true =>
    rw [fillParameters_dict dict, Json.writeAll_eq_self dict]
    exact ⟨fun held _ => held, fun held => held rfl⟩
  | false =>
    rw [fillParameters_other dict]
    exact ⟨fun _ isDict => absurd isDict Bool.false_ne_true, fun _ => rfl⟩

/-- The driver leaves the request as it is exactly if the values are there. -/
lemma helmParameters_eq_self :
    (helmParameters addResources pairs).1 = pairs ↔ ParametersKept addResources pairs := by
  rw [ParametersKept, helmParameters.eq_def]
  cases path : pairs.doc.get? "helm_chart_path" with
  | none => exact ⟨fun _ _ _ _ _ eq => absurd eq (by simp), fun _ => rfl⟩
  | some helmChartPath =>
    cases named : pairs.doc.get? "helm_value_names" with
    | none => exact ⟨fun _ _ _ _ _ _ eq => absurd eq (by simp), fun _ => rfl⟩
    | some helmValueNames =>
      cases addResources with
      | none => exact ⟨fun _ _ _ _ _ _ _ eq => absurd eq (by simp), fun _ => rfl⟩
      | some reses =>
        cases there : pairs.doc.get? "helm_parameters" with
        | none => exact ⟨fun _ _ _ _ _ _ _ _ eq => absurd eq (by simp), fun _ => rfl⟩
        | some parameters =>
          show Pairs.set pairs "helm_parameters"
            (fillParameters helmValueNames (getVdusNum reses) parameters).1 = pairs ↔ _
          rw [Pairs.set_eq_self there, fillParameters_eq_self]
          constructor
          · rintro held _ _ _ _ ⟨⟩ ⟨⟩ ⟨⟩ ⟨⟩
            exact held
          · intro held
            exact held _ _ _ _ rfl rfl rfl rfl

/-! ## Process and rollback -/

/-- The process writes to the connection that it selects. -/
def Going.picks (going : Going) : Bool :=
  going.enters && going.handedBack.isNone

/-- The process comes to the parameters of the driver for Helm. -/
def Going.usesHelm (going : Going) (infos : VimInfos) : Bool :=
  going.enters && going.reaches &&
    (selected (going.handedBack.getD infos)).any fun info =>
      decide (info.vimType = some "ETSINFV.HELM.V_3")

lemma entered_params (enters : going.enters = true) : (m.entered going).1.params =
    { m.params with
      vimConnectionInfo := m.params.vimConnectionInfo.map (settle going.picks) } := by
  rw [Memory.entered, Going.picks, enters, Bool.true_and]
  cases going.handedBack with
  | none => exact params_select
  | some infos =>
    show m.params = { m.params with vimConnectionInfo := m.params.vimConnectionInfo.map id }
    rw [Option.map_id]
    rfl

lemma entered_info (m : Memory ρ) (going : Going) :
    (m.entered going).2 = selected (going.handedBack.getD m.vimInfos) := by
  rw [Memory.entered]
  cases going.handedBack <;> rfl

lemma not_picks (stays : going.enters = false) :
    m.params.vimConnectionInfo.map (settle going.picks) = m.params.vimConnectionInfo := by
  rw [Going.picks, stays]
  exact Option.map_id_apply

/-- What the process leaves of the parameters. -/
lemma process_params : (instantiateProcess addResources going m).1.params =
    { m.params with
      vimConnectionInfo := m.params.vimConnectionInfo.map (settle going.picks)
      additionalParams := if going.usesHelm m.vimInfos then
        m.params.additionalParams.map fun pairs => (helmParameters addResources pairs).1
        else m.params.additionalParams } := by
  rw [instantiateProcess]
  cases enters : going.enters with
  | false =>
    rw [not_picks enters, Going.usesHelm, enters]
    rfl
  | true =>
    have paramsOf := entered_params (m := m) enters
    have infoOf := entered_info m going
    rw [if_pos rfl, Going.usesHelm, enters, Bool.true_and, ← infoOf]
    cases (m.entered going).2 with
    | none =>
      rw [Option.any_none, Bool.and_false]
      exact paramsOf
    | some info =>
      show ((m.entered going).1.driven addResources going info.vimType).1.params = _
      rw [Memory.driven, Option.any_some]
      by_cases helm : info.vimType = some "ETSINFV.HELM.V_3"
      · rw [if_pos helm, decide_eq_true helm, Bool.and_true]
        cases going.reaches with
        | false => exact paramsOf
        | true =>
          show ((m.entered going).1.helmInstantiate addResources).1.params = _
          rw [Memory.helmInstantiate, paramsOf]
          cases there : m.params.additionalParams with
          | none =>
            show (m.entered going).1.params = _
            simp only [paramsOf, there, Option.map_none, if_true]
          | some pairs => rfl
      · rw [if_neg helm, decide_eq_false helm, Bool.and_false]
        exact paramsOf

/-- What the rollback leaves of the parameters. -/
lemma rollback_params : (instantiateRollback going m).1.params =
    { m.params with
      vimConnectionInfo := m.params.vimConnectionInfo.map (settle going.picks) } := by
  rw [instantiateRollback]
  cases enters : going.enters with
  | false =>
    rw [not_picks enters]
    rfl
  | true =>
    rw [if_pos rfl]
    cases (m.entered going).2 <;> exact entered_params enters

end Tacker.OpParams
