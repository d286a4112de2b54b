import Tacker.Basis.Overlay
import Tacker.Crypt.CryptUtils
import Tacker.Kubernetes.Operations
import Tacker.Modify.ModifyInfo

/-!
# What the phases of an operation write to its parameters

`instantiate_post_grant`, `instantiate_process` and `instantiate_rollback` of
`conductor/vnflcm_driver_v2.py` and `_instantiate` of `infra_drivers/kubernetes/helm.py`. They work on
the object that `operationParams` holds, so what they write to a dictionary of it, or to an object in
such a dictionary, is written to the occurrence. The phases of the other operations read their
request only. Whether a phase returns is told beside what it leaves.
-/

namespace Tacker.OpParams

open Tacker.Basis
open Tacker.Crypt (truthy)
open Tacker.Fields (Json str)
open Tacker.Kubernetes (ResourceDef getVdusNum)
open Tacker.Modify (Pairs VimConnectionInfo)

/-! ## Objects -/

/-- `vimConnectionInfo`: the connections by their names, in the order in which they were added. -/
abbrev VimInfos := Table (Prod.fst : String × VimConnectionInfo → String)

/-- `operationParams`; the attributes that no phase writes to are taken together. -/
structure OperationParams (ρ : Type) where
  vimConnectionInfo : Option VimInfos := none
  additionalParams : Option Pairs := none
  others : ρ

/-- What the VIM DB knows: `get_vim` and `get_default_vim`. -/
structure VimDb where
  getVim : String → Option VimConnectionInfo
  defaultVim : Option VimConnectionInfo

/-- The objects that a phase works on: the parameters, the dictionary `vim_infos` where it is none of
the parameters, and the connections of the grant. -/
structure Memory (ρ : Type) where
  params : OperationParams ρ
  own : VimInfos := ∅
  granted : Option VimInfos := none

variable {ρ : Type}

/-- `vim_infos`: the dictionary of the request if it has one. -/
def Memory.vimInfos (m : Memory ρ) : VimInfos :=
  m.params.vimConnectionInfo.getD m.own

/-- Writing to the dictionary `vim_infos`. -/
def Memory.write (m : Memory ρ) (infos : VimInfos) : Memory ρ :=
  match m.params.vimConnectionInfo with
  | some _ => { m with params := { m.params with vimConnectionInfo := some infos } }
  | none => { m with own := infos }

/-! ## Selecting a connection -/

/-- What `select_vim_info` writes to the connection that it returns. -/
def recognized (item : String × VimConnectionInfo) : String × VimConnectionInfo :=
  if item.2.vimType = some "kubernetes" then
    (item.1, { item.2 with vimType := some "ETSINFV.KUBERNETES.V_1" })
  else item

lemma fst_recognized (item : String × VimConnectionInfo) : (recognized item).1 = item.1 := by
  rw [recognized]
  split <;> rfl

/-- The connections with the first one selected. -/
def select (infos : VimInfos) : VimInfos :=
  infos.editFirst recognized fst_recognized

/-- The connection that `select_vim_info` returns. -/
def selected (infos : VimInfos) : Option VimConnectionInfo :=
  infos.rows.head?.map fun item => (recognized item).2

/-- The first connection is one object in `vim_infos` and in the grant, if it is from there. -/
def Memory.select (m : Memory ρ) : Memory ρ :=
  { m.write (OpParams.select m.vimInfos) with
    granted := m.granted.map fun granted =>
      match m.vimInfos.rows with
      | item :: _ => if (granted.get item.1).isSome then granted.put (recognized item) else granted
      | [] => granted }

/-! ## After the grant -/

/-- The connection says where the VIM is. -/
def complete (info : VimConnectionInfo) : Bool :=
  info.accessInfo.isSome && info.interfaceInfo.isSome

/-- One turn of the loop over the connections of the grant. -/
def fillOne (db : VimDb) (infos : VimInfos) (item : String × VimConnectionInfo) :
    Option VimInfos :=
  if complete item.2 then some infos
  else (item.2.vimId.bind db.getVim).map fun info => infos.put (item.1, info)

/-- The connections of the grant, with the ones of the VIM DB for those that are incomplete. -/
def fill (db : VimDb) (granted : Option VimInfos) : Option VimInfos :=
  match granted with
  | some infos => infos.rows.foldlM (fillOne db) infos
  | none => some ∅

/-- `name in pairs`. -/
def contains (pairs : Option Pairs) (name : String) : Bool :=
  pairs.any fun pairs => (pairs.doc.get? name).isSome

/-- `req.get('additionalParams', {}).get(name)` counts as true. -/
def specified (additionalParams : Option Pairs) (name : String) : Bool :=
  additionalParams.any fun pairs => (pairs.doc.get? name).any truthy

/-- The check that depends on the type of the VIM. -/
def vimTypeCheck (additionalParams : Option Pairs) (info : VimConnectionInfo) : Bool :=
  if info.vimType = some "ETSINFV.KUBERNETES.V_1" then
    contains info.interfaceInfo "endpoint" &&
      specified additionalParams "lcm-kubernetes-def-files"
  else if info.vimType = some "ETSINFV.HELM.V_3" then
    contains info.interfaceInfo "endpoint" && contains info.interfaceInfo "ssl_ca_cert" &&
      contains info.accessInfo "bearer_token" &&
      specified additionalParams "helm_chart_path" &&
      specified additionalParams "helm_value_names"
  else info.vimType.isSome

/-- From `inst.vimConnectionInfo = vim_infos` on. -/
def Memory.checked (m : Memory ρ) (starting : Bool) : Memory ρ × Bool :=
  if starting then (m.select, (selected m.vimInfos).any (vimTypeCheck m.params.additionalParams))
  else (m, true)

/-- From `if not vim_infos` on. -/
def Memory.settled (m : Memory ρ) (db : VimDb) (starting : Bool) : Memory ρ × Bool :=
  match m.vimInfos.rows with
  | [] =>
    match db.defaultVim with
    | some info => (m.write (m.vimInfos.put ("default", info))).checked starting
    | none => (m, false)
  | _ :: _ => m.checked starting

/-- `vim_infos = json_merge_patch(vim_infos, res_vim_infos)`: the connections of the grant are
objects and no dictionaries, so each is put as it is. -/
def Memory.merge (m : Memory ρ) (filled : VimInfos) : Memory ρ :=
  { m.write (m.vimInfos.overlay filled) with granted := m.granted.map fun _ => filled }

/-- `instantiate_post_grant`. -/
def instantiatePostGrant (db : VimDb) (starting : Bool) (m : Memory ρ) : Memory ρ × Bool :=
  match fill db m.granted with
  | some filled => (m.merge filled).settled db starting
  | none => (m, false)

/-! ## The values of a Helm chart -/

/-- `helm_value_names.get(vdu_name, {}).get('replica')`, as far as it is a text that counts as true;
`none` where it raises. -/
def replicaParam (helmValueNames : Json) (vdu : String) : Option (Option String) :=
  if helmValueNames.isDict then
    match helmValueNames.get? vdu with
    | some (.obj ks unique value) =>
      match (Json.obj ks unique value).get? "replica" with
      | some (.atom (.str name)) => some (if name = "" then none else some name)
      | _ => some none
    | some _ => none
    | none => some none
  else none

/-- A number as a value of the chart. -/
def number (num : Int) : Json := .atom (.int num)

/-- The writes of the loop over `vdus_num`, up to the turn that raises. -/
def writes (helmValueNames : Json) : List (String × Int) → List (String × Json)
  | [] => []
  | item :: vdusNum =>
    match replicaParam helmValueNames item.1 with
    | none => []
    | some none => writes helmValueNames vdusNum
    | some (some name) => (name, number item.2) :: writes helmValueNames vdusNum

/-- The loop over `vdus_num`. -/
def fillParameters (helmValueNames : Json) : List (String × Int) → Json → Json × Bool
  | [], parameters => (parameters, true)
  | item :: vdusNum, parameters =>
    match replicaParam helmValueNames item.1 with
    | none => (parameters, false)
    | some none => fillParameters helmValueNames vdusNum parameters
    | some (some name) =>
      if parameters.isDict then
        fillParameters helmValueNames vdusNum (parameters.set name (number item.2))
      else (parameters, false)

/-- Writing to the dictionary of `additionalParams`. -/
def Pairs.set (pairs : Pairs) (name : String) (value : Json) : Pairs where
  doc := pairs.doc.set name value
  dict := by rw [Basis.Json.isDict_set]; exact pairs.dict

/-- `_instantiate` of the Helm driver, up to the values of the chart: they are the dictionary of the
request if it has one. -/
def helmParameters (addResources : Option (List ResourceDef)) (pairs : Pairs) : Pairs × Bool :=
  match pairs.doc.get? "helm_chart_path", pairs.doc.get? "helm_value_names", addResources with
  | some _, some helmValueNames, some addResources =>
    match pairs.doc.get? "helm_parameters" with
    | some parameters =>
      (Pairs.set pairs "helm_parameters"
        (fillParameters helmValueNames (getVdusNum addResources) parameters).1,
        (fillParameters helmValueNames (getVdusNum addResources) parameters).2)
    | none => (pairs, (fillParameters helmValueNames (getVdusNum addResources) .empty).2)
  | _, _, _ => (pairs, false)

/-- The driver for Helm. -/
def Memory.helmInstantiate (m : Memory ρ) (addResources : Option (List ResourceDef)) :
    Memory ρ × Bool :=
  match m.params.additionalParams with
  | some pairs =>
    ({ m with params :=
        { m.params with additionalParams := some (helmParameters addResources pairs).1 } },
      (helmParameters addResources pairs).2)
  | none => (m, false)

/-! ## Process and rollback -/

/-- How a process or a rollback goes: whether it comes to the connections of the instance, which
those are if a script handed back an instance of its own, whether the driver comes to its
parameters, and whether all that follows is done. -/
structure Going where
  enters : Bool := true
  handedBack : Option VimInfos := none
  reaches : Bool := true
  completes : Bool := true

/-- `select_vim_info(inst.vimConnectionInfo)`: the connections of the instance are the objects in
`vim_infos`, unless a script handed back others. -/
def Memory.entered (m : Memory ρ) (going : Going) : Memory ρ × Option VimConnectionInfo :=
  match going.handedBack with
  | some infos => (m, selected infos)
  | none => (m.select, selected m.vimInfos)

/-- The types of VIM that there is a driver for. -/
def supported : List String :=
  ["ETSINFV.OPENSTACK_KEYSTONE.V_3", "ETSINFV.KUBERNETES.V_1", "ETSINFV.HELM.V_3", "TERRAFORM.V1"]

/-- The driver for the VIM. -/
def Memory.driven (m : Memory ρ) (addResources : Option (List ResourceDef)) (going : Going)
    (vimType : Option String) : Memory ρ × Bool :=
  if vimType = some "ETSINFV.HELM.V_3" then
    if going.reaches then
      ((m.helmInstantiate addResources).1,
        (m.helmInstantiate addResources).2 && going.completes)
    else (m, false)
  else (m, vimType.any (· ∈ supported) && going.completes)

/-- `instantiate_process`, with the scripts around it. -/
def instantiateProcess (addResources : Option (List ResourceDef)) (going : Going) (m : Memory ρ) :
    Memory ρ × Bool :=
  if going.enters then
    match (m.entered going).2 with
    | some info => (m.entered going).1.driven addResources going info.vimType
    | none => ((m.entered going).1, false)
  else (m, false)

/-- `instantiate_rollback`, with the scripts around it. -/
def instantiateRollback (going : Going) (m : Memory ρ) : Memory ρ × Bool :=
  if going.enters then
    match (m.entered going).2 with
    | some info =>
      ((m.entered going).1, info.vimType.any (· ∈ supported) && going.completes)
    | none => ((m.entered going).1, false)
  else (m, false)

end Tacker.OpParams
