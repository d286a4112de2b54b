import Tacker.Crypt.PassRules
import Tacker.Fields.Columns

/-!
# Hooks on the conversion of instances and occurrences

`to_db_obj` and `from_db_obj` of `VnfInstanceV2` and `VnfLcmOpOccV2` with encryption of credentials.
The passes of `to_db_obj` go over a deep copy of the operation parameters and over documents that
were read from texts, so the object after it is told beside the row.
-/

namespace Tacker.Crypt

open Tacker.Basis Tacker.Fields Tacker.Objects

variable {operation : LcmOperationType} (types : FieldTypes) (cipher : Cipher)

/-! ## Instances -/

/-- An instance. -/
abbrev VnfInstance (operation : LcmOperationType) :=
  Value (registry operation) (.object .vnfInstance false)

/-- The index of `accessInfo`. -/
def accessInfoField : Fin (registry operation .vimConnectionInfo).size := ⟨3, show 3 < 5 by decide⟩

/-- The index of `vimConnectionInfo` of an instance. -/
def vimConnectionInfoField : Fin (registry operation .vnfInstance).size := ⟨9, show 9 < 15 by decide⟩

/-- Every `accessInfo` of a `vimConnectionInfo`. -/
def vimInfosPlace : Place (registry operation) (.dict (.object .vimConnectionInfo false)) :=
  .values (.attr accessInfoField .pairs)

/-- `VnfInstanceV2.to_db_obj`, and the instance after it. -/
def instanceToDbObj (inst : VnfInstance operation) : Option (Row × VnfInstance operation) :=
  (changeColumn "vimConnectionInfo" (vimInfosPass (encryptAct cipher))
    (Fields.toDbObj types inst)).map fun row => (row, inst)

/-- `VnfInstanceV2.from_db_obj`. -/
def instanceFromDbObj (row : Row) : Option (VnfInstance operation) :=
  (Fields.fromDbObj types row).bind
    (Value.onAttr vimConnectionInfoField
      (vimInfosPlace.change (accessInfoPass (decryptAct cipher))))

/-! ## Occurrences -/

/-- An occurrence of an operation. -/
abbrev VnfLcmOpOcc (operation : LcmOperationType) :=
  Value (registry operation) (.object .vnfLcmOpOcc false)

/-- The parameters of an operation. -/
abbrev OperationParams (operation : LcmOperationType) :=
  Value (registry operation) (.object (paramsClass operation) true)

/-- The index of `operationState`. -/
def operationStateField : Fin (registry operation .vnfLcmOpOcc).size := ⟨1, show 1 < 18 by decide⟩

/-- The index of `operationParams`. -/
def operationParamsField : Fin (registry operation .vnfLcmOpOcc).size := ⟨8, show 8 < 18 by decide⟩

/-- The index of `changedInfo`. -/
def changedInfoField : Fin (registry operation .vnfLcmOpOcc).size := ⟨13, show 13 < 18 by decide⟩

/-- The index of `vimConnectionInfo` of `changedInfo`. -/
def modifiedVimInfoField : Fin (registry operation .vnfInfoModifications).size :=
  ⟨5, show 5 < 12 by decide⟩

/-- Every `accessInfo` in the parameters, where they have a `vimConnectionInfo`. -/
def paramsVimInfos : (operation : LcmOperationType) →
    Option (Place (registry operation) (.object (paramsClass operation) true))
  | .instantiate => some (.attr ⟨4, by decide⟩ vimInfosPlace)
  | .changeExtConn => some (.attr ⟨1, by decide⟩ vimInfosPlace)
  | .modifyInfo => some (.attr ⟨6, by decide⟩ vimInfosPlace)
  | .changeVnfpkg => some (.attr ⟨3, by decide⟩ vimInfosPlace)
  | _ => none

/-- The `additionalParams`, where the parameters have them. -/
def paramsAdditional : (operation : LcmOperationType) →
    Option (Place (registry operation) (.object (paramsClass operation) true))
  | .instantiate => some (.attr ⟨6, by decide⟩ .pairs)
  | .scale => some (.attr ⟨3, by decide⟩ .pairs)
  | .terminate => some (.attr ⟨2, by decide⟩ .pairs)
  | .heal => some (.attr ⟨1, by decide⟩ .pairs)
  | .changeExtConn => some (.attr ⟨2, by decide⟩ .pairs)
  | .changeVnfpkg => some (.attr ⟨4, by decide⟩ .pairs)
  | .modifyInfo => none

/-- Every `accessInfo` in `changedInfo`. -/
def changedVimInfos : Place (registry operation) (.object .vnfInfoModifications false) :=
  .attr modifiedVimInfoField vimInfosPlace

/-- The value, changed at the place if it has the place. -/
def changeAt {kind : Kind ClassName} (f : Json → Option Json)
    (place : Option (Place (registry operation) kind)) (value : Value (registry operation) kind) :
    Option (Value (registry operation) kind) :=
  match place with
  | some place => place.change f value
  | none => some value

/-- The operation states in which the credentials are not needed any more. -/
def terminalStates : List String := ["COMPLETED", "FAILED", "ROLLED_BACK"]

/-- The column holds one of these states. -/
def holdsTerminalState : Column → Bool
  | .primitive (.atom (.str state)) => state ∈ terminalStates
  | _ => false

/-- `pop_cred`. -/
def popCred (row : Row) : Bool := (row "operationState").any holdsTerminalState

/-- The credentials of `operationParams` in a row. -/
def operationParamsPass (act : Action) (params : Json) : Option Json :=
  (Json.alter "vimConnectionInfo" (Change.into (ifTruthy (vimInfosPass act))) params).bind
    (Json.alter "additionalParams" (Change.into (ifTruthy (additionalParamsPass act))))

/-- The credentials of `changedInfo` in a row. -/
def changedInfoPass (act : Action) : Json → Option Json :=
  Json.alter "vimConnectionInfo" (Change.into (ifTruthy (vimInfosPass act)))

/-- `VnfLcmOpOccV2.to_db_obj`, and the occurrence after it. -/
def lcmOpOccToDbObj (lcmocc : VnfLcmOpOcc operation) : Option (Row × VnfLcmOpOcc operation) :=
  let row := Fields.toDbObj types lcmocc
  let popOrEncrypt := if popCred row then popAct else encryptAct cipher
  ((changeColumn "operationParams" (ifTruthy (operationParamsPass popOrEncrypt)) row).bind
    (changeColumn "changedInfo" (changedInfoPass popOrEncrypt))).map fun row => (row, lcmocc)

/-- `VnfLcmOpOccV2.from_db_obj`. -/
def lcmOpOccFromDbObj (row : Row) : Option (VnfLcmOpOcc operation) :=
  (((Fields.fromDbObj types row).bind
    (Value.onAttr operationParamsField
      (changeAt (accessInfoPass (decryptAct cipher)) (paramsVimInfos operation)))).bind
    (Value.onAttr operationParamsField
      (changeAt (additionalParamsPass (decryptAct cipher)) (paramsAdditional operation)))).bind
    (Value.onAttr changedInfoField
      (changedVimInfos.change (accessInfoPass (decryptAct cipher))))

end Tacker.Crypt
