import Tacker.Basis.Renaming
import Tacker.Casing.KeyNames

/-!
# Keys of requests and responses

`convert_camelcase_to_snakecase` and `convert_snakecase_to_camelcase` of `common/utils.py`. Data comes
back as it was exactly if no key has a capital behind a capital that begins no word; then no two keys
of a dictionary meet on the way, and the additional parameters pass through.
-/

namespace Tacker.Casing

open Tacker.Basis Json

variable {α : Type} {data : Json String α}

/-! ## Conversion -/

/-- `convert_camelcase_to_snakecase`. -/
def convertCamelcaseToSnakecase : Json String α → Json String α :=
  renameKeys convertStringToSnakecase "additionalParams"

/-- `convert_snakecase_to_camelcase`. -/
def convertSnakecaseToCamelcase : Json String α → Json String α :=
  renameKeys camelcase "additional_params"

lemma snakecase_additionalParams :
    convertStringToSnakecase "additionalParams" = "additional_params" := by
  have eq : "additionalParams".toList = 'a' :: "dditionalParams".toList := rfl
  rw [convertStringToSnakecase_eq eq (List.all_eq_true.mp (by decide +kernel))]
  decide +kernel

lemma camelcase_additionalParams : camelcase "additional_params" = "additionalParams" := by
  rw [← snakecase_additionalParams]
  exact (camelcase_snakecase_eq_iff (by decide +kernel)).mpr (by decide +kernel)

/-! ## There and back -/

/-- The data comes back, no two keys of a dictionary meet on either way, and the values of
`additionalParams` are there at every depth. -/
structure RoundTrips (data : Json String α) : Prop where
  back : Same (convertSnakecaseToCamelcase (convertCamelcaseToSnakecase data)) data
  apart : KeysApart convertStringToSnakecase "additionalParams" data
  apartBack : KeysApart camelcase "additional_params" (convertCamelcaseToSnakecase data)
  unchanged : ∀ path value, Step.key "additionalParams" ∉ path →
    data.reach (path ++ [.key "additionalParams"]) = some value →
      (convertCamelcaseToSnakecase data).reach
        (path.map (Step.rename convertStringToSnakecase) ++ [.key "additional_params"]) = some value
  unchangedBack : ∀ path value, Step.key "additional_params" ∉ path →
    (convertCamelcaseToSnakecase data).reach (path ++ [.key "additional_params"]) = some value →
      (convertSnakecaseToCamelcase (convertCamelcaseToSnakecase data)).reach
        (path.map (Step.rename camelcase) ++ [.key "additionalParams"]) = some value

/-- All keys but those of additional parameters are written in lower camel case. -/
def LowerCamelcaseKeys : Json String α → Prop :=
  EachKey (fun key => isLowerCamelcase key.toList = true) "additionalParams"

/-- No key but those of additional parameters has a capital behind a capital, except where it begins
a word. -/
def CapitalsApart : Json String α → Prop :=
  EachKey (fun key => capitalsApart key.toList = true) "additionalParams"

instance (data : Json String α) : Decidable (LowerCamelcaseKeys data) :=
  inferInstanceAs (Decidable (EachKey _ _ data))

instance (data : Json String α) : Decidable (CapitalsApart data) :=
  inferInstanceAs (Decidable (EachKey _ _ data))

/-- Every key gets its name back exactly if its capitals stand apart. -/
lemma keysBack_iff (names : LowerCamelcaseKeys data) :
    EachKey (fun key => camelcase (convertStringToSnakecase key) = key) "additionalParams" data ↔
      CapitalsApart data := by
  constructor
  · intro back
    exact (names.and back).mono fun key both => (camelcase_snakecase_eq_iff both.1).mp both.2
  · intro apart
    exact (names.and apart).mono fun key both => (camelcase_snakecase_eq_iff both.1).mpr both.2

/-- Data in lower camel case comes back exactly if no key has a capital behind a capital that begins
no word. -/
theorem roundTrips_iff (data : Json String α) (names : LowerCamelcaseKeys data) :
    RoundTrips data ↔ CapitalsApart data := by
  rw [← keysBack_iff names]
  constructor
  · intro trip
    apply fixed_of_same snakecase_additionalParams camelcase_additionalParams ?_ trip.back
    exact names.mono fun key isName => camelcase_snakecase_stays isName
  · intro fixed
    have apart := keysApart_of_fixed fixed
    have apartBack := keysApart_renamed snakecase_additionalParams fixed
    refine ⟨?_, apart, apartBack, fun path value clear reached => ?_,
      fun path value clear reached => ?_⟩
    · exact same_of_fixed snakecase_additionalParams camelcase_additionalParams fixed
    · rw [← snakecase_additionalParams]
      exact reach_alone apart clear reached
    · rw [← camelcase_additionalParams]
      exact reach_alone apartBack clear reached

/-- A VNF instance with additional parameters. -/
def withParams : Json String String :=
  .dict [("vnfInstanceId", .atom "inst-1"),
    ("instantiateVnfRequest", .dict [("flavourId", .atom "simple"),
      ("additionalParams", .dict [("lcm-operation-user-data", .atom "./UserData/user_data.py"),
        ("VNF_ID", .null)])])]

/-- The instance comes back with its parameters. -/
theorem withParams_roundTrips : RoundTrips withParams :=
  (roundTrips_iff withParams (by decide +kernel)).mpr (by decide +kernel)

/-- An acronym in a key is lost: its value is found under another key. -/
theorem acronym_lost :
    LowerCamelcaseKeys (.dict [("vnfID", .atom "inst-1")] : Json String String) ∧
      camelcase (convertStringToSnakecase "vnfID") = "vnfId" ∧
      ¬ RoundTrips (.dict [("vnfID", .atom "inst-1")] : Json String String) := by
  have names : LowerCamelcaseKeys (.dict [("vnfID", .atom "inst-1")] : Json String String) := by
    decide +kernel
  refine ⟨names, ?_, fun trip => ?_⟩
  · have eq : "vnfID".toList = 'v' :: "nfID".toList := rfl
    rw [camelcase_snakecase eq (by decide) (List.all_eq_true.mp (by decide +kernel))]
    decide +kernel
  · have stays := names.mono fun key isName => camelcase_snakecase_stays isName
    have fixed : (∀ key ∈ ["vnfID"], camelcase (convertStringToSnakecase key) = key) ∧ _ :=
      fixed_of_same snakecase_additionalParams camelcase_additionalParams stays trip.back
    have apart := (camelcase_snakecase_eq_iff (by decide +kernel)).mp
      (fixed.1 "vnfID" List.mem_cons_self)
    exact absurd apart (by decide +kernel)

end Tacker.Casing
