import Mathlib.Data.List.Sort
import Tacker.Basis.Paging
import Tacker.Basis.Table
import Tacker.View.ParseFilter
import Tacker.View.Selector

/-!
# List requests

`get_dict_all` and `detail_dict_list` of `EnhanceViewBuilder`, which list instances and occurrences,
and `get_all` with `detail_list` of `BaseViewBuilder`, which list everything else, up to the page that
`_handle_pager` cuts. What the database and the filter expressions make of a row, and the policy, are
given; the view of a row and the text of the link are left out.
-/

namespace Tacker.View

open Tacker.Basis

variable {ρ ι : Type} [LinearOrder ι]

/-- The resources of a list. -/
structure Resources (ρ ι : Type) where
  /-- The `id`. -/
  key : ρ → ι
  /-- The order in which the database returns rows when it is not asked for one. -/
  order : List ρ → List ρ
  /-- The rows of a query with the condition that a filter expression becomes. -/
  selects : FilterExpr → ρ → Bool
  /-- `FilterExpr.match`, for the dictionary of a row. -/
  fits : FilterExpr → ρ → Bool
  /-- The policy permits to list the row; it is asked for instances only. -/
  permits : ρ → Bool

/-- The parameters of a request, and what the configuration adds. -/
structure ListRequest where
  allAttrs : List String
  filters : List FilterExpr
  selector : Selector
  pageSize : ℕ

/-! ## get_dict_all -/

/-- `item.attr[0]`, if it is an attribute of the view. -/
def FilterExpr.attrIn (item : FilterExpr) (allAttrs : List String) : Option String :=
  match item.attr with
  | .name attr :: _ => if attr ∈ allAttrs then some attr else none
  | _ => none

/-- The filter becomes a condition of the query. -/
def FilterExpr.isForDb (item : FilterExpr) : Bool :=
  item.attr.length = 1 && item.op ∉ [FilterOp.cont, .ncont]

namespace ListRequest

/-- `extra_attrs`, or nothing if a filter is for an attribute that the view does not know. -/
def extraAttrs (req : ListRequest) : Option (List String) :=
  req.filters.mapM fun item => item.attrIn req.allAttrs

/-- What is left of `filters`. -/
def rest (req : ListRequest) : List FilterExpr :=
  req.filters.filter fun item => !item.isForDb

/-- `limit`. -/
def limit (req : ListRequest) (extraAttrs : List String) : Option ℕ :=
  if 0 < req.pageSize && req.rest.isEmpty && (req.selector.addExtraAttrs extraAttrs).extraAttrs.isEmpty
  then some (req.pageSize + 1)
  else none

end ListRequest

namespace Resources

variable (res : Resources ρ ι)

/-- The row meets `db_filters`. -/
def isSelected (req : ListRequest) (marker : Option ι) (row : ρ) : Bool :=
  (req.filters.filter FilterExpr.isForDb).all (res.selects · row) &&
    marker.all fun m => m < res.key row

/-- `get_dict_all`. -/
def getDictAll (req : ListRequest) (marker : Option ι) (table : Table res.key) : List ρ :=
  match req.extraAttrs with
  | none => []
  | some extraAttrs =>
    let rows := res.order (table.select (res.isSelected req marker))
    match req.limit extraAttrs with
    | none => rows
    | some limit => rows.take limit

/-- `_handle_pager`: the page and the next marker. -/
def handlePager (pageSize : ℕ) (rows : List ρ) : List ρ × Option ι :=
  if pageSize = 0 then (rows, none) else cut res.key pageSize rows

/-- `index` or `lcm_op_occ_list`, with `detail_dict_list`. -/
def listDicts (req : ListRequest) (marker : Option ι) (table : Table res.key) : List ρ × Option ι :=
  let rows := (res.getDictAll req marker table).filter res.permits
  res.handlePager req.pageSize (rows.filter fun row => req.rest.all (res.fits · row))

/-! ## get_all -/

/-- `get_all`: none stands for `InvalidPagingMarker`. The rows are sorted if there is a marker. -/
def getAll (marker : Option ι) (table : Table res.key) : Option (List ρ) :=
  match marker with
  | none => some (res.order table.rows)
  | some m =>
    if (table.get m).isSome then
      some ((table.select fun row => m < res.key row).mergeSort fun row row' => res.key row ≤ res.key row')
    else none

/-- A list of objects, with `detail_list`. -/
def listObjects (req : ListRequest) (marker : Option ι) (table : Table res.key) :
    Option (List ρ × Option ι) :=
  (res.getAll marker table).map fun rows =>
    res.handlePager req.pageSize (rows.filter fun row => req.filters.all (res.fits · row))

/-- The database returns rows in the order of their ids. -/
def InOrder : Prop :=
  ∀ rows, (res.order rows).Perm rows ∧
    (res.order rows).Pairwise fun row row' => res.key row ≤ res.key row'

end Resources

end Tacker.View
