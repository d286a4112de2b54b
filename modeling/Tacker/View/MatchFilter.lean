import Tacker.View.ParseFilter
import Mathlib.Algebra.Order.Ring.Rat
import Mathlib.Data.String.Basic
import Mathlib.Order.WithBot
import Mathlib.Order.Compare

/-!
# Matching filters

`FilterExpr.match`, `BaseViewBuilder.match_filters` and the list of `detail_list`, of
`controller/vnflcm_view.py`. A filter expression is used for all the objects of a list: it reads the
attribute, converts its values by the type of what it finds, once, and compares.
-/

namespace Tacker.View

/-! ## Values of attributes -/

/-- A floating point number: `none` is nan, the ends are the infinities. -/
abbrev Number := Option (WithBot (WithTop ℚ))

/-- The number that an integer is. -/
def Number.ofInt (n : Int) : Number := some ((n : ℚ) : WithTop ℚ)

/-- A `datetime`, in microseconds, with or without a time zone. -/
structure Datetime where
  aware : Bool
  time : Int
deriving DecidableEq

/-- A value of Python that can be compared. -/
inductive Scalar where
  | str (s : String)
  | bool (b : Bool)
  | int (n : Int)
  | float (x : Number)
  | datetime (d : Datetime)

/-- What is found in an object: `none` stands for `None`, and the attributes of an object may be
unset. -/
inductive Val where
  | none
  | scalar (s : Scalar)
  | list (items : List Val)
  | dict (members : List (String × Val))
  | object (fields : List (String × Option Val))

/-- The exceptions. `valueError` is raised by conversions, `typeError` by comparisons, and
`notImplementedError` by an attribute that is not set. -/
inductive MatchError where
  | invalidAttributeFilter (solDetail : String)
  | keyError
  | attributeError
  | typeError
  | valueError
  | indexError
  | notImplementedError
deriving DecidableEq

/-! ## Reading an attribute -/

/-- `val.keys()`. -/
def Val.keys : Val → Except MatchError Val
  | dict members => .ok (list (members.map fun member => scalar (.str member.1)))
  | object fields =>
    .ok (list ((fields.filter fun field => field.2.isSome).map fun field => scalar (.str field.1)))
  | _ => .error .attributeError

/-- What a dictionary has for a key. -/
def memberOf : Option Val → Except MatchError Val
  | some v => .ok v
  | none => .error .keyError

/-- What an object has for a name: an attribute may be unset. -/
def attributeOf : Option (Option Val) → Except MatchError Val
  | some (some v) => .ok v
  | some none => .error .notImplementedError
  | none => .error .attributeError

/-- `val[a]`. -/
def Val.getItem (a : String) : Val → Except MatchError Val
  | dict members => memberOf (members.lookup a)
  | object fields => attributeOf (fields.lookup a)
  | _ => .error .typeError

/-- One turn of the loop over the parts of the attribute name. -/
def Val.readPart (val : Val) : AttrPart → Except MatchError Val
  | .key => val.keys
  | .name a => val.getItem a

/-- The loop over the parts. -/
def Val.read (attr : List AttrPart) (val : Val) : Except MatchError Val :=
  attr.foldlM Val.readPart val

/-! ## Comparisons -/

/-- The number that a value is. -/
def Scalar.number? : Scalar → Option Number
  | bool b => some (Number.ofInt (if b then 1 else 0))
  | int n => some (Number.ofInt n)
  | float x => some x
  | _ => none

/-- `x == y`, for values that are no numbers. -/
def Scalar.same : Scalar → Scalar → Bool
  | str s, str t => s = t
  | datetime d, datetime e => d = e
  | _, _ => false

/-- `x == y`. -/
def Scalar.equals (x y : Scalar) : Bool :=
  match x.number?, y.number? with
  | some m, some n => m.isSome && decide (m = n)
  | none, none => x.same y
  | _, _ => false

/-- How two numbers compare, if none is nan. -/
def Number.compare (m n : Number) : Option Ordering :=
  m.bind fun a => n.map fun b => cmp a b

/-- How two values that are no numbers compare. -/
def Scalar.order : Scalar → Scalar → Except MatchError (Option Ordering)
  | str s, str t => .ok (some (cmp s t))
  | datetime d, datetime e =>
    if d.aware = e.aware then .ok (some (cmp d.time e.time)) else .error .typeError
  | _, _ => .error .typeError

/-- How two values compare. -/
def Scalar.compare (x y : Scalar) : Except MatchError (Option Ordering) :=
  match x.number?, y.number? with
  | some m, some n => .ok (m.compare n)
  | none, none => x.order y
  | _, _ => .error .typeError

/-- `val == v`. -/
def Val.equals (val : Val) (v : Scalar) : Bool :=
  match val with
  | scalar x => x.equals v
  | _ => false

/-- How a found value and a value of the filter compare. -/
def Val.compare (val : Val) (v : Scalar) : Except MatchError (Option Ordering) :=
  match val with
  | scalar x => x.compare v
  | _ => .error .typeError

/-- `v in val`. -/
def Val.contains (val : Val) (v : Scalar) : Except MatchError Bool :=
  match val, v with
  | scalar (.str s), .str part => .ok (decide (part.toList <:+: s.toList))
  | list items, v => .ok (items.any fun item => item.equals v)
  | dict members, v => .ok (members.any fun member => (Scalar.str member.1).equals v)
  | object fields, v =>
    .ok (fields.any fun field => field.2.isSome && (Scalar.str field.1).equals v)
  | _, _ => .error .typeError

/-- `self.values[0]`. -/
def firstOf (values : List Scalar) : Except MatchError Scalar :=
  match values with
  | [] => .error .indexError
  | v :: _ => .ok v

/-- A comparison with the first value. -/
def matchOrder (accepts : Ordering → Bool) (values : List Scalar) (val : Val) :
    Except MatchError Bool := do
  let v ← firstOf values
  let order ← val.compare v
  return order.any accepts

/-- `match_eq`. -/
def matchEq (values : List Scalar) (val : Val) : Except MatchError Bool := do
  return val.equals (← firstOf values)

/-- `match_neq`. -/
def matchNeq (values : List Scalar) (val : Val) : Except MatchError Bool := do
  return !val.equals (← firstOf values)

/-- `match_in`. -/
def matchIn (values : List Scalar) (val : Val) : Except MatchError Bool :=
  .ok (values.any val.equals)

/-- `match_nin`. -/
def matchNin (values : List Scalar) (val : Val) : Except MatchError Bool :=
  .ok (!values.any val.equals)

/-- `match_gt`. -/
def matchGt : List Scalar → Val → Except MatchError Bool := matchOrder fun o => o = .gt

/-- `match_gte`. -/
def matchGte : List Scalar → Val → Except MatchError Bool := matchOrder fun o => o ≠ .lt

/-- `match_lt`. -/
def matchLt : List Scalar → Val → Except MatchError Bool := matchOrder fun o => o = .lt

/-- `match_lte`. -/
def matchLte : List Scalar → Val → Except MatchError Bool := matchOrder fun o => o ≠ .gt

/-- `match_cont`. -/
def matchCont (values : List Scalar) (val : Val) : Except MatchError Bool :=
  values.anyM val.contains

/-- `match_ncont`. -/
def matchNcont (values : List Scalar) (val : Val) : Except MatchError Bool := do
  return !(← matchCont values val)

/-- `getattr(self, "match_" + self.op)`. -/
def FilterOp.matchFn : FilterOp → List Scalar → Val → Except MatchError Bool
  | eq => matchEq
  | neq => matchNeq
  | gt => matchGt
  | gte => matchGte
  | lt => matchLt
  | lte => matchLte
  | .in => matchIn
  | nin => matchNin
  | cont => matchCont
  | ncont => matchNcont

/-- The comparison at the end of `match`: a list matches with one of its items. -/
def FilterOp.matchVal (op : FilterOp) (values : List Scalar) : Val → Except MatchError Bool
  | .list items => items.anyM (op.matchFn values)
  | val => op.matchFn values val

/-! ## Conversions -/

/-- `isoparse`, `int` and `float` of a text; `none` where they raise. -/
structure Parsers where
  isoparse : String → Option Datetime
  int : String → Option Int
  float : String → Option Number

/-- The values of a filter: texts, or what they were converted into. A time or a truth value replaces
the first text only. -/
inductive Values where
  | texts (values : List String)
  | datetime (first : Datetime) (rest : List String)
  | bool (first : Bool) (rest : List String)
  | ints (values : List Int)
  | floats (values : List Number)

/-- `self.values`. -/
def Values.toList : Values → List Scalar
  | texts values => values.map .str
  | datetime first rest => .datetime first :: rest.map .str
  | bool first rest => .bool first :: rest.map .str
  | ints values => values.map .int
  | floats values => values.map .float

/-- What `int()`, `float()` or `isoparse` makes of a text. -/
def parsed {α : Type} (parse : String → Option α) (text : String) : Except MatchError α :=
  match parse text with
  | some x => .ok x
  | none => .error .valueError

/-- The first value, for a truth value. -/
def boolText (text : String) : Except MatchError Bool :=
  if text = "true" then .ok true
  else if text = "false" then .ok false
  else .error (.invalidAttributeFilter "invalid value for boolean")

/-- The conversion of texts, by the type of what was found. -/
def convertTexts (parsers : Parsers) (first : String) (rest : List String) :
    Val → Except MatchError Values
  | .scalar (.datetime _) => (parsed parsers.isoparse first).map fun d => .datetime d rest
  | .scalar (.bool _) => (boolText first).map fun b => .bool b rest
  | .scalar (.int _) => ((first :: rest).mapM (parsed parsers.int)).map .ints
  | .scalar (.float _) => ((first :: rest).mapM (parsed parsers.float)).map .floats
  | _ => .ok (.texts (first :: rest))

/-- The conversion of the values of a filter: what was converted stays. -/
def Values.convert (parsers : Parsers) (val : Val) : Values → Except MatchError Values
  | texts [] => .error .indexError
  | texts (first :: rest) => convertTexts parsers first rest val
  | values => .ok values

/-! ## Filters -/

/-- A filter expression with the values that it has now. -/
structure Matcher where
  op : FilterOp
  attr : List AttrPart
  values : Values

/-- A filter expression as it is parsed. -/
def FilterExpr.fresh (expr : FilterExpr) : Matcher where
  op := expr.op
  attr := expr.attr
  values := .texts expr.values

/-- A part of an attribute name, as a text. -/
def AttrPart.text : AttrPart → String
  | key => "@key"
  | name s => s

/-- The exception for an attribute name that cannot be followed. -/
def invalidAttrName (attr : List AttrPart) : MatchError :=
  .invalidAttributeFilter
    ("AttrName " ++ "/".intercalate (attr.map AttrPart.text) ++ " is invalid")

/-- The values are converted and compared. -/
def Matcher.compare (parsers : Parsers) (f : Matcher) (val : Val) :
    Except MatchError (Bool × Matcher) := do
  let values ← f.values.convert parsers val
  let found ← f.op.matchVal values.toList val
  return (found, { f with values := values })

/-- `match`. -/
def Matcher.match (parsers : Parsers) (f : Matcher) (obj : Val) :
    Except MatchError (Bool × Matcher) :=
  match obj.read f.attr with
  | .error .keyError => .ok (false, f)
  | .error .attributeError => .error (invalidAttrName f.attr)
  | .error .typeError => .error (invalidAttrName f.attr)
  | .error e => .error e
  | .ok val => f.compare parsers val

/-- `match_filters`: the filters after one that does not match are not used. -/
def matchFilters (parsers : Parsers) (obj : Val) :
    List Matcher → Except MatchError (Bool × List Matcher)
  | [] => .ok (true, [])
  | f :: filters => do
    let (found, f') ← f.match parsers obj
    if found then
      let (all, filters') ← matchFilters parsers obj filters
      return (all, f' :: filters')
    else
      return (false, f' :: filters)

/-- The objects of a list that match, one after the other with the same filters. -/
def matchList (parsers : Parsers) : List Matcher → List Val → Except MatchError (List Val)
  | _, [] => .ok []
  | filters, obj :: objs => do
    let (found, filters') ← matchFilters parsers obj filters
    let rest ← matchList parsers filters' objs
    return if found then obj :: rest else rest

end Tacker.View
