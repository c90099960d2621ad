import RecordQuery.Coercion
import RecordQuery.Options
import RecordQuery.Params
import RecordQuery.Predicate
import RecordQuery.Registry

/-!
# Queries from parameters

Parameters are compiled into a query: typed filters, an order and a page. The keys `sort`, `page`
and `limit` are reserved; every other key names a filterable column, with an operator as its suffix.
Everything is checked on compilation, so a compiled query does not fail when it runs.
-/

namespace RecordQuery

def sortKey : String := "sort"

def pageKey : String := "page"

def limitKey : String := "limit"

inductive QueryError where
  | notFilterable (column : String)
  | notSortable (column : String)
  | invalidValue (column value expected : String)
  | limitExceeded (requested max : Nat)
deriving DecidableEq

namespace QueryError

def message : QueryError → String
  | notFilterable column => s!"field '{column}' is not filterable"
  | notSortable column => s!"field '{column}' is not sortable"
  | invalidValue column value expected =>
    s!"invalid value '{value}' for '{column}': expected {expected}"
  | limitExceeded requested max => s!"limit {requested} exceeds maximum of {max}"

end QueryError

/-! ## Filters -/

inductive FilterValue where
  | single (o : Operand)
  | list (os : List Operand)
  | range (least greatest : Operand)

structure Filter where
  path : FieldPath
  op : Operator
  value : FilterValue

namespace Filter

def toPredicate (f : Filter) : Predicate :=
  match f.value, f.op with
  | .range least greatest, _ => .between f.path least greatest
  | .list os, _ => .isIn f.path os
  | .single o, .contains => .contains f.path o
  | .single o, op => .compare f.path op o

def invalid (d : Descriptor) (column raw : String) : QueryError :=
  .invalidValue column raw d.kind.element.display

def typed (d : Descriptor) (column raw part : String) : Except QueryError Operand :=
  match coerce part d.kind with
  | .ok o => .ok o
  | .error _ => .error (invalid d column raw)

/-- Reads raw text as the operands of an operator: parts between commas for a list, two parts
around the first comma for a range, and otherwise the text as it is. -/
def readValue (d : Descriptor) (column raw : String) (op : Operator) :
    Except QueryError FilterValue :=
  match op with
  | .isIn => do
    let os ← (Text.splitText ',' raw).mapM fun part => typed d column raw (Text.trim part)
    .ok (.list os)
  | .between =>
    match Text.splitFirst? ',' raw.toList with
    | none => .error (invalid d column raw)
    | some (least, greatest) => do
      let least ← typed d column raw (Text.trim (String.ofList least))
      let greatest ← typed d column raw (Text.trim (String.ofList greatest))
      .ok (.range least greatest)
  | _ => do
    let o ← typed d column raw raw
    .ok (.single o)

def ofParam (r : Registry) (key raw : String) : Except QueryError Filter :=
  let (column, op) := Operator.splitKey key
  match r.filterable? column with
  | none => .error (.notFilterable column)
  | some d => do
    let value ← readValue d column raw op
    .ok ⟨d.path, op, value⟩

end Filter

/-! ## Queries -/

structure Query where
  filters : List Filter := []
  sort : Option Order := none
  page : Nat := 1
  limit : Nat

namespace Query

def readPositive (key raw : String) : Except QueryError Nat :=
  match Sized.read .u64 raw with
  | some n =>
    if 1 ≤ n.value then .ok n.value.toNat else .error (.invalidValue key raw "positive integer")
  | none => .error (.invalidValue key raw "positive integer")

def readSort (r : Registry) (raw : String) : Except QueryError Order :=
  let requested := Order.parse raw
  let column := requested.field.display
  match r.sortable? column with
  | none => .error (.notSortable column)
  | some d => .ok ⟨d.path, requested.direction⟩

def readLimit (options : Options) (raw : String) : Except QueryError Nat := do
  let limit ← readPositive limitKey raw
  match options.maxLimit with
  | some max => if max < limit then .error (.limitExceeded limit max) else .ok limit
  | none => .ok limit

def add (r : Registry) (options : Options) (q : Query) : String × String → Except QueryError Query
  | (key, raw) =>
    if key = sortKey then do
      let sort ← readSort r raw
      .ok { q with sort := some sort }
    else if key = pageKey then do
      let page ← readPositive pageKey raw
      .ok { q with page }
    else if key = limitKey then do
      let limit ← readLimit options raw
      .ok { q with limit }
    else do
      let filter ← Filter.ofParam r key raw
      .ok { q with filters := q.filters ++ [filter] }

/-- Compiles parameters: the first value of each key in turn, then the default order if none is
asked for. -/
def compile (r : Registry) (params : Params) (options : Options) : Except QueryError Query := do
  let q ← params.firstValues.foldlM (add r options) { limit := options.defaultLimit }
  .ok { q with sort := q.sort.or options.defaultSort }

/-! ## Running a query -/

def predicate (q : Query) : Predicate := .all (q.filters.map Filter.toPredicate)

/-- The items whose records match, in the order asked for. -/
def applyBy {α : Type} (q : Query) (record : α → Record) (items : List α) : List α :=
  let matched := q.predicate.filterBy record items
  match q.sort with
  | some order => order.sortBy record matched
  | none => matched

def executeBy {α : Type} (q : Query) (record : α → Record) (items : List α) : Page α :=
  Page.ofList (q.applyBy record items) q.page q.limit

def apply (q : Query) (records : List Record) : List Record := q.applyBy id records

def execute (q : Query) (records : List Record) : Page Record := q.executeBy id records

end Query

end RecordQuery
