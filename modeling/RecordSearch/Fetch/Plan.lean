import RecordSearch.Directives
import RecordSearch.Fetch.Schedule
import RecordSearch.Predicate.Basic
import RecordSearch.Relation
import RecordSearch.Store.Basic

/-!
# Fetch plans

Resolving relations for a batch of records takes one call for each relation that is asked for, and
then the same for the records that it brought. A plan holds these calls with what they bring; its
timing is that of its loads.
-/

namespace RecordSearch

/-- What answers the calls: a store, the entities that its rows are read as, how long the calls to
each table take, and the tables that fail. -/
structure Backend where
  store : Store
  catalogue : Catalogue
  delay : String → Nat
  outage : String → Option Duration

namespace Backend

/-- The answer of a table, which may fail before the store is asked. -/
def answer {α : Type} (backend : Backend) (table : String) (ask : Except StoreError α) :
    Except StoreError α :=
  match backend.outage table with
  | some limit => .error (.timeout limit)
  | none => ask

def readAll (backend : Backend) (entity : Entity) (rows : List Json) :
    Except StoreError (List Record) :=
  match rows.mapM (entity.read? backend.catalogue) with
  | some records => .ok records
  | none => .error .malformedRow

def select (backend : Backend) (entity : Entity) (predicates : List Predicate)
    (request : Option PageRequest) (skipPaging : Bool) :
    Except StoreError (List Record × PageSummary) := do
  let found ← backend.answer entity.table
    (backend.store.select entity.table predicates request skipPaging)
  let records ← backend.readAll entity found.rows
  .ok (records, found.paging)

def selectById (backend : Backend) (entity : Entity) (id : Value) :
    Except StoreError (Option Record) := do
  let row ← backend.answer entity.table (backend.store.selectById entity.table id)
  match row with
  | none => .ok none
  | some row =>
    let records ← backend.readAll entity [row]
    .ok records.head?

end Backend

/-- A call for the records that a relation leads to, what it brings, and the calls that follow. -/
inductive Fetch where
  | mk (relation : Relation) (call : Call) (outcome : Except StoreError (List Record))
    (next : List Fetch)

def relatedCall (entity : Entity) (ids : List Value) : Call :=
  ⟨entity.table, .select [idPredicate ids] true⟩

mutual

/-- The fetches for a batch of records. Nothing is fetched for an empty batch. -/
def Source.plan (backend : Backend) (directives : Directives) (parents : List Record) :
    Source → List Fetch
  | .mk _ relations =>
    if parents.isEmpty then [] else planRelations backend directives parents relations

/-- The fetches for the relations that the directives ask for, in the order of the relations. -/
def planRelations (backend : Backend) (directives : Directives) (parents : List Record) :
    List (Relation × Source) → List Fetch
  | [] => []
  | (relation, source) :: rest =>
    let others := planRelations backend directives parents rest
    match directives.seek relation.name with
    | none => others
    | some reduced =>
      let ids := relation.keys parents
      let outcome := (backend.select source.entity [idPredicate ids] none true).map (·.1)
      let next := match outcome with
        | .ok children => Source.plan backend reduced children source
        | .error _ => []
      .mk relation (relatedCall source.entity ids) outcome next :: others

end

namespace Fetch

mutual

/-- The records that a fetch brings, with their own relations resolved. -/
def children : Fetch → List Record
  | .mk _ _ (.ok records) next => attachAll next records
  | .mk _ _ (.error _) _ => []

/-- Sets the links of a batch of records to what the fetches bring. -/
def attachAll : List Fetch → List Record → List Record
  | [], parents => parents
  | .mk relation call outcome next :: rest, parents =>
    attachAll rest (relation.attach (children (.mk relation call outcome next)) parents)

end

mutual

def load (delay : String → Nat) : Fetch → Load
  | .mk _ call (.ok _) next => .mk call (delay call.table) none (loads delay next)
  | .mk _ call (.error e) _ => .mk call (delay call.table) (some e) []

def loads (delay : String → Nat) : List Fetch → List Load
  | [] => []
  | fetch :: rest => load delay fetch :: loads delay rest

end

end Fetch

end RecordSearch
