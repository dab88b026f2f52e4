import RecordSearch.Fetch.Plan
import RecordSearch.Text.Quoted

/-!
# Requests

Searching an entity or looking one record up, with the relations that the directives ask for
resolved. A request answers with its result, the time that it took, and the calls that it made.
-/

namespace RecordSearch

structure Outcome (α : Type) where
  result : Except StoreError α
  elapsed : Nat
  log : List Entry

structure RecordPage where
  records : List Record
  paging : PageSummary

/-- An entity with its relations, over a backend, with a bound on the fetches that run beside each
other. -/
structure Repository where
  backend : Backend
  source : Source
  window : Window

def Window.description (window : Window) : String :=
  "Hydrator \x7b max_concurrent_fetches: " ++ Number.decimal window.width ++ " \x7d"

namespace Repository

def description (repository : Repository) : String :=
  "EntityRepository \x7b table: " ++ Text.quoted repository.source.entity.table ++
    ", relations: " ++ Text.quotedList repository.source.relationNames ++
    ", hydrator: " ++ repository.window.description ++ " \x7d"

/-- The fetches for the relations of some records; none without directives. -/
def plan (repository : Repository) (directives : Option Directives) (records : List Record) :
    List Fetch :=
  match directives with
  | none => []
  | some directives => repository.source.plan repository.backend directives records

/-- Runs a first call and the fetches for what it brought. `finish` makes the result from them. -/
def respond {α β : Type} (repository : Repository) (call : Call) (first : Except StoreError α)
    (fetches : α → List Fetch) (finish : α → β) : Outcome β :=
  let delay := repository.backend.delay
  let duration := delay call.table
  match first with
  | .error e =>
    let run := (Load.mk call duration (some e) []).run repository.window 0
    ⟨.error e, run.finish, run.log⟩
  | .ok found =>
    let run := (Load.mk call duration none (Fetch.loads delay (fetches found))).run
      repository.window 0
    match run.failure with
    | some e => ⟨.error e, run.finish, run.log⟩
    | none => ⟨.ok (finish found), run.finish, run.log⟩

def search (repository : Repository) (predicates : List Predicate) (request : Option PageRequest)
    (options : RequestOptions) : Outcome RecordPage :=
  let entity := repository.source.entity
  let fetches := repository.plan options.directives
  repository.respond
    ⟨entity.table, .select predicates options.skipPaging⟩
    (repository.backend.select entity predicates request options.skipPaging)
    (fun found => fetches found.1)
    (fun found => ⟨Fetch.attachAll (fetches found.1) found.1, found.2⟩)

def getById (repository : Repository) (id : Value) (directives : Option Directives) :
    Outcome (Option Record) :=
  let entity := repository.source.entity
  let fetches (found : Option Record) := repository.plan directives found.toList
  repository.respond
    ⟨entity.table, .byId id⟩
    (repository.backend.selectById entity id)
    fetches
    (fun found => (Fetch.attachAll (fetches found) found.toList).head?)

end Repository

/-- What is left of a log when a request is dropped at its deadline, after everything that was due
then. -/
def truncateLog (deadline : Nat) (log : List Entry) : List Entry :=
  cutBy (· ≤ deadline) log

/-- An outcome under a deadline. A request that is done when the deadline comes has kept it. -/
def Outcome.within {α : Type} (outcome : Outcome α) (deadline : Duration) : Outcome α :=
  if outcome.elapsed ≤ deadline.millis then outcome
  else ⟨.error (.timeout deadline), deadline.millis, truncateLog deadline.millis outcome.log⟩

end RecordSearch
