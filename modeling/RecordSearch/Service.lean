import RecordSearch.Database
import RecordSearch.Fetch.Request
import RecordSearch.Registry
import RecordSearch.Settings.Load

/-!
# Services

A service holds what all its repositories share: the database, the window of their fetches, the
header that carries directives, and the deadline of a request. It keeps repositories under names.
-/

namespace RecordSearch

structure Service (Kind : Type) (Item : Kind → Type) where
  database : Database
  window : Window
  header : String
  requestTimeout : Duration
  repositories : Registry Kind Item

inductive ServiceError where
  | databaseConnection (fault : DatabaseFault)
  | settings (error : SettingsError)
  | registry (error : RegistryError)
  deriving DecidableEq, Repr

def ServiceError.message : ServiceError → String
  | .databaseConnection fault => "Database connection error: " ++ fault.message
  | .settings error => "Configuration error: " ++ error.message
  | .registry error => error.message

namespace Service

variable {Kind : Type} {Item : Kind → Type}

def ofSettings (paging : PagingSettings) (fetch : FetchSettings) : Service Kind Item :=
  { database := ⟨paging.defaults⟩
    window := .ofNat fetch.maxConcurrentFetches
    header := fetch.headerName
    requestTimeout := fetch.requestTimeout
    repositories := .empty }

def description (service : Service Kind Item) : String :=
  "Samson \x7b hydrator: " ++ service.window.description ++
    ", hydration_header: " ++ Text.quoted service.header ++
    ", request_timeout: " ++ service.requestTimeout.text ++
    ", repositories: " ++ Text.quotedList service.repositories.names ++ " \x7d"

/-- The outcome of a request under the deadline of the service. -/
def withinDeadline {α : Type} (service : Service Kind Item) (outcome : Outcome α) : Outcome α :=
  outcome.within service.requestTimeout

/-- What asking for the health of the database comes to when the pool is closed. -/
def refuseHealth : ServiceError :=
  .databaseConnection .poolClosed

end Service

end RecordSearch
