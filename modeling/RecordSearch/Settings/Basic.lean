import RecordSearch.Paging
import RecordSearch.StoreError

/-!
# Settings

The settings of a service: its database, the defaults of paging, and the limits of resolving
relations. They are read from a tree of values and checked before they are used.
-/

namespace RecordSearch

structure DatabaseSettings where
  host : String
  port : Nat
  database : String
  username : String
  password : String
  minConnections : Nat
  maxConnections : Nat
  connectionTimeoutSeconds : Nat
  idleTimeoutSeconds : Nat
  maxLifetimeSeconds : Nat
  deriving DecidableEq, Repr

structure PagingSettings where
  defaultPageLength : Int
  maxPageLength : Int
  defaultSortBy : String
  deriving DecidableEq, Repr

structure FetchSettings where
  headerName : String
  maxConcurrentFetches : Nat
  requestTimeoutMillis : Nat
  deriving DecidableEq, Repr

structure Settings where
  database : DatabaseSettings
  paging : PagingSettings
  fetch : FetchSettings
  deriving DecidableEq, Repr

def PagingSettings.standard : PagingSettings := ⟨25, 1000, "created_at"⟩

def FetchSettings.standard : FetchSettings := ⟨"Samson-Hydration", 8, 30000⟩

def PagingSettings.defaults (paging : PagingSettings) : PagingDefaults :=
  ⟨paging.defaultPageLength, paging.maxPageLength, paging.defaultSortBy⟩

def FetchSettings.requestTimeout (fetch : FetchSettings) : Duration :=
  ⟨fetch.requestTimeoutMillis⟩

/-- The address of the database. Its parts stand as they are. -/
def DatabaseSettings.connectionString (d : DatabaseSettings) : String :=
  "postgresql://" ++ d.username ++ ":" ++ d.password ++ "@" ++ d.host ++ ":" ++
    Number.decimal d.port ++ "/" ++ d.database

inductive SettingsFault where
  | hostEmpty
  | portZero
  | databaseEmpty
  | usernameEmpty
  | minConnectionsZero
  | maxConnectionsZero
  | connectionsReversed
  | connectionTimeoutZero
  | pageLengthNotPositive
  | pageLengthsReversed
  | sortColumnBlank
  | headerBlank
  | fetchesZero
  | requestTimeoutZero
  /-- No file of settings is named and none is in the usual place. -/
  | noFile
  deriving DecidableEq, Repr

/-- The variable that names the file of settings, and the file that is read without it. -/
def Settings.fileVariable : String := "SAMSON_CONFIG"

def Settings.defaultFile : String := "./samson.toml"

def SettingsFault.message : SettingsFault → String
  | .hostEmpty => "Database host cannot be empty"
  | .portZero => "Database port cannot be zero"
  | .databaseEmpty => "Database name cannot be empty"
  | .usernameEmpty => "Database username cannot be empty"
  | .minConnectionsZero => "Database min_connections must be greater than 0"
  | .maxConnectionsZero => "Database max_connections must be greater than 0"
  | .connectionsReversed => "Database min_connections cannot be greater than max_connections"
  | .connectionTimeoutZero => "Database connection_timeout_seconds must be greater than 0"
  | .pageLengthNotPositive => "Paging default_page_length must be greater than 0"
  | .pageLengthsReversed => "Paging max_page_length cannot be less than default_page_length"
  | .sortColumnBlank => "Paging default_sort_by cannot be empty"
  | .headerBlank => "Hydration header_name cannot be empty"
  | .fetchesZero => "Hydration max_concurrent_fetches must be greater than 0"
  | .requestTimeoutZero => "Hydration request_timeout_ms must be greater than 0"
  | .noFile => "Config path must be specified in .env file as " ++ Settings.fileVariable ++
      " or in " ++ Settings.defaultFile ++ " file"

namespace DatabaseSettings

def fault? (d : DatabaseSettings) : Option SettingsFault :=
  if d.host = "" then some .hostEmpty
  else if d.port = 0 then some .portZero
  else if d.database = "" then some .databaseEmpty
  else if d.username = "" then some .usernameEmpty
  else if d.minConnections = 0 then some .minConnectionsZero
  else if d.maxConnections = 0 then some .maxConnectionsZero
  else if d.maxConnections < d.minConnections then some .connectionsReversed
  else if d.connectionTimeoutSeconds = 0 then some .connectionTimeoutZero
  else none

def names : List String :=
  ["host", "port", "database", "username", "password", "min_connections", "max_connections",
    "connection_timeout_seconds", "idle_timeout_seconds", "max_lifetime_seconds"]

def ofJson? (value : Json) : Option DatabaseSettings := do
  let fields ← value.fields? names names.length
  let word16 := fun (value : Json) => (value.asIntegerIn? 0 65535).map Int.toNat
  let word32 := fun (value : Json) => (value.asIntegerIn? 0 4294967295).map Int.toNat
  let word64 := fun (value : Json) => (value.asIntegerIn? 0 18446744073709551615).map Int.toNat
  let host ← Json.required? fields "host" Json.asText?
  let port ← Json.required? fields "port" word16
  let database ← Json.required? fields "database" Json.asText?
  let username ← Json.required? fields "username" Json.asText?
  let password ← Json.required? fields "password" Json.asText?
  let minConnections ← Json.required? fields "min_connections" word32
  let maxConnections ← Json.required? fields "max_connections" word32
  let connectionTimeoutSeconds ← Json.required? fields "connection_timeout_seconds" word64
  let idleTimeoutSeconds ← Json.required? fields "idle_timeout_seconds" word64
  let maxLifetimeSeconds ← Json.required? fields "max_lifetime_seconds" word64
  some { host, port, database, username, password, minConnections, maxConnections,
         connectionTimeoutSeconds, idleTimeoutSeconds, maxLifetimeSeconds }

end DatabaseSettings

namespace PagingSettings

def fault? (p : PagingSettings) : Option SettingsFault :=
  if p.defaultPageLength < 1 then some .pageLengthNotPositive
  else if p.maxPageLength < p.defaultPageLength then some .pageLengthsReversed
  else if Text.allBlank p.defaultSortBy then some .sortColumnBlank
  else none

def names : List String :=
  ["default_page_length", "max_page_length", "default_sort_by"]

def ofJson? (value : Json) : Option PagingSettings := do
  let fields ← value.fields? names 0
  let defaultPageLength ←
    Json.orDefault? fields "default_page_length" standard.defaultPageLength Json.asInt64?
  let maxPageLength ←
    Json.orDefault? fields "max_page_length" standard.maxPageLength Json.asInt64?
  let defaultSortBy ←
    Json.orDefault? fields "default_sort_by" standard.defaultSortBy Json.asText?
  some { defaultPageLength, maxPageLength, defaultSortBy }

end PagingSettings

namespace FetchSettings

def fault? (h : FetchSettings) : Option SettingsFault :=
  if Text.allBlank h.headerName then some .headerBlank
  else if h.maxConcurrentFetches = 0 then some .fetchesZero
  else if h.requestTimeoutMillis = 0 then some .requestTimeoutZero
  else none

def names : List String :=
  ["header_name", "max_concurrent_fetches", "request_timeout_ms"]

def ofJson? (value : Json) : Option FetchSettings := do
  let fields ← value.fields? names 0
  let word64 := fun (value : Json) => (value.asIntegerIn? 0 18446744073709551615).map Int.toNat
  let headerName ← Json.orDefault? fields "header_name" standard.headerName Json.asText?
  let maxConcurrentFetches ←
    Json.orDefault? fields "max_concurrent_fetches" standard.maxConcurrentFetches word64
  let requestTimeoutMillis ←
    Json.orDefault? fields "request_timeout_ms" standard.requestTimeoutMillis word64
  some { headerName, maxConcurrentFetches, requestTimeoutMillis }

end FetchSettings

namespace Settings

/-- The first fault of settings: of the database, then of paging, then of resolving relations. -/
def fault? (s : Settings) : Option SettingsFault :=
  (s.database.fault?.or s.paging.fault?).or s.fetch.fault?

def sections : List (String × List String) :=
  [("database", DatabaseSettings.names), ("paging", PagingSettings.names),
    ("hydration", FetchSettings.names)]

def ofJson? (value : Json) : Option Settings := do
  let fields ← value.fields? (sections.map Prod.fst) 1
  let database ← Json.required? fields "database" DatabaseSettings.ofJson?
  let paging ← Json.orDefault? fields "paging" .standard PagingSettings.ofJson?
  let fetch ← Json.orDefault? fields "hydration" .standard FetchSettings.ofJson?
  some { database, paging, fetch }

end Settings

end RecordSearch
