import RecordSearch.Json.Basic
import RecordSearch.Text.Classes

/-!
# Paging

What a caller asks for, the defaults of a store, and the page that is served: always a page from
one on, with a length from one to the greatest that the defaults allow.
-/

namespace RecordSearch

inductive SortOrder where
  | ascending
  | descending
  deriving DecidableEq, Repr

namespace SortOrder

def sql : SortOrder → String
  | .ascending => "ASC"
  | .descending => "DESC"

def name : SortOrder → String
  | .ascending => "asc"
  | .descending => "desc"

def ofName? (name : String) : Option SortOrder :=
  if name = "asc" then some .ascending
  else if name = "desc" then some .descending
  else none

def isDescending : SortOrder → Bool
  | .ascending => false
  | .descending => true

def ofDescending (descending : Bool) : SortOrder :=
  if descending then .descending else .ascending

end SortOrder

/-- A request for a page; what is left out is filled in from the defaults. -/
structure PageRequest where
  page : Option Int
  pageLength : Option Int
  sortBy : Option String
  sortOrder : Option SortOrder
  deriving DecidableEq, Repr

def PageRequest.empty : PageRequest := ⟨none, none, none, none⟩

structure PagingDefaults where
  pageLength : Int
  maxPageLength : Int
  sortBy : String
  deriving DecidableEq, Repr

def PagingDefaults.standard : PagingDefaults := ⟨25, 1000, "created_at"⟩

structure Paging where
  page : Int
  pageLength : Int
  sortBy : String
  sortOrder : SortOrder
  deriving DecidableEq, Repr

structure PageSummary where
  page : Int
  pageLength : Int
  sortBy : String
  isSortDescending : Bool
  totalRecordCount : Int
  deriving DecidableEq, Repr

namespace Paging

def maxOffset : Int := 9223372036854775807

/-- The page for a request. A page before the first becomes the first, lengths are brought within
bounds, and a blank sort column counts as left out. -/
def normalize (requested : Option PageRequest) (defaults : PagingDefaults) : Paging :=
  let requested := requested.getD .empty
  let wanted := requested.pageLength.getD defaults.pageLength
  { page := ((requested.page.filter fun page => 1 ≤ page).getD 1)
    pageLength := max 1 (min wanted (max 1 defaults.maxPageLength))
    sortBy := (requested.sortBy.filter fun column => !Text.allBlank column).getD defaults.sortBy
    sortOrder := requested.sortOrder.getD .ascending }

/-- How many records come before the page, held at the greatest 64-bit number. -/
def offset (paging : Paging) : Int :=
  min (paging.pageLength * (paging.page - 1)) maxOffset

def summary (paging : Paging) (total : Int) : PageSummary :=
  { page := paging.page
    pageLength := paging.pageLength
    sortBy := paging.sortBy
    isSortDescending := paging.sortOrder.isDescending
    totalRecordCount := total }

def slice {α : Type} (paging : Paging) (records : List α) : List α :=
  (records.drop paging.offset.toNat).take paging.pageLength.toNat

end Paging

/-! ### JSON -/

def SortOrder.ofJson? (value : Json) : Option SortOrder :=
  value.choice?.bind SortOrder.ofName?

def PageRequest.ofJson? (value : Json) : Option PageRequest := do
  let fields ← value.fields? ["page", "page_length", "sort_by", "sort_order"] 4
  let page ← Json.optional? fields "page" Json.asInt64?
  let pageLength ← Json.optional? fields "page_length" Json.asInt64?
  let sortBy ← Json.optional? fields "sort_by" Json.asText?
  let sortOrder ← Json.optional? fields "sort_order" SortOrder.ofJson?
  some { page, pageLength, sortBy, sortOrder }

/-- A request as JSON, with null for what is left out. -/
def PageRequest.toJson (request : PageRequest) : Json :=
  .ofMembers [
    ("page", (request.page.map Json.integer).getD .null),
    ("page_length", (request.pageLength.map Json.integer).getD .null),
    ("sort_by", (request.sortBy.map Json.string).getD .null),
    ("sort_order", (request.sortOrder.map fun order => Json.string order.name).getD .null)]

def PageSummary.toJson (summary : PageSummary) : Json :=
  .ofMembers [
    ("page", .integer summary.page),
    ("page_length", .integer summary.pageLength),
    ("sort_by", .string summary.sortBy),
    ("is_sort_descending", .bool summary.isSortDescending),
    ("total_record_count", .integer summary.totalRecordCount)]

end RecordSearch
