import Mathlib.Tactic.SplitIfs
import RecordSearch.Database
import RecordSearch.Proofs.Predicate.Integers

/-!
# Bounds of pages

On signed 64-bit integers no step of filling a request in fails: the two bounds of a length never
stand the wrong way round, and the number of pages before a page is such an integer too. The offset
is the number of rows before the page, or the greatest such integer where that number is beyond it.
Asking for the page that was served brings the same page again.
-/

namespace RecordSearch

/-! ### Steps in 64 bits -/

instance (n : Int) : Decidable (IsSigned n) :=
  inferInstanceAs (Decidable (_ ∧ _))

namespace Signed

/-- The result of a step in 64 bits, which fails beyond their range. -/
def checked? (n : Int) : Option Int :=
  if IsSigned n then some n else none

/-- The number between two bounds that is next to `n`. There is none between bounds that stand the
wrong way round. -/
def clamp? (low high n : Int) : Option Int :=
  if high < low then none
  else if n < low then some low
  else if high < n then some high
  else some n

/-- A product that is held at the ends of the range. -/
def saturatingProduct (n m : Int) : Int :=
  max (-9223372036854775808) (min (n * m) 9223372036854775807)

theorem checked?_of_isSigned {n : Int} (h : IsSigned n) : checked? n = some n :=
  if_pos h

theorem clamp?_of_le {low high : Int} (h : low ≤ high) (n : Int) :
    clamp? low high n = some (max low (min n high)) := by
  rw [clamp?, if_neg (by omega)]
  split_ifs <;> exact congrArg some (by omega)

theorem saturatingProduct_of_nonneg {n m : Int} (hn : 0 ≤ n) (hm : 0 ≤ m) :
    saturatingProduct n m = min (n * m) 9223372036854775807 := by
  have hproduct := Int.mul_nonneg hn hm
  unfold saturatingProduct
  omega

end Signed

structure PageRequest.IsSigned (request : PageRequest) : Prop where
  page : ∀ page ∈ request.page, RecordSearch.IsSigned page
  pageLength : ∀ length ∈ request.pageLength, RecordSearch.IsSigned length

structure PagingDefaults.IsSigned (defaults : PagingDefaults) : Prop where
  pageLength : RecordSearch.IsSigned defaults.pageLength
  maxPageLength : RecordSearch.IsSigned defaults.maxPageLength

attribute [ext] Paging

namespace Paging

/-- The page for a request, step by step in 64 bits. -/
def normalize? (requested : Option PageRequest) (defaults : PagingDefaults) : Option Paging := do
  let requested := requested.getD .empty
  let wanted := requested.pageLength.getD defaults.pageLength
  let pageLength ← Signed.clamp? 1 (max defaults.maxPageLength 1) wanted
  some
    { page := (requested.page.filter fun page => 1 ≤ page).getD 1
      pageLength := pageLength
      sortBy := (requested.sortBy.filter fun column => !Text.allBlank column).getD defaults.sortBy
      sortOrder := requested.sortOrder.getD .ascending }

/-- How many records come before the page, step by step in 64 bits. -/
def offset? (paging : Paging) : Option Int := do
  let before ← Signed.checked? (paging.page - 1)
  some (Signed.saturatingProduct paging.pageLength before)

/-- The page that is served, asked for. -/
def request (paging : Paging) : PageRequest :=
  ⟨some paging.page, some paging.pageLength, some paging.sortBy, some paging.sortOrder⟩

/-- Whether a page is one that a request may be answered with: within the bounds that the defaults
set, and the one asked for as far as this is within them. -/
structure Answers (paging : Paging) (requested : Option PageRequest) (defaults : PagingDefaults) :
    Prop where
  one_le_page : 1 ≤ paging.page
  one_le_pageLength : 1 ≤ paging.pageLength
  pageLength_le : paging.pageLength ≤ max 1 defaults.maxPageLength
  page_eq : ∀ request ∈ requested, ∀ page ∈ request.page, 1 ≤ page → paging.page = page
  pageLength_eq : ∀ request ∈ requested, ∀ length ∈ request.pageLength,
    1 ≤ length → length ≤ max 1 defaults.maxPageLength → paging.pageLength = length
  sortBy_eq : ∀ request ∈ requested, ∀ column ∈ request.sortBy,
    Text.allBlank column = false → paging.sortBy = column
  sortBy_default : (∀ request ∈ requested, ∀ column ∈ request.sortBy,
    Text.allBlank column = true) → paging.sortBy = defaults.sortBy

variable (requested : Option PageRequest) (defaults : PagingDefaults)

theorem one_le_page_normalize : 1 ≤ (normalize requested defaults).page := by
  unfold normalize
  cases hpage : (requested.getD .empty).page.filter fun page => 1 ≤ page with
  | none => simp [hpage]
  | some page =>
      have hle := (Option.filter_eq_some_iff.1 hpage).2
      simpa [hpage] using hle

theorem one_le_pageLength_normalize : 1 ≤ (normalize requested defaults).pageLength :=
  Int.le_max_left _ _

theorem offset_normalize_nonneg : 0 ≤ (normalize requested defaults).offset := by
  have hpage := one_le_page_normalize requested defaults
  have hlength := one_le_pageLength_normalize requested defaults
  have hproduct := Int.mul_nonneg (Int.le_trans Int.one_nonneg hlength) (Int.sub_nonneg_of_le hpage)
  exact Int.le_min.2 ⟨hproduct, by decide⟩

theorem normalize?_eq : normalize? requested defaults = some (normalize requested defaults) := by
  have hbounds : 1 ≤ max defaults.maxPageLength 1 := Int.le_max_right _ _
  simp only [normalize?, Signed.clamp?_of_le hbounds, Option.bind_eq_bind, Option.bind_some]
  rw [Int.max_comm defaults.maxPageLength]
  rfl

theorem normalize_answers : (normalize requested defaults).Answers requested defaults where
  one_le_page := one_le_page_normalize requested defaults
  one_le_pageLength := one_le_pageLength_normalize requested defaults
  pageLength_le := by
    simp only [normalize]
    omega
  page_eq := by
    rintro request rfl page hpage hle
    rw [Option.mem_def] at hpage
    simp [normalize, hpage, Option.filter_some, hle]
  pageLength_eq := by
    rintro request rfl length hlength hone hle
    rw [Option.mem_def] at hlength
    simp only [normalize, Option.getD_some, hlength]
    omega
  sortBy_eq := by
    rintro request rfl column hcolumn hblank
    rw [Option.mem_def] at hcolumn
    simp [normalize, hcolumn, Option.filter_some, hblank]
  sortBy_default := by
    intro hblank
    cases requested with
    | none => rfl
    | some request =>
      cases hcolumn : request.sortBy with
      | none => simp [normalize, hcolumn]
      | some column =>
        have hcolumnBlank := hblank request rfl column hcolumn
        simp [normalize, hcolumn, Option.filter_some, hcolumnBlank]

/-- What was filled in is kept when it is asked for, even a default that would be left out. -/
theorem getD_filter_getD {α : Type} (p : α → Bool) (wanted : Option α) (default : α) :
    ((some ((wanted.filter p).getD default)).filter p).getD default =
      (wanted.filter p).getD default := by
  cases hwanted : wanted.filter p with
  | none => cases hdefault : p default <;> simp [Option.filter_some, hdefault]
  | some value =>
    have hvalue := (Option.filter_eq_some_iff.1 hwanted).2
    simp [Option.filter_some, hvalue]

theorem normalize_request :
    normalize (some (normalize requested defaults).request) defaults =
      normalize requested defaults := by
  have hlength := one_le_pageLength_normalize requested defaults
  have hle := (normalize_answers requested defaults).pageLength_le
  refine Paging.ext ?_ ?_ ?_ rfl
  · exact getD_filter_getD (fun page => decide (1 ≤ page)) (requested.getD .empty).page 1
  · change max 1 (min (normalize requested defaults).pageLength (max 1 defaults.maxPageLength)) = _
    omega
  · exact getD_filter_getD (fun column => !Text.allBlank column) (requested.getD .empty).sortBy _

section Signed

variable {requested defaults}

theorem isSigned_page_normalize (hrequested : ∀ request ∈ requested, request.IsSigned) :
    IsSigned (normalize requested defaults).page := by
  have hone : IsSigned 1 := by decide
  unfold normalize
  cases requested with
  | none => exact hone
  | some request =>
    cases hpage : request.page.filter fun page => 1 ≤ page with
    | none => simpa [hpage] using hone
    | some page =>
      have hmem := (Option.filter_eq_some_iff.1 hpage).1
      simpa [hpage] using (hrequested request rfl).page page hmem

theorem isSigned_pageLength_normalize (hdefaults : defaults.IsSigned) :
    IsSigned (normalize requested defaults).pageLength := by
  have hone := one_le_pageLength_normalize requested defaults
  have hle := (normalize_answers requested defaults).pageLength_le
  have hmax := hdefaults.maxPageLength
  unfold IsSigned at *
  omega

theorem offset?_eq {paging : Paging} (hpage : IsSigned paging.page) (hfirst : 1 ≤ paging.page)
    (hlength : 1 ≤ paging.pageLength) : paging.offset? = some paging.offset := by
  have hbefore : IsSigned (paging.page - 1) := by
    unfold IsSigned at *
    omega
  rw [offset?, Signed.checked?_of_isSigned hbefore]
  simp only [Option.bind_eq_bind, Option.bind_some]
  rw [Signed.saturatingProduct_of_nonneg (by omega) (by omega), offset, maxOffset]

end Signed

/-- **Pages are total, bounded and stable.** On signed 64-bit integers every request is answered
with a page, and no step towards the page or its offset fails. The page is within the bounds that
the defaults set and is the one asked for as far as that is within them. The offset is the exact
number of rows before the page or the greatest 64-bit number. Asking for the page that was served
brings the same page again, so the same statement and the same selection. -/
theorem exists_page (hrequested : ∀ request ∈ requested, request.IsSigned)
    (hdefaults : defaults.IsSigned) :
    ∃ paging, normalize? requested defaults = some paging ∧
      normalize requested defaults = paging ∧
      paging.Answers requested defaults ∧
      IsSigned paging.page ∧ IsSigned paging.pageLength ∧
      paging.offset? = some paging.offset ∧ 0 ≤ paging.offset ∧
      paging.offset = min ((paging.page - 1) * paging.pageLength) 9223372036854775807 ∧
      normalize? (some paging.request) defaults = some paging ∧
      (∀ db : Database, db.defaults = defaults → ∀ table predicates skipPaging,
        db.statement table predicates (some paging.request) skipPaging =
          db.statement table predicates requested skipPaging) ∧
      (∀ store : Store, store.defaults = defaults → ∀ table predicates skipPaging,
        store.select table predicates (some paging.request) skipPaging =
          store.select table predicates requested skipPaging) := by
  have hanswers := normalize_answers requested defaults
  have hagain := normalize_request requested defaults
  have hpage : IsSigned (normalize requested defaults).page := isSigned_page_normalize hrequested
  have hoffset := offset?_eq hpage hanswers.one_le_page hanswers.one_le_pageLength
  refine ⟨_, normalize?_eq requested defaults, rfl, hanswers, hpage,
    isSigned_pageLength_normalize hdefaults, hoffset, offset_normalize_nonneg requested defaults,
    ?_, ?_, ?_, ?_⟩
  · rw [Int.mul_comm]
    rfl
  · rw [normalize?_eq, hagain]
  · rintro db rfl table predicates skipPaging
    simp only [Database.statement, hagain]
  · rintro store rfl table predicates skipPaging
    simp only [Store.select, Store.pageFor, hagain]

/-- The last page of the greatest length, by a column whose name is blank. -/
def farthestRequest : PageRequest :=
  ⟨some 9223372036854775807, some 9223372036854775807, some "\t ", none⟩

def widestDefaults : PagingDefaults :=
  ⟨-9223372036854775808, 9223372036854775807, ""⟩

theorem exists_page_farthestRequest :
    normalize? (some farthestRequest) widestDefaults =
        some ⟨9223372036854775807, 9223372036854775807, "", .ascending⟩ ∧
      ∃ paging, normalize? (some farthestRequest) widestDefaults = some paging ∧
        paging.offset? = some 9223372036854775807 ∧
        normalize? (some paging.request) widestDefaults = some paging := by
  have hpaging : normalize? (some farthestRequest) widestDefaults =
      some ⟨9223372036854775807, 9223372036854775807, "", .ascending⟩ := by decide +kernel
  have hrequested : ∀ request ∈ some farthestRequest, request.IsSigned := by
    rintro request ⟨⟩
    exact ⟨fun page hpage => by cases hpage; decide, fun length hlength => by cases hlength; decide⟩
  have hdefaults : widestDefaults.IsSigned := ⟨by decide, by decide⟩
  obtain ⟨paging, hsome, -, -, -, -, hoffset, -, hmin, hagain, -⟩ :=
    exists_page (some farthestRequest) widestDefaults hrequested hdefaults
  refine ⟨hpaging, paging, hsome, ?_, hagain⟩
  obtain rfl := Option.some.inj (hsome.symm.trans hpaging)
  rw [hoffset, hmin]
  decide +kernel

end Paging

end RecordSearch
