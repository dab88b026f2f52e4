import Mathlib.Data.List.TakeWhile
import RecordSearch.Directives

/-!
# Directives and their header

A header holds paths with commas between them. What is read from one are texts that are not empty,
hold no comma and have no blank at either end, and every such list of texts is read back from the
header that is written for it. Headers joined by a comma hold the paths of one before those of the
other.
-/

namespace RecordSearch

/-! ### Texts without blanks at their ends -/

namespace Text

structure IsTrimmed (cs : List Char) : Prop where
  head : ∀ c ∈ cs.head?, isBlank c = false
  last : ∀ c ∈ cs.getLast?, isBlank c = false

variable {cs : List Char}

theorem dropBlanks_of_head (h : ∀ c ∈ cs.head?, isBlank c = false) : dropBlanks cs = cs := by
  cases cs with
  | nil => rfl
  | cons c rest =>
    have hc : ¬ isBlank c = true := by simp [h c rfl]
    exact List.dropWhile_cons_of_neg hc

theorem head_dropBlanks : ∀ c ∈ (dropBlanks cs).head?, isBlank c = false := by
  intro c hc
  have hhead := List.head?_dropWhile_not isBlank cs
  rw [Option.mem_def, dropBlanks] at hc
  rwa [hc] at hhead

theorem trimChars_of_isTrimmed (h : IsTrimmed cs) : trimChars cs = cs := by
  have hreverse : ∀ c ∈ cs.reverse.head?, isBlank c = false := by
    rw [List.head?_reverse]
    exact h.last
  rw [trimChars, dropBlanks_of_head h.head, dropBlanks_of_head hreverse, List.reverse_reverse]

theorem isTrimmed_trimChars (cs : List Char) : IsTrimmed (trimChars cs) := by
  refine ⟨fun c hc => ?_, fun c hc => ?_⟩
  · -- the second cut takes nothing from the start, unless it takes all
    obtain ⟨blanks, hblanks⟩ := List.dropWhile_suffix isBlank (l := (dropBlanks cs).reverse)
    have hprefix : trimChars cs ++ blanks.reverse = dropBlanks cs := by
      rw [trimChars, dropBlanks, ← List.reverse_append, hblanks, List.reverse_reverse]
    have hhead : (dropBlanks cs).head? = some c := by
      rw [← hprefix, List.head?_append, hc]
      rfl
    exact head_dropBlanks c hhead
  · rw [trimChars, List.getLast?_reverse] at hc
    exact head_dropBlanks c hc

theorem mem_of_mem_trimChars {c : Char} (h : c ∈ trimChars cs) : c ∈ cs := by
  rw [trimChars, List.mem_reverse] at h
  have hreverse := (List.dropWhile_sublist isBlank).mem h
  rw [List.mem_reverse] at hreverse
  exact (List.dropWhile_sublist isBlank).mem hreverse

theorem trimChars_eq_nil_iff : trimChars cs = [] ↔ ∀ c ∈ cs, isBlank c = true := by
  constructor
  · intro h c hc
    rw [trimChars, List.reverse_eq_nil_iff, dropBlanks, List.dropWhile_eq_nil_iff] at h
    -- the first cut left only blanks, but never starts with one, so it left nothing
    cases hfirst : dropBlanks cs with
    | nil => exact List.dropWhile_eq_nil_iff.1 hfirst c hc
    | cons first rest =>
      have hblank := h first (by simp [hfirst])
      rw [head_dropBlanks first (by rw [hfirst]; rfl)] at hblank
      cases hblank
  · intro h
    cases hfirst : trimChars cs with
    | nil => rfl
    | cons first rest =>
      have hmem : first ∈ cs := mem_of_mem_trimChars (by simp [hfirst])
      have hblank := (isTrimmed_trimChars cs).head first (by rw [hfirst]; rfl)
      rw [h first hmem] at hblank
      cases hblank

end Text

namespace Directives

/-! ### Cutting at commas -/

theorem splitCommas_eq_splitOn (cs : List Char) : splitCommas cs = cs.splitOn ',' := by
  induction cs with
  | nil => rfl
  | cons c rest ih =>
    rw [List.splitOn_cons_eq_if_modifyHead, splitCommas, ih]
    by_cases hcomma : c = ','
    · rw [if_pos hcomma, if_pos (beq_iff_eq.2 hcomma)]
    · rw [if_neg hcomma, if_neg (mt beq_iff_eq.1 hcomma)]
      cases hparts : rest.splitOn ',' with
      | nil => exact absurd hparts (List.splitOn_ne_nil _ _)
      | cons part parts => rfl

theorem flatten_splitOn (cs : List Char) : (cs.splitOn ',').flatten = cs.filter (· ≠ ',') := by
  induction cs with
  | nil => rfl
  | cons c rest ih =>
    rw [List.splitOn_cons_eq_if_modifyHead]
    by_cases hcomma : c = ','
    · simp [hcomma, ih]
    · rw [if_neg (mt beq_iff_eq.1 hcomma), List.filter_cons, if_pos (decide_eq_true hcomma), ← ih]
      cases hparts : rest.splitOn ',' with
      | nil => exact absurd hparts (List.splitOn_ne_nil _ _)
      | cons part parts => rfl

theorem exists_mem_splitOn_iff {cs : List Char} {c : Char} :
    (∃ part ∈ cs.splitOn ',', c ∈ part) ↔ c ∈ cs ∧ c ≠ ',' := by
  rw [← List.mem_flatten, flatten_splitOn, List.mem_filter, decide_eq_true_eq]

/-! ### Paths -/

/-- The texts that are paths of a header. -/
structure IsPath (path : String) : Prop where
  ne_empty : path ≠ ""
  commaless : ',' ∉ path.toList
  trimmed : Text.IsTrimmed path.toList

theorem isPath_of_mem_ofHeader {header path : String} (h : path ∈ (ofHeader header).paths) :
    IsPath path := by
  simp only [ofHeader, ofPaths, splitCommas_eq_splitOn, List.mem_filter, List.mem_map,
    decide_eq_true_eq] at h
  obtain ⟨⟨_, ⟨part, hpart, rfl⟩, rfl⟩, hempty⟩ := h
  refine ⟨hempty, fun hcomma => ?_, ?_⟩
  · rw [Text.trim, String.toList_ofList, String.toList_ofList] at hcomma
    exact (exists_mem_splitOn_iff.1 ⟨part, hpart, Text.mem_of_mem_trimChars hcomma⟩).2 rfl
  · rw [Text.trim, String.toList_ofList]
    exact Text.isTrimmed_trimChars _

theorem ofPaths_of_isPath {paths : List String} (h : ∀ path ∈ paths, IsPath path) :
    ofPaths paths = ⟨paths⟩ := by
  have htrim : paths.map Text.trim = paths := by
    refine (List.map_congr_left fun path hpath => ?_).trans (List.map_id paths)
    rw [Text.trim, Text.trimChars_of_isTrimmed (h path hpath).trimmed, String.ofList_toList, id]
  have hkept : paths.filter (· ≠ "") = paths :=
    List.filter_eq_self.2 fun path hpath => decide_eq_true (h path hpath).ne_empty
  rw [ofPaths, htrim, hkept]

theorem ofPaths_append (paths others : List String) :
    (ofPaths (paths ++ others)).paths = (ofPaths paths).paths ++ (ofPaths others).paths := by
  simp only [ofPaths, List.map_append, List.filter_append]

theorem ofHeader_text {d : Directives} (h : ∀ path ∈ d.paths, IsPath path) :
    ofHeader d.text = d := by
  have hparts : (d.paths.map String.toList).map String.ofList = d.paths := by
    simp [Function.comp_def]
  by_cases hpaths : d.paths = []
  · obtain ⟨paths⟩ := d
    obtain rfl : paths = [] := hpaths
    decide
  · have hcommaless : ∀ part ∈ d.paths.map String.toList, ',' ∉ part := by
      rw [List.forall_mem_map]
      exact fun path hpath => (h path hpath).commaless
    rw [ofHeader, splitCommas_eq_splitOn, text, String.toList_intercalate,
      show ",".toList = [','] from rfl,
      List.splitOn_intercalate ',' hcommaless (by simpa using hpaths), hparts, ofPaths_of_isPath h]

theorem paths_ofHeader_append (header other : String) :
    (ofHeader (header ++ "," ++ other)).paths =
      (ofHeader header).paths ++ (ofHeader other).paths := by
  have hchars : (header ++ "," ++ other).toList = header.toList ++ ',' :: other.toList := by
    simp
  simp only [ofHeader, splitCommas_eq_splitOn, hchars, List.splitOn_append_cons_self,
    List.map_append, ofPaths_append]

/-- A header holds a path unless it consists of commas and blanks. -/
theorem paths_ofHeader_ne_nil_iff {header : String} :
    (ofHeader header).paths ≠ [] ↔ ∃ c ∈ header.toList, c ≠ ',' ∧ Text.isBlank c = false := by
  have hpart : ∀ part : List Char, Text.trim (String.ofList part) ≠ "" ↔
      ∃ c ∈ part, Text.isBlank c = false := by
    intro part
    rw [Text.trim, String.toList_ofList, Ne, ← String.toList_eq_nil_iff, String.toList_ofList,
      Text.trimChars_eq_nil_iff]
    simp
  have hexists : (ofHeader header).paths ≠ [] ↔
      ∃ part ∈ header.toList.splitOn ',', ∃ c ∈ part, Text.isBlank c = false := by
    simp only [ofHeader, ofPaths, splitCommas_eq_splitOn, ne_eq, List.filter_eq_nil_iff,
      List.forall_mem_map, decide_eq_true_eq, not_forall, hpart, exists_prop, not_not]
  rw [hexists]
  constructor
  · rintro ⟨part, hpart, c, hc, hblank⟩
    have hmem := exists_mem_splitOn_iff.1 ⟨part, hpart, hc⟩
    exact ⟨c, hmem.1, hmem.2, hblank⟩
  · rintro ⟨c, hc, hcomma, hblank⟩
    obtain ⟨part, hpart, hmem⟩ := exists_mem_splitOn_iff.2 ⟨hc, hcomma⟩
    exact ⟨part, hpart, c, hmem, hblank⟩

theorem directives_ofHeader {header : String} :
    (RequestOptions.ofHeader (some header)).directives =
      if (ofHeader header).paths = [] then none else some (ofHeader header) := by
  simp only [RequestOptions.ofHeader, Option.map_some, Option.filter_some, isEmpty]
  split <;> simp_all

/-- **Headers and their paths.** What is read from a header are paths without commas and without
blanks at their ends, and they are read again from the header that is written for them. Joining two
headers by a comma joins their paths. The options of a request hold the paths of its header, unless
this consists of commas and blanks. -/
theorem ofHeader_paths (header other : String) :
    (∀ path ∈ (ofHeader header).paths, IsPath path) ∧
    ofHeader (ofHeader header).text = ofHeader header ∧
    (ofHeader (header ++ "," ++ other)).paths =
      (ofHeader header).paths ++ (ofHeader other).paths ∧
    ((RequestOptions.ofHeader (some header)).directives.isSome = true ↔
      ∃ c ∈ header.toList, c ≠ ',' ∧ Text.isBlank c = false) ∧
    (∀ d, (RequestOptions.ofHeader (some header)).directives = some d → d = ofHeader header) := by
  refine ⟨fun path => isPath_of_mem_ofHeader, ofHeader_text fun path => isPath_of_mem_ofHeader,
    paths_ofHeader_append header other, ?_, fun d hd => ?_⟩
  · rw [← paths_ofHeader_ne_nil_iff, directives_ofHeader]
    split <;> simp_all
  · rw [directives_ofHeader] at hd
    split at hd
    · cases hd
    · exact (Option.some.inj hd).symm

end Directives

end RecordSearch
