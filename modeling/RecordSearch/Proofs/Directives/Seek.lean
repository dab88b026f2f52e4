import Mathlib.Data.List.Basic
import RecordSearch.Directives

/-!
# What seeking a relation keeps

A path answers to a relation when it is the relation's name or goes on after it with a dot. What
seeking keeps are the remainders of these paths, and so directives that ask for relations one below
the other ask for them with one dotted path.
-/

namespace RecordSearch

theorem isPrefixOf?_eq_some_iff {α : Type} [BEq α] [LawfulBEq α] {front whole back : List α} :
    front.isPrefixOf? whole = some back ↔ whole = front ++ back := by
  induction front generalizing whole with
  | nil => simp [List.isPrefixOf?]
  | cons x front ih =>
      cases whole with
      | nil => simp [List.isPrefixOf?]
      | cons y whole =>
          by_cases hxy : x = y
          · subst hxy
            simp [List.isPrefixOf?, ih]
          · have hyx : y ≠ x := fun h => hxy h.symm
            simp [List.isPrefixOf?, hxy, hyx]

namespace Directives

theorem toList_append_dot (target rest : String) :
    (target ++ "." ++ rest).toList = target.toList ++ '.' :: rest.toList := by
  simp

theorem remainder?_eq_some_iff {target path rest : String} :
    remainder? target path = some rest ↔
      (path = target ∧ rest = "") ∨ path = target ++ "." ++ rest := by
  have hdotted : path = target ++ "." ++ rest ↔
      path.toList = target.toList ++ '.' :: rest.toList := by
    rw [← toList_append_dot, String.toList_inj]
  unfold remainder?
  cases hprefix : target.toList.isPrefixOf? path.toList with
  | none =>
      have hnot : ∀ back, path.toList ≠ target.toList ++ back := fun back h => by
        rw [isPrefixOf?_eq_some_iff.2 h] at hprefix
        simp at hprefix
      have hname : path ≠ target := fun h => hnot [] (by simp [h])
      simp [hdotted, hnot, hname]
  | some back =>
      have hpath := isPrefixOf?_eq_some_iff.1 hprefix
      have hname : path = target ↔ back = [] := by
        rw [← String.toList_inj, hpath]
        simp
      rw [hdotted, hpath, hname]
      cases back with
      | nil =>
          simp only [Option.some.injEq, true_and, List.append_cancel_left_eq, reduceCtorEq,
            or_false]
          exact eq_comm
      | cons c back =>
          by_cases hc : c = '.'
          · have hback : String.ofList back = rest ↔ back = rest.toList :=
              ⟨fun h => by simp [← h], fun h => by simp [h]⟩
            simp [hc, hback]
          · simp [hc]

theorem seek_eq_none_iff {d : Directives} {target : String} :
    d.seek target = none ↔ ∀ path ∈ d.paths, remainder? target path = none := by
  unfold seek
  cases hremainders : d.paths.filterMap (remainder? target) with
  | nil => simpa using hremainders
  | cons rest remainders =>
      have hmem : rest ∈ d.paths.filterMap (remainder? target) := by simp [hremainders]
      obtain ⟨path, hpath, hrest⟩ := List.mem_filterMap.1 hmem
      simp only [reduceCtorEq, false_iff, not_forall]
      exact ⟨path, hpath, by simp [hrest]⟩

/-- Seeking a relation keeps what goes on after it with a dot. -/
theorem mem_paths_of_seek {d reduced : Directives} {target : String}
    (h : d.seek target = some reduced) (rest : String) :
    rest ∈ reduced.paths ↔ rest ≠ "" ∧ target ++ "." ++ rest ∈ d.paths := by
  have hpaths : reduced.paths =
      distinct ((d.paths.filterMap (remainder? target)).filter (· ≠ "")) := by
    unfold seek at h
    cases hremainders : d.paths.filterMap (remainder? target) with
    | nil => simp [hremainders] at h
    | cons first others =>
        rw [hremainders] at h
        rw [← Option.some.inj h]
  rw [hpaths, mem_distinct, List.mem_filter, List.mem_filterMap]
  constructor
  · rintro ⟨⟨path, hpath, hrest⟩, hne⟩
    have hne : rest ≠ "" := by simpa using hne
    rcases remainder?_eq_some_iff.1 hrest with ⟨_, rfl⟩ | rfl
    · exact absurd rfl hne
    · exact ⟨hne, hpath⟩
  · rintro ⟨hne, hmem⟩
    exact ⟨⟨_, hmem, remainder?_eq_some_iff.2 (Or.inr rfl)⟩, by simpa using hne⟩

/-- The dotted text of some relations one below the other. -/
def dotted (names : List String) : String :=
  ".".intercalate names

/-- Whether a path is the dotted text of some relations, or goes on after it with a dot. -/
def asksFor (names : List String) (path : String) : Bool :=
  path = dotted names || (dotted names ++ ".").toList.isPrefixOf path.toList

/-- Whether directives ask for relations one below the other. -/
def requests (d : Directives) (names : List String) : Bool :=
  d.paths.any (asksFor names)

theorem asksFor_iff {names : List String} {path : String} :
    asksFor names path = true ↔
      path = dotted names ∨ ∃ rest, path = dotted names ++ "." ++ rest := by
  simp only [asksFor, Bool.or_eq_true, decide_eq_true_eq, List.isPrefixOf_iff_prefix]
  refine or_congr Iff.rfl ⟨?_, ?_⟩
  · rintro ⟨rest, hrest⟩
    exact ⟨String.ofList rest, String.toList_inj.1 (by simp [← hrest])⟩
  · rintro ⟨rest, rfl⟩
    exact ⟨rest.toList, by simp⟩

theorem requests_of_seek {d reduced : Directives} {name : String}
    (h : d.seek name = some reduced) : d.requests [name] = true := by
  have hsome : d.seek name ≠ none := by simp [h]
  rw [Ne, seek_eq_none_iff, not_forall] at hsome
  obtain ⟨path, hsome⟩ := hsome
  rw [not_forall] at hsome
  obtain ⟨hpath, hremainder⟩ := hsome
  obtain ⟨rest, hrest⟩ := Option.ne_none_iff_exists'.1 hremainder
  refine List.any_eq_true.2 ⟨path, hpath, asksFor_iff.2 ?_⟩
  rcases remainder?_eq_some_iff.1 hrest with ⟨rfl, _⟩ | rfl
  · exact Or.inl (by simp [dotted])
  · exact Or.inr ⟨rest, by simp [dotted]⟩

/-- Directives ask below a relation for what the reduced directives ask for. -/
theorem requests_cons_of_seek {d reduced : Directives} {name : String} {names : List String}
    (hseek : d.seek name = some reduced) (hnames : names ≠ [])
    (h : reduced.requests names = true) : d.requests (name :: names) = true := by
  obtain ⟨path, hpath, hasks⟩ := List.any_eq_true.1 h
  obtain ⟨_, hmem⟩ := (mem_paths_of_seek hseek path).1 hpath
  have hdotted : dotted (name :: names) = name ++ "." ++ dotted names :=
    String.intercalate_cons_of_ne_nil hnames
  refine List.any_eq_true.2 ⟨_, hmem, asksFor_iff.2 ?_⟩
  rw [hdotted]
  rcases asksFor_iff.1 hasks with rfl | ⟨rest, rfl⟩
  · exact Or.inl rfl
  · exact Or.inr ⟨rest, by simp only [String.append_assoc]⟩

end Directives

end RecordSearch
