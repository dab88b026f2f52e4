import RecordSearch.Proofs.Directives.Seek

/-!
# Paths as names

A path cut at its dots is a list of names. Directives name relations one below the other if these
names begin one of their paths. Seeking relations whose names are neither empty nor dotted follows
such lists one name at a time: empty names, which doubled dots and dots at the ends of a path give
rise to, lead nowhere.
-/

namespace RecordSearch

/-- Whether a name of a relation can stand in a path. -/
def IsSegment (name : String) : Prop :=
  name ≠ "" ∧ '.' ∉ name.toList

instance (name : String) : Decidable (IsSegment name) :=
  inferInstanceAs (Decidable (_ ∧ _))

namespace Directives

def segments (path : String) : List String :=
  (path.toList.splitOn '.').map String.ofList

def names (d : Directives) (relations : List String) : Bool :=
  d.paths.any fun path => relations.isPrefixOf (segments path)

theorem segments_of_dotless {path : String} (h : '.' ∉ path.toList) : segments path = [path] := by
  rw [segments, List.splitOn_eq_singleton h]
  simp

theorem segments_append_dot {name : String} (h : '.' ∉ name.toList) (rest : String) :
    segments (name ++ "." ++ rest) = name :: segments rest := by
  rw [segments, toList_append_dot, List.splitOn_append_cons_self_of_not_mem h]
  simp [segments]

theorem prefix_segments_iff {name path : String} (hname : '.' ∉ name.toList)
    {relations : List String} :
    name :: relations <+: segments path ↔
      (path = name ∧ relations = []) ∨
        ∃ rest, path = name ++ "." ++ rest ∧ relations <+: segments rest := by
  constructor
  · intro h
    by_cases hdot : '.' ∈ path.toList
    · obtain ⟨front, back, hpath, hfront⟩ := List.eq_append_cons_of_mem hdot
      obtain rfl : path = String.ofList front ++ "." ++ String.ofList back :=
        String.toList_inj.1 (by simp [hpath])
      rw [segments_append_dot (by simpa using hfront)] at h
      obtain ⟨rfl, hrest⟩ := List.cons_prefix_cons.1 h
      exact Or.inr ⟨_, rfl, hrest⟩
    · rw [segments_of_dotless hdot] at h
      obtain ⟨rfl, hrest⟩ := List.cons_prefix_cons.1 h
      exact Or.inl ⟨rfl, List.prefix_nil.1 hrest⟩
  · rintro (⟨rfl, rfl⟩ | ⟨rest, rfl, hrest⟩)
    · simp [segments_of_dotless hname]
    · rw [segments_append_dot hname]
      exact List.cons_prefix_cons.2 ⟨rfl, hrest⟩

theorem names_iff {d : Directives} {relations : List String} :
    d.names relations = true ↔ ∃ path ∈ d.paths, relations <+: segments path := by
  simp only [names, List.any_eq_true, List.isPrefixOf_iff_prefix]

theorem remainder?_ne_none_iff {name path : String} (hname : '.' ∉ name.toList) :
    remainder? name path ≠ none ↔ [name] <+: segments path := by
  rw [Option.ne_none_iff_exists', prefix_segments_iff hname]
  simp only [remainder?_eq_some_iff, List.nil_prefix, and_true]
  constructor
  · rintro ⟨rest, ⟨rfl, -⟩ | rfl⟩
    · exact Or.inl rfl
    · exact Or.inr ⟨rest, rfl⟩
  · rintro (rfl | ⟨rest, rfl⟩)
    · exact ⟨"", Or.inl ⟨rfl, rfl⟩⟩
    · exact ⟨rest, Or.inr rfl⟩

theorem seek_eq_none_iff_names {d : Directives} {name : String} (hname : '.' ∉ name.toList) :
    d.seek name = none ↔ d.names [name] = false := by
  rw [← Bool.not_eq_true, names_iff, seek_eq_none_iff]
  constructor
  · rintro h ⟨path, hpath, hnames⟩
    exact (remainder?_ne_none_iff hname).2 hnames (h path hpath)
  · intro h path hpath
    by_contra hremainder
    exact h ⟨path, hpath, (remainder?_ne_none_iff hname).1 hremainder⟩

/-- What the reduced directives name is what the directives name below the relation. -/
theorem names_of_seek {d reduced : Directives} {name first : String} {others : List String}
    (hname : '.' ∉ name.toList) (hfirst : IsSegment first) (h : d.seek name = some reduced) :
    reduced.names (first :: others) = d.names (name :: first :: others) := by
  rw [Bool.eq_iff_iff, names_iff, names_iff]
  constructor
  · rintro ⟨rest, hrest, hnames⟩
    obtain ⟨-, hpath⟩ := (mem_paths_of_seek h rest).1 hrest
    exact ⟨_, hpath, (prefix_segments_iff hname).2 (Or.inr ⟨rest, rfl, hnames⟩)⟩
  · rintro ⟨path, hpath, hlong⟩
    rcases (prefix_segments_iff hname).1 hlong with ⟨-, hnil⟩ | ⟨rest, rfl, hnames⟩
    · exact absurd hnil (List.cons_ne_nil _ _)
    · -- A dot at the end leaves the empty path, which names nothing and is dropped.
      have hne : rest ≠ "" := by
        rintro rfl
        rw [segments_of_dotless (by simp)] at hnames
        exact hfirst.1 (List.cons_prefix_cons.1 hnames).1
      exact ⟨rest, (mem_paths_of_seek h rest).2 ⟨hne, hpath⟩, hnames⟩

end Directives

end RecordSearch
