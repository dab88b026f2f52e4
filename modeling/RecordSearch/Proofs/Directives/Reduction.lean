import RecordSearch.Proofs.Directives.Seek

/-!
# Reduced directives

Seeking a relation takes the name of the relation off the paths that go on after it, and keeps the
order in which these are first seen. To seek one relation and then another in what is left is
therefore to seek the dotted path of the two at once, whatever the names are.
-/

namespace RecordSearch.Directives

theorem append_dot_ne_empty (name rest : String) : name ++ "." ++ rest ≠ "" := by
  intro hempty
  have hchars := congrArg String.toList hempty
  rw [toList_append_dot] at hchars
  exact List.append_ne_nil_of_right_ne_nil _ (List.cons_ne_nil _ _) hchars

/-- Whether a path is a name or goes on after it with a dot. -/
def Answers (target path : String) : Prop :=
  path = target ∨ ∃ rest, path = target ++ "." ++ rest

theorem remainder?_ne_none_iff_answers {target path : String} :
    remainder? target path ≠ none ↔ Answers target path := by
  rw [Option.ne_none_iff_exists']
  simp only [remainder?_eq_some_iff, Answers, exists_or, exists_eq_right]

/-- What a path asks for below a relation, if it asks for anything there. -/
def below? (target path : String) : Option String :=
  (remainder? target path).filter (· ≠ "")

theorem below?_eq_some_iff {target path rest : String} :
    below? target path = some rest ↔ rest ≠ "" ∧ path = target ++ "." ++ rest := by
  rw [below?, Option.filter_eq_some_iff, remainder?_eq_some_iff, decide_eq_true_eq]
  constructor
  · rintro ⟨⟨-, rfl⟩ | hpath, hne⟩
    · exact absurd rfl hne
    · exact ⟨hne, hpath⟩
  · rintro ⟨hne, hpath⟩
    exact ⟨Or.inr hpath, hne⟩

theorem below?_injective (target : String) (path other rest : String)
    (hpath : below? target path = some rest) (hother : below? target other = some rest) :
    path = other := by
  rw [(below?_eq_some_iff.1 hpath).2, (below?_eq_some_iff.1 hother).2]

/-- To go below two relations one after the other is to go below their dotted path. -/
theorem bind_below? (target next path : String) :
    (below? target path).bind (below? next) = below? (target ++ "." ++ next) path := by
  apply Option.ext
  intro rest
  simp only [Option.bind_eq_some_iff, below?_eq_some_iff]
  constructor
  · rintro ⟨_, ⟨-, rfl⟩, hne, rfl⟩
    exact ⟨hne, by simp only [String.append_assoc]⟩
  · rintro ⟨hne, rfl⟩
    refine ⟨next ++ "." ++ rest, ⟨append_dot_ne_empty next rest, ?_⟩, hne, rfl⟩
    simp only [String.append_assoc]

theorem filter_remainders (target : String) (paths : List String) :
    distinct ((paths.filterMap (remainder? target)).filter (· ≠ "")) =
      (distinct paths).filterMap (below? target) := by
  rw [List.filter_filterMap]
  exact distinct_filterMap (below?_injective target) paths

/-- Seeking in one equation: some path has to answer, and what the paths ask for below stays in the
order in which they are first seen. -/
theorem seek_eq_some_iff {d reduced : Directives} {target : String} :
    d.seek target = some reduced ↔
      (∃ path ∈ d.paths, Answers target path) ∧
        reduced = ⟨(distinct d.paths).filterMap (below? target)⟩ := by
  have hanswers : (∃ path ∈ d.paths, Answers target path) ↔ d.seek target ≠ none := by
    rw [Ne, seek_eq_none_iff]
    push Not
    simp only [remainder?_ne_none_iff_answers]
  rw [hanswers, ← filter_remainders]
  unfold seek
  cases d.paths.filterMap (remainder? target) with
  | nil => simp
  | cons rest remainders =>
      simp only [ne_eq, reduceCtorEq, not_false_eq_true, true_and, Option.some_inj]
      exact eq_comm

theorem seek_isSome_iff {d : Directives} {target : String} :
    (d.seek target).isSome = true ↔ ∃ path ∈ d.paths, Answers target path := by
  rw [Option.isSome_iff_exists]
  simp only [seek_eq_some_iff, exists_and_left, exists_eq, and_true]

theorem pairwise_paths_of_seek {d reduced : Directives} {target : String}
    (h : d.seek target = some reduced) :
    reduced.paths.Pairwise fun rest other =>
      d.paths.idxOf (target ++ "." ++ rest) < d.paths.idxOf (target ++ "." ++ other) := by
  obtain ⟨-, rfl⟩ := seek_eq_some_iff.1 h
  rw [List.pairwise_filterMap]
  refine (pairwise_idxOf_distinct d.paths).imp fun hlt rest hrest other hother => ?_
  rwa [← (below?_eq_some_iff.1 hrest).2, ← (below?_eq_some_iff.1 hother).2]

theorem nodup_filterMap_below? (target : String) (paths : List String) :
    ((distinct paths).filterMap (below? target)).Nodup := by
  rw [← filter_remainders]
  exact nodup_distinct _

theorem answers_dotted_iff {target next path : String} (hnext : next ≠ "") :
    Answers (target ++ "." ++ next) path ↔
      ∃ rest, below? target path = some rest ∧ Answers next rest := by
  simp only [below?_eq_some_iff, Answers]
  constructor
  · rintro (rfl | ⟨rest, rfl⟩)
    · exact ⟨next, ⟨hnext, rfl⟩, Or.inl rfl⟩
    · refine ⟨next ++ "." ++ rest, ⟨append_dot_ne_empty next rest, ?_⟩, Or.inr ⟨rest, rfl⟩⟩
      simp only [String.append_assoc]
  · rintro ⟨_, ⟨-, rfl⟩, rfl | ⟨rest, rfl⟩⟩
    · exact Or.inl rfl
    · exact Or.inr ⟨rest, by simp only [String.append_assoc]⟩

theorem seek_bind_seek (d : Directives) {target next : String} (hnext : next ≠ "") :
    (d.seek target).bind (·.seek next) = d.seek (target ++ "." ++ next) := by
  apply Option.ext
  intro reduced
  rw [Option.bind_eq_some_iff, seek_eq_some_iff]
  -- What the first seek leaves has no repetition, so the second one drops none.
  have hpaths : (distinct ((distinct d.paths).filterMap (below? target))).filterMap (below? next) =
      (distinct d.paths).filterMap (below? (target ++ "." ++ next)) := by
    rw [distinct_of_nodup (nodup_filterMap_below? target d.paths), List.filterMap_filterMap]
    simp only [bind_below?]
  constructor
  · rintro ⟨middle, hfirst, hsecond⟩
    obtain ⟨-, rfl⟩ := seek_eq_some_iff.1 hfirst
    obtain ⟨⟨rest, hrest, hanswers⟩, rfl⟩ := seek_eq_some_iff.1 hsecond
    obtain ⟨path, hpath, hbelow⟩ := List.mem_filterMap.1 hrest
    have hdotted := (answers_dotted_iff hnext).2 ⟨rest, hbelow, hanswers⟩
    exact ⟨⟨path, mem_distinct.1 hpath, hdotted⟩, by rw [hpaths]⟩
  · rintro ⟨⟨path, hpath, hanswers⟩, rfl⟩
    obtain ⟨rest, hbelow, hrest⟩ := (answers_dotted_iff hnext).1 hanswers
    have htarget : Answers target path := Or.inr ⟨rest, (below?_eq_some_iff.1 hbelow).2⟩
    have hmem := List.mem_filterMap.2 ⟨path, mem_distinct.2 hpath, hbelow⟩
    refine ⟨_, seek_eq_some_iff.2 ⟨⟨path, hpath, htarget⟩, rfl⟩, ?_⟩
    exact seek_eq_some_iff.2 ⟨⟨rest, hmem, hrest⟩, by rw [hpaths]⟩

/-- **Seeking goes by whole names and composes along dotted paths.** A relation is found exactly if
some path is its name or goes on after it with a dot. What is left are the non-empty rests of these
paths, each once and in the order in which the paths are first seen. Seeking a further relation in
what is left is seeking the dotted path of both from the start. -/
theorem seek_composes (d : Directives) (target : String) :
    ((d.seek target).isSome = true ↔
      ∃ path ∈ d.paths, path = target ∨ ∃ rest, path = target ++ "." ++ rest) ∧
    (∀ reduced, d.seek target = some reduced →
      reduced.paths.Nodup ∧
      (∀ rest, rest ∈ reduced.paths ↔ rest ≠ "" ∧ target ++ "." ++ rest ∈ d.paths) ∧
      reduced.paths.Pairwise fun rest other =>
        d.paths.idxOf (target ++ "." ++ rest) < d.paths.idxOf (target ++ "." ++ other)) ∧
    ∀ next, next ≠ "" → (d.seek target).bind (·.seek next) = d.seek (target ++ "." ++ next) := by
  refine ⟨seek_isSome_iff, fun reduced hseek => ?_, fun next hnext => seek_bind_seek d hnext⟩
  refine ⟨?_, mem_paths_of_seek hseek, pairwise_paths_of_seek hseek⟩
  obtain ⟨-, rfl⟩ := seek_eq_some_iff.1 hseek
  exact nodup_filterMap_below? target d.paths

/-- Paths with repetitions, a shorter name in front, and dots at the end and doubled. -/
def deepDirectives : Directives :=
  ⟨["a.b.c", "ab", "a..b", "a.b.", "a.b.d", "a.b.c", "a"]⟩

theorem seek_composes_deepDirectives :
    deepDirectives.seek "a" = some ⟨["b.c", ".b", "b.", "b.d"]⟩ ∧ "b" ≠ "" ∧
    (∀ rest, rest ∈ ["b.c", ".b", "b.", "b.d"] ↔
      rest ≠ "" ∧ "a" ++ "." ++ rest ∈ deepDirectives.paths) ∧
    (deepDirectives.seek "a").bind (·.seek "b") = some ⟨["c", "d"]⟩ := by
  have hseek : deepDirectives.seek "a" = some ⟨["b.c", ".b", "b.", "b.d"]⟩ := by decide +kernel
  have hnext : "b" ≠ "" := by decide
  obtain ⟨-, hkept, hcomposes⟩ := seek_composes deepDirectives "a"
  refine ⟨hseek, hnext, (hkept _ hseek).2.1, ?_⟩
  rw [hcomposes "b" hnext]
  decide +kernel

end RecordSearch.Directives
