import RecordSearch.Proofs.Fetch.Script
import RecordSearch.Proofs.Resolution.Selection

/-!
# Resolving records one by one

A batch is resolved with one call for each relation. Over a store with keys this gives what looking
every single key up would give, at every depth. So what becomes of a record does not depend on the
records beside it.
-/

namespace RecordSearch

namespace Record

@[simp]
theorem fields_setLink (name : String) (target : Option Record) (record : Record) :
    (record.setLink name target).fields = record.fields := by
  cases record
  rfl

@[simp]
theorem value?_setLink (name : String) (target : Option Record) (record : Record)
    (field : String) : (record.setLink name target).value? field = record.value? field := by
  rw [value?, fields_setLink]
  rfl

def linkNames (record : Record) : List String :=
  record.links.map (·.1)

def link? (record : Record) (name : String) : Option (Option Record) :=
  record.links.lookup name

@[simp]
theorem linkNames_setLink (name : String) (target : Option Record) (record : Record) :
    (record.setLink name target).linkNames = record.linkNames := by
  cases record with
  | mk fields links =>
      simp only [linkNames, Record.links, setLink, List.map_map]
      refine List.map_congr_left fun link _ => ?_
      by_cases hname : link.1 = name <;> simp [hname]

theorem link?_setLink_self {name : String} {record : Record} (hname : name ∈ record.linkNames)
    (target : Option Record) : (record.setLink name target).link? name = some target := by
  cases record with
  | mk fields links =>
      simp only [linkNames, Record.links] at hname
      simp only [link?, Record.links, setLink]
      induction links with
      | nil => simp at hname
      | cons link links ih =>
          obtain ⟨label, old⟩ := link
          by_cases hlabel : label = name
          · simp [hlabel]
          · have hrest : name ∈ links.map (·.1) := by
              simpa [Ne.symm hlabel] using hname
            simp [hlabel, List.lookup_cons, beq_false_of_ne (Ne.symm hlabel), ih hrest]

theorem link?_setLink_of_ne {name other : String} (hne : other ≠ name) (target : Option Record)
    (record : Record) : (record.setLink name target).link? other = record.link? other := by
  cases record with
  | mk fields links =>
      simp only [link?, Record.links, setLink]
      induction links with
      | nil => rfl
      | cons link links ih =>
          obtain ⟨label, old⟩ := link
          by_cases hlabel : label = name
          · simp [hlabel, List.lookup_cons, beq_false_of_ne hne, ih]
          · simp [hlabel, List.lookup_cons, ih]

theorem Fits.setLink {entity : Entity} {record : Record} (h : record.Fits entity) (name : String)
    (target : Option Record) : (record.setLink name target).Fits entity := by
  constructor
  · exact (linkNames_setLink name target record).trans h.links
  · intro field hfield type htype v hv
    rw [value?_setLink] at hv
    exact h.types field hfield type htype v hv

end Record

/-! ### Sources whose keys fit -/

/-- Whether a relation sets a link of the records of an entity, and holds in its key the values that
identify the records of another. -/
def Relation.leads (relation : Relation) (entity target : Entity) : Bool :=
  entity.linkNames.contains relation.name &&
    (entity.field? relation.key).any fun field => field.shape.type? == target.keyType?

mutual

/-- Whether every relation of a source, at every depth, leads to what it names. -/
def Source.isSound : Source → Bool
  | .mk entity relations =>
    entity.isKeyed && decide (relations.map (·.1.name)).Nodup && relationsSound entity relations

def relationsSound (entity : Entity) : List (Relation × Source) → Bool
  | [] => true
  | (relation, source) :: rest =>
    relation.leads entity source.entity && Source.isSound source && relationsSound entity rest

end

theorem Relation.type?_of_leads {relation : Relation} {entity target : Entity}
    (hleads : relation.leads entity target = true) (htarget : target.isKeyed = true)
    {record : Record} (hrecord : record.Fits entity) {key : Value}
    (hkey : record.value? relation.key = some key) : key.type? = target.keyType? := by
  simp only [Entity.isKeyed, Bool.and_eq_true, Option.any_eq_true] at htarget
  obtain ⟨_, type, htype, _⟩ := htarget
  simp only [leads, Bool.and_eq_true, Option.any_eq_true, beq_iff_eq] at hleads
  obtain ⟨_, field, hfield, hshape⟩ := hleads
  have hname : field.name = relation.key := by simpa using List.find?_some hfield
  rw [htype] at hshape ⊢
  exact hrecord.types field (List.mem_of_find?_eq_some hfield) type hshape key (hname ▸ hkey)

theorem Source.isKeyed_of_isSound {source : Source} (h : source.isSound = true) :
    source.entity.isKeyed = true := by
  cases source with
  | mk entity relations =>
      rw [isSound, Bool.and_eq_true, Bool.and_eq_true] at h
      exact h.1.1

/-! ### Batches whose calls are answered -/

section Answered

variable (backend : Backend)

/-- Whether no call for a batch of records fails. -/
def Answered (steps : List Step) : Prop :=
  ∀ step ∈ steps, step.failure = none

theorem answered_cons {step : Step} {steps : List Step} :
    Answered (step :: steps) ↔ step.failure = none ∧ Answered steps :=
  List.forall_mem_cons

theorem answered_append {front back : List Step} :
    Answered (front ++ back) ↔ Answered front ∧ Answered back :=
  List.forall_mem_append

theorem answered_under {name : String} {steps : List Step} :
    Answered (steps.map (·.under name)) ↔ Answered steps :=
  List.forall_mem_map

theorem relationScript_cons_of_none {directives : Directives} {relation : Relation}
    (hseek : directives.seek relation.name = none) (parents : List Record) (source : Source)
    (rest : List (Relation × Source)) :
    relationScript backend directives parents ((relation, source) :: rest) =
      relationScript backend directives parents rest := by
  rw [relationScript, hseek]

/-- Calls for a batch are answered if the call for its first relation is, and those for what it
brings, and those for the other relations. -/
theorem answered_relationScript_cons {directives reduced : Directives} {relation : Relation}
    (hseek : directives.seek relation.name = some reduced) {parents : List Record}
    {source : Source} {rest : List (Relation × Source)} :
    Answered (relationScript backend directives parents ((relation, source) :: rest)) ↔
      (∃ found, backend.select source.entity [idPredicate (relation.keys parents)] none true =
          .ok found ∧
        Answered (source.script backend reduced found.1)) ∧
      Answered (relationScript backend directives parents rest) := by
  have hkeys : (parents.filterMap (·.value? relation.key)).eraseDups =
      relation.keys parents := (distinct_eq_eraseDups _).symm
  have hpredicate : (⟨"id", .oneOf (relation.keys parents), false⟩ : Predicate) =
      idPredicate (relation.keys parents) := rfl
  rw [relationScript, hseek]
  simp only [hkeys, hpredicate, List.cons_append, answered_cons, answered_append, answered_under]
  cases backend.select source.entity [idPredicate (relation.keys parents)] none true with
  | error e => simp [failureOf]
  | ok found => simp [failureOf]

mutual

/-- Calls for some records of a batch are answered if those for the batch are. -/
theorem answered_script_mono {directives : Directives} {parents fewer : List Record}
    (hfewer : fewer ⊆ parents) : ∀ source : Source,
      Answered (source.script backend directives parents) →
      Answered (source.script backend directives fewer)
  | .mk _ relations => by
      intro h
      rw [Source.script] at h ⊢
      split
      · simp [Answered]
      -- Only an empty batch makes no calls, so the larger one makes them too.
      · rename_i hne
        have hparents : parents ≠ [] := by
          rintro rfl
          exact hne (List.eq_nil_of_subset_nil hfewer)
        rw [if_neg hparents] at h
        exact answered_relationScript_mono hfewer relations h

theorem answered_relationScript_mono {directives : Directives} {parents fewer : List Record}
    (hfewer : fewer ⊆ parents) : ∀ relations : List (Relation × Source),
      Answered (relationScript backend directives parents relations) →
      Answered (relationScript backend directives fewer relations)
  | [] => fun h => h
  | (relation, source) :: rest => by
      intro h
      cases hseek : directives.seek relation.name with
      | none =>
          rw [relationScript_cons_of_none backend hseek] at h ⊢
          exact answered_relationScript_mono hfewer rest h
      | some reduced =>
          rw [answered_relationScript_cons backend hseek] at h ⊢
          obtain ⟨⟨found, hfound, hnext⟩, hrest⟩ := h
          have hkeys : relation.keys fewer ⊆ relation.keys parents := fun key hkey =>
            mem_distinct.2 (List.filterMap_subset _ hfewer (mem_distinct.1 hkey))
          obtain ⟨found', hfound', hsubset⟩ := Backend.select_keys_mono hkeys hfound
          exact ⟨⟨found', hfound', answered_script_mono hsubset source hnext⟩,
            answered_relationScript_mono hfewer rest hrest⟩

end

end Answered

/-! ### One record at a time -/

def Backend.find? (backend : Backend) (entity : Entity) (key : Value) : Option Record :=
  match backend.selectById entity key with
  | .ok found => found
  | .error _ => none

mutual

/-- A record with the requested links set to what looking up their keys gives, each resolved in the
same way. -/
def Source.resolve (backend : Backend) (directives : Directives) (record : Record) :
    Source → Record
  | .mk _ relations => resolveRelations backend directives record relations

def resolveRelations (backend : Backend) (directives : Directives) (record : Record) :
    List (Relation × Source) → Record
  | [] => record
  | (relation, source) :: rest =>
    match directives.seek relation.name with
    | none => resolveRelations backend directives record rest
    | some reduced =>
      let target := (record.value? relation.key).bind fun key =>
        (backend.find? source.entity key).map fun child =>
          Source.resolve backend reduced child source
      resolveRelations backend directives (record.setLink relation.name target) rest

end

section Resolve

variable (backend : Backend)

mutual

@[simp]
theorem fields_resolve (directives : Directives) (record : Record) : ∀ source : Source,
    (source.resolve backend directives record).fields = record.fields
  | .mk _ relations => by
      rw [Source.resolve, fields_resolveRelations directives record relations]

@[simp]
theorem fields_resolveRelations (directives : Directives) (record : Record) :
    ∀ relations : List (Relation × Source),
      (resolveRelations backend directives record relations).fields = record.fields
  | [] => rfl
  | (relation, source) :: rest => by
      rw [resolveRelations]
      split
      · exact fields_resolveRelations directives record rest
      · rw [fields_resolveRelations directives _ rest, Record.fields_setLink]

end

theorem id?_resolve (directives : Directives) (record : Record) (source : Source) :
    (source.resolve backend directives record).id? = record.id? := by
  rw [Record.id?, Record.value?, fields_resolve]
  rfl

end Resolve

namespace Fetch

def attachTo : List Fetch → Record → Record
  | [], record => record
  | .mk relation call outcome next :: rest, record =>
    attachTo rest (record.setLink relation.name
      ((record.value? relation.key).bind
        (Relation.pick (children (.mk relation call outcome next)))))

theorem attachAll_eq_map : ∀ (fetches : List Fetch) (parents : List Record),
    attachAll fetches parents = parents.map (attachTo fetches)
  | [], parents => by simp [attachAll, attachTo]
  | .mk relation call outcome next :: rest, parents => by
      rw [attachAll, attachAll_eq_map rest, Relation.attach, List.map_map]
      rfl

theorem children_of_ok {relation : Relation} {call : Call} {records : List Record}
    {next : List Fetch} :
    children (.mk relation call (.ok records) next) = records.map (attachTo next) := by
  rw [children, attachAll_eq_map]

end Fetch

theorem Relation.pick_map {children : List Record} {f : Record → Record}
    (hid : ∀ child, (f child).id? = child.id?) (key : Value) :
    pick (children.map f) key = (pick children key).map f := by
  have hsame : (fun child => decide (child.id? = some key)) ∘ f =
      fun child => decide (child.id? = some key) := by
    funext child
    simp [hid child]
  rw [pick, ← List.map_reverse, List.find?_map, hsame]
  rfl

section OneByOne

variable {backend : Backend}

theorem Backend.fits_of_select (hstore : backend.store.Keyed) {entity : Entity}
    (hentity : entity.isKeyed = true) {predicates : List Predicate}
    {request : Option PageRequest} {skipPaging : Bool} {found : List Record × PageSummary}
    (h : backend.select entity predicates request skipPaging = .ok found) {record : Record}
    (hrecord : record ∈ found.1) : record.Fits entity := by
  obtain ⟨row, hrow, hread⟩ := exists_row_of_select h hrecord
  obtain ⟨members, rfl⟩ := hstore.objects _ _ (Store.mem_rows_of_mem_matching hrow)
  simp only [Entity.isKeyed, Bool.and_eq_true, decide_eq_true_eq] at hentity
  exact Entity.fits_of_read? hentity.1 hread

mutual

/-- **A batch is resolved record by record.** What the fetches for a batch make of a record is what
looking up its keys one by one makes of it. -/
theorem attachTo_plan (hstore : backend.store.Keyed) (directives : Directives)
    (parents : List Record) :
    ∀ source : Source, source.isSound = true →
      Answered (source.script backend directives parents) →
      ∀ parent ∈ parents, parent.Fits source.entity →
        Fetch.attachTo (source.plan backend directives parents) parent =
          source.resolve backend directives parent
  | .mk entity relations => by
      intro hsound hanswered parent hparent hfits
      have hne : parents ≠ [] := List.ne_nil_of_mem hparent
      simp only [Source.isSound, Bool.and_eq_true] at hsound
      rw [Source.script, if_neg hne] at hanswered
      rw [Source.plan, if_neg (by simpa using hne), Source.resolve]
      exact attachTo_planRelations hstore directives parents relations hsound.2 hanswered hparent
        hfits rfl

theorem attachTo_planRelations (hstore : backend.store.Keyed) (directives : Directives)
    (parents : List Record) {entity : Entity} :
    ∀ relations : List (Relation × Source), relationsSound entity relations = true →
      Answered (relationScript backend directives parents relations) →
      ∀ {parent record : Record}, parent ∈ parents → record.Fits entity →
        record.fields = parent.fields →
        Fetch.attachTo (planRelations backend directives parents relations) record =
          resolveRelations backend directives record relations
  | [] => fun _ _ _ _ _ _ _ => rfl
  | (relation, source) :: rest => by
      intro hsound hanswered parent record hparent hfits hfields
      simp only [relationsSound, Bool.and_eq_true] at hsound
      obtain ⟨⟨hleads, hsource⟩, hrest⟩ := hsound
      rw [planRelations, resolveRelations]
      cases hseek : directives.seek relation.name with
      | none =>
          rw [relationScript_cons_of_none backend hseek] at hanswered
          exact attachTo_planRelations hstore directives parents rest hrest hanswered hparent hfits
            hfields
      | some reduced =>
          rw [answered_relationScript_cons backend hseek] at hanswered
          obtain ⟨⟨found, hfound, hnext⟩, hothers⟩ := hanswered
          have hentity := Source.isKeyed_of_isSound hsource
          have hchild : ∀ child ∈ found.1,
              Fetch.attachTo (source.plan backend reduced found.1) child =
                source.resolve backend reduced child := fun child hchild =>
            attachTo_plan hstore reduced found.1 source hsource hnext child hchild
              (Backend.fits_of_select hstore hentity hfound hchild)
          have hpick : ∀ key, record.value? relation.key = some key →
              Relation.pick (found.1.map (Fetch.attachTo (source.plan backend reduced found.1)))
                  key =
                (backend.find? source.entity key).map (source.resolve backend reduced ·) := by
            intro key hkey
            -- The links set so far leave the fields, and so the keys, as they were in the batch.
            have hkey' : parent.value? relation.key = some key := by
              rw [← hkey, Record.value?, Record.value?, hfields]
            have hmem : key ∈ relation.keys parents :=
              mem_distinct.2 (List.mem_filterMap.2 ⟨parent, hparent, hkey'⟩)
            have hlookup := Backend.selectById_eq_pick hstore hentity hfound hmem
              (Relation.type?_of_leads hleads hentity hfits hkey)
            rw [List.map_congr_left hchild, Relation.pick_map fun child => id?_resolve _ _ _ _,
              Backend.find?, hlookup]
          simp only [hfound, Except.map, Fetch.attachTo, Fetch.children_of_ok]
          rw [Option.bind_congr hpick]
          exact attachTo_planRelations hstore directives parents rest hrest hothers hparent
            (hfits.setLink _ _) ((Record.fields_setLink _ _ _).trans hfields)

end

end OneByOne

end RecordSearch
