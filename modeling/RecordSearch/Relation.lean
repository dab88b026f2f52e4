import RecordSearch.Distinct
import RecordSearch.Record

/-!
# Relations

A relation leads from a record, by the value of one of its fields, to the record of another entity
that this value identifies. A source is an entity with its relations and the sources that these lead
to, as deep as relations are followed.
-/

namespace RecordSearch

structure Relation where
  /-- The name in directives, and the link that the relation sets. -/
  name : String
  /-- The field that holds the identifying value. -/
  key : String
  deriving DecidableEq, Repr

inductive Source where
  | mk (entity : Entity) (relations : List (Relation × Source))

namespace Source

def entity : Source → Entity
  | .mk entity _ => entity

def relations : Source → List (Relation × Source)
  | .mk _ relations => relations

def relationNames (source : Source) : List String :=
  source.relations.map (·.1.name)

end Source

namespace Relation

/-- The distinct values that lead on from some records, each where it is first seen. -/
def keys (relation : Relation) (parents : List Record) : List Value :=
  distinct (parents.filterMap (·.value? relation.key))

/-- The record with an identifying value; of several the last. -/
def pick (children : List Record) (id : Value) : Option Record :=
  children.reverse.find? fun child => child.id? = some id

/-- Sets the link of every parent to the record that its key leads to, and clears it where there is
none. -/
def attach (relation : Relation) (children : List Record) (parents : List Record) : List Record :=
  parents.map fun parent =>
    parent.setLink relation.name ((parent.value? relation.key).bind (pick children))

end Relation

end RecordSearch
