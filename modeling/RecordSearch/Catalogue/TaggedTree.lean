import RecordSearch.Fetch.Request

/-!
# A tree with tags

Nodes with a parent and two tags. The relation to the parent leads back to nodes, and is followed
for a fixed number of levels. With a small store of nodes and tags.
-/

namespace RecordSearch.TaggedTree

def tag : Entity :=
  { name := "tag"
    table := "tags"
    fields := [
      ⟨"id", .required .text⟩,
      ⟨"label", .optional .text⟩] }

def node : Entity :=
  { name := "node"
    table := "nodes"
    fields := [
      ⟨"id", .required .integer⟩,
      ⟨"label", .optional .text⟩,
      ⟨"parent_id", .optional .integer⟩,
      ⟨"tag_id", .optional .text⟩,
      ⟨"tag_alt_id", .optional .text⟩,
      ⟨"parent", .link "node"⟩,
      ⟨"tag", .link "tag"⟩,
      ⟨"tag_alt", .link "tag"⟩] }

def catalogue : Catalogue := [tag, node]

def tags : Source := .mk tag []

def tagRelations : List (Relation × Source) :=
  [(⟨"tag", "tag_id"⟩, tags), (⟨"tag_alt", "tag_alt_id"⟩, tags)]

/-- Nodes whose parents are known `levels` levels up. -/
def nodesTo : Nat → Source
  | 0 => .mk node tagRelations
  | levels + 1 => .mk node ((⟨"parent", "parent_id"⟩, nodesTo levels) :: tagRelations)

def nodes : Source := nodesTo 5

def tagRow (id label : String) : Json :=
  .ofMembers [("id", .string id), ("label", .string label)]

def nodeRow (id : Int) (parent : Option Int) (tag alt : Option String) : Json :=
  .ofMembers [("id", .integer id), ("parent_id", (parent.map Json.integer).getD .null),
    ("tag_id", (tag.map Json.string).getD .null), ("tag_alt_id", (alt.map Json.string).getD .null)]

/-- A node that is its own parent, and a tag. The node has the tag, and another one that there is no
row for. -/
def sampleStore : Store :=
  { tables := [
      ("nodes", [nodeRow 1 (some 1) (some "red") (some "lost")]),
      ("tags", [tagRow "red" "Red"])]
    defaults := .standard }

def sampleRepository : Repository :=
  { backend :=
      { store := sampleStore
        catalogue
        delay := fun _ => 0
        outage := fun _ => none }
    source := nodes
    window := .standard }

/-- Delays at which the nodes take longer than the tags. -/
def sampleDelay (table : String) : Nat :=
  if table = "nodes" then 20 else 5

end RecordSearch.TaggedTree
