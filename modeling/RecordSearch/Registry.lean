/-!
# Registries

Things of several kinds under names. What is registered under a name is found only as a thing of its
own kind.
-/

namespace RecordSearch

/-- Things under names; the type of a thing depends on its kind. -/
structure Registry (Kind : Type) (Item : Kind → Type) where
  entries : List (String × (kind : Kind) × Item kind)

inductive RegistryError where
  | alreadyRegistered (name : String)
  | notFound (name : String)
  deriving DecidableEq, Repr

def RegistryError.message : RegistryError → String
  | .alreadyRegistered name => "Repository already registered: " ++ name
  | .notFound name => "Repository not found: " ++ name

namespace Registry

variable {Kind : Type} {Item : Kind → Type}

def empty : Registry Kind Item := ⟨[]⟩

def contains (registry : Registry Kind Item) (name : String) : Bool :=
  registry.entries.any (·.1 == name)

def register (registry : Registry Kind Item) (name : String) (kind : Kind) (item : Item kind) :
    Except RegistryError (Registry Kind Item) :=
  if registry.contains name then .error (.alreadyRegistered name)
  else .ok ⟨registry.entries ++ [(name, ⟨kind, item⟩)]⟩

def get [DecidableEq Kind] (registry : Registry Kind Item) (name : String) (kind : Kind) :
    Except RegistryError (Item kind) :=
  match registry.entries.lookup name with
  | some ⟨found, item⟩ =>
    if h : found = kind then .ok (h ▸ item) else .error (.notFound name)
  | none => .error (.notFound name)

def unregister (registry : Registry Kind Item) (name : String) :
    Except RegistryError (Registry Kind Item) :=
  if registry.contains name then .ok ⟨registry.entries.filter (·.1 != name)⟩
  else .error (.notFound name)

/-- The registered names in the order of their code points. -/
def names (registry : Registry Kind Item) : List String :=
  (registry.entries.map (·.1)).mergeSort fun a b => decide (a ≤ b)

end Registry

end RecordSearch
