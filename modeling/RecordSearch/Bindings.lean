import RecordSearch.Value

/-!
# Bound values

Values under keys, in the order in which they were bound. The placeholder of a value is its place
in that order. A key that is taken is bound under the key with the first free number instead, so
nothing bound is lost.
-/

namespace RecordSearch

structure Bindings where
  entries : List (String × Value)

namespace Bindings

def empty : Bindings := ⟨[]⟩

def size (b : Bindings) : Nat := b.entries.length

def keys (b : Bindings) : List String := b.entries.map (·.1)

def values (b : Bindings) : List Value := b.entries.map (·.2)

def contains (b : Bindings) (key : String) : Bool :=
  b.keys.contains key

def get? (b : Bindings) (key : String) : Option Value :=
  b.entries.lookup key

/-- The place of a key, counted from one. -/
def place? (b : Bindings) (key : String) : Option Nat :=
  (b.keys.findIdx? (· == key)).map (· + 1)

/-- The stand-in number `n` for a key that is taken. -/
def numbered (key : String) (n : Nat) : String :=
  key ++ "__dup" ++ Number.decimal n

/-- The key itself if it is free, else its first free stand-in. One of as many stand-ins as there
are bindings is free, because the key itself is one of the bindings. -/
def freeKey (b : Bindings) (key : String) : String :=
  if b.contains key then
    let tries := (List.range b.size).map (· + 1)
    numbered key ((tries.find? fun n => !b.contains (numbered key n)).getD (b.size + 1))
  else key

def bind (b : Bindings) (key : String) (value : Value) : Nat × Bindings :=
  (b.size + 1, ⟨b.entries ++ [(b.freeKey key, value)]⟩)

end Bindings

def placeholder (place : Nat) : String :=
  "$" ++ Number.decimal place

end RecordSearch
