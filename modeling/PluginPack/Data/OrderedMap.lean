/-!
Maps that remember the order in which keys were first inserted.

Writing a key that is already present replaces its value where it stands; a new
key goes to the end. Reading the entries gives them in that order, which is the
order in which attributes, properties and records are written out.
-/

namespace PluginPack

structure OrderedMap (α : Type) (β : Type) where
  entries : List (α × β) := []
  deriving Inhabited, Repr

namespace OrderedMap

variable {α β : Type} [BEq α]

def empty : OrderedMap α β := {}

def putEntry (k : α) (v : β) : List (α × β) → List (α × β)
  | [] => [(k, v)]
  | (k', v') :: rest => if k' == k then (k, v) :: rest else (k', v') :: putEntry k v rest

def insert (m : OrderedMap α β) (k : α) (v : β) : OrderedMap α β :=
  ⟨putEntry k v m.entries⟩

def get? (m : OrderedMap α β) (k : α) : Option β :=
  (m.entries.find? (·.1 == k)).map (·.2)

def contains (m : OrderedMap α β) (k : α) : Bool :=
  m.entries.any (·.1 == k)

def erase (m : OrderedMap α β) (k : α) : OrderedMap α β :=
  ⟨m.entries.filter fun e => !(e.1 == k)⟩

def toList (m : OrderedMap α β) : List (α × β) := m.entries

def keys (m : OrderedMap α β) : List α := m.entries.map (·.1)

def size (m : OrderedMap α β) : Nat := m.entries.length

def insertMany (m : OrderedMap α β) (pairs : List (α × β)) : OrderedMap α β :=
  pairs.foldl (fun acc (k, v) => acc.insert k v) m

def ofList (pairs : List (α × β)) : OrderedMap α β :=
  insertMany empty pairs

def insertIfAbsent (m : OrderedMap α β) (k : α) (v : β) : OrderedMap α β :=
  if m.contains k then m else m.insert k v

end OrderedMap

end PluginPack
