/-!
# Scopes

A scope is the address of a node in a tree of items: its own name below the names of the nodes
around it. The path joins these names with slashes, and two scopes count as equal when their paths
are. Names that are not empty and hold no slash keep different chains of names apart.
-/

namespace ResumableFlow

/-- The address of a node: a name of its own, below the scope that encloses it. -/
inductive Scope where
  | root (name : String)
  | within (parent : Scope) (name : String)
  deriving Repr

namespace Scope

/-- The scope named `name` below `parent`, or the root scope of that name when there is none. -/
def nest : Option Scope → String → Scope
  | none, name => root name
  | some parent, name => parent.within name

/-- The chain of scopes for a list of names: the first is a root, each next one lies in the one
before it. -/
def chain (first : String) (rest : List String) : Scope :=
  rest.foldl within (root first)

def name : Scope → String
  | root name => name
  | within _ name => name

/-- The names from the root down, joined by slashes. -/
def path : Scope → String
  | root name => name
  | within parent name => parent.path ++ "/" ++ name

def parent? : Scope → Option Scope
  | root _ => none
  | within parent _ => some parent

def depth : Scope → Nat
  | root _ => 0
  | within parent _ => parent.depth + 1

/-- Scopes are compared by their paths. -/
instance : BEq Scope := ⟨fun a b => a.path == b.path⟩

instance : Hashable Scope := ⟨fun scope => hash scope.path⟩

theorem beq_iff_path_eq (a b : Scope) : (a == b) = true ↔ a.path = b.path :=
  beq_iff_eq (a := a.path) (b := b.path)

/-- Scopes that compare as equal have the same hash. -/
theorem hash_eq_of_beq {a b : Scope} (h : (a == b) = true) : hash a = hash b := by
  show hash a.path = hash b.path
  rw [(beq_iff_path_eq a b).mp h]

@[simp] theorem path_nest_none (name : String) : (nest none name).path = name := rfl

@[simp] theorem path_nest_some (parent : Scope) (name : String) :
    (nest (some parent) name).path = parent.path ++ "/" ++ name := rfl

@[simp] theorem name_nest (parent : Option Scope) (name : String) :
    (nest parent name).name = name := by
  cases parent <;> rfl

@[simp] theorem parent?_nest (parent : Option Scope) (name : String) :
    (nest parent name).parent? = parent := by
  cases parent <;> rfl

end Scope

/-! ## Names -/

/-- Whether a text can name an item: it is not empty and holds no slash. -/
def isName (text : String) : Bool := text != "" && !text.toList.contains '/'

end ResumableFlow
