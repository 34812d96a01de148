import DevstackConf.Graph.Basic

/-!
# Catalogs: named values in dependency order

A catalog stores a value under each name together with a dependency graph over the same names.
Insertion refuses a name that is already stored and any insertion the graph refuses; a refused
insertion keeps nothing. `insertInPlace` is the same insertion run on the catalog in place.

`Catalog.ordered` lists every stored item once, dependencies first. It walks the stored names in
ascending order; for each name not yet listed it asks the graph's dependency query (the stack
loop `Graph.dependenciesByStack`) for the name's pending dependencies, deepest first, and lists
those not yet listed and then the name itself.
-/

namespace DevstackConf

/-- Named values with the graph that orders them. -/
structure Catalog (α : Type) where
  /-- The dependencies between the stored names. -/
  graph : Graph
  /-- The value stored under each name. -/
  values : Std.ExtTreeMap String α compare

namespace Catalog

variable {α : Type}

/-- The catalog with no items. -/
def empty : Catalog α := ⟨Graph.empty, ∅⟩

/-- Stores `v` under `n`, depending on `deps`. Nothing is kept if the name is already stored or
the graph refuses the item. -/
def insert (c : Catalog α) (n : String) (v : α) (deps : List String) :
    Except GraphError (Catalog α) :=
  if c.values.contains n then .error (.duplicateItem n)
  else
    match c.graph.add n deps with
    | .error e => .error e
    | .ok g => .ok ⟨g, c.values.insert n v⟩

/-- `insert` run on the catalog in place: the catalog after the call and the outcome. The graph
is asked first and runs its own insertion in place; the value is stored only once the graph has
accepted the item. -/
def insertInPlace (c : Catalog α) (n : String) (v : α) (deps : List String) :
    Catalog α × Except GraphError Unit :=
  if c.values.contains n then (c, .error (.duplicateItem n))
  else
    match c.graph.addInPlace n deps with
    | (g, .error e) => (⟨g, c.values⟩, .error e)
    | (g, .ok ()) => (⟨g, c.values.insert n v⟩, .ok ())

/-- The number of stored items. -/
def size (c : Catalog α) : Nat := c.values.size

/-- Lists `item` with its value unless it is already listed. -/
def emit (c : Catalog α) (acc : NameSet × List (String × α)) (item : String) :
    Except GraphError (NameSet × List (String × α)) :=
  if acc.1.contains item then .ok acc
  else
    match c.values[item]? with
    | none => .error (.unknownItem item)
    | some v => .ok (acc.1.insert item, acc.2 ++ [(item, v)])

/-- Lists the pending dependencies of `n`, then `n`, unless `n` is already listed. -/
def emitWithDependencies (c : Catalog α) (acc : NameSet × List (String × α)) (n : String) :
    Except GraphError (NameSet × List (String × α)) :=
  if acc.1.contains n then .ok acc
  else
    match c.graph.dependenciesByStack n with
    | .error e => .error e
    | .ok pending => (pending ++ [n]).foldlM c.emit acc

/-- Every stored item exactly once, each after the stored items it depends on. -/
def ordered (c : Catalog α) : Except GraphError (List (String × α)) :=
  match c.values.keys.foldlM c.emitWithDependencies ((∅ : NameSet), []) with
  | .error e => .error e
  | .ok acc => .ok acc.2

end Catalog

end DevstackConf
