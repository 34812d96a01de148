import Std.Data.ExtTreeMap
import Std.Data.ExtTreeSet

/-!
# Dependency graphs

A dependency graph records, for every item that has been added, the set of names the item
depends on. A dependency may name an item that was never added: the edge is kept, but it has no
dependencies of its own, so closure queries step over it.

Items are added one at a time and each insertion is checked against what is already present.
An insertion that would close a cycle is refused and the graph is left as it was, so every graph
built by `Graph.add` is acyclic.

The map is an extensional tree map: two graphs with the same entries are equal, whatever order
their items were added in.

The two queries are written as they run: `ancestorsBy`, the closure query with a choice of
lookup, as a breadth-first walk over a queue, and `dependenciesByStack`, the dependency query, as
a loop over an explicit stack of names to enter and names to emit. A name is queued only when it
is first recorded, so the breadth-first walk takes at most one name more from the queue than the
graph's dependency lists hold, and that count is its fuel. The stack loop needs no fuel: every
expansion of an item lowers the number of items not yet entered (`budget`), and every other step
leaves that number and shortens the stack or marks one of its entries expanded.

Beside them stand the same closure and the same listing as depth-first recursions, `ancestors`
and `dependenciesOf`, the forms the proofs of this library reason about. Each nested step of
such a walk enters a name of the graph that was not entered before, so `size + 1` steps of fuel
are always enough, and that is the bound they supply.

`addInPlace` is the insertion as it runs on the graph in place, returning the graph after the call
with the outcome: the entry is reserved, its edges are recorded one at a time, each after the
soft closure query of its dependency, and a cycle removes the entry again with the edges already
recorded in it. `add` is the same insertion as a value: it returns the new graph, or the error
alone.
-/

namespace DevstackConf

/-- A finite set of names, ordered by code points (the same order as by UTF-8 bytes). -/
abbrev NameSet := Std.ExtTreeSet String compare

/-- Why a graph operation failed. Each error carries the name it concerns. -/
inductive GraphError where
  /-- The name is already in the graph. -/
  | duplicateItem (name : String)
  /-- Adding the name with the given dependencies would close a cycle. -/
  | cycleDetected (name : String)
  /-- The name, or a name reached from it, is not in the graph. -/
  | unknownItem (name : String)
  deriving DecidableEq, Repr

namespace GraphError

/-- The name an error carries. -/
def name : GraphError → String
  | duplicateItem n => n
  | cycleDetected n => n
  | unknownItem n => n

/-- The text of an error. -/
def message : GraphError → String
  | duplicateItem n => n ++ " already added"
  | cycleDetected n => "Dependency cycle detected in " ++ n
  | unknownItem n => "Dependent item " ++ n ++ " not found"

end GraphError

/-- How a closure query treats a name that is not in the graph. -/
inductive Lookup where
  /-- Unknown names contribute nothing. -/
  | soft
  /-- Reaching an unknown name is an error. -/
  | strict
  deriving DecidableEq, Repr

/-- A dependency graph: each added item's name, mapped to the names it depends on. -/
structure Graph where
  /-- The direct dependencies of every added item. -/
  deps : Std.ExtTreeMap String NameSet compare

namespace Graph

/-- The graph with no items. -/
def empty : Graph := ⟨∅⟩

/-- Whether an item of that name has been added. -/
def contains (g : Graph) (n : String) : Bool := g.deps.contains n

/-- The direct dependencies of an added item. -/
def direct? (g : Graph) (n : String) : Option NameSet := g.deps[n]?

/-- The names of all added items, ascending. -/
def names (g : Graph) : List String := g.deps.keys

/-- The number of added items. -/
def size (g : Graph) : Nat := g.deps.size

/-- The graph with the edge from `n` to `d` added, if `n` is an item. -/
def addEdge (g : Graph) (n d : String) : Graph := ⟨g.deps.modify n (·.insert d)⟩

/-- Adds to `seen` every name reachable from `n` by one or more edges, exploring each newly
seen name in turn. Each nesting level uses one unit of fuel. -/
def reach (g : Graph) : Nat → String → NameSet → NameSet
  | 0, _, seen => seen
  | fuel + 1, n, seen =>
    match g.deps[n]? with
    | none => seen
    | some ds =>
      ds.foldl (fun acc d => if acc.contains d then acc else g.reach fuel d (acc.insert d)) seen

/-- Every name reachable from `n` by one or more edges. Only added items have edges, so the
result may hold names that were never added, and holds `n` only if `n` lies on a cycle. -/
def ancestors (g : Graph) (n : String) : NameSet := g.reach (g.size + 1) n ∅

/-- Records each name of `parents` that is not recorded yet and queues it, in ascending order. -/
def enqueue (parents : NameSet) (st : NameSet × List String) : NameSet × List String :=
  parents.foldl (fun st p => if st.1.contains p then st else (st.1.insert p, st.2 ++ [p])) st

/-- The breadth-first walk of `ancestorsBy` from `root`: takes the name at the front of the
queue; for an item, records and queues its dependencies not recorded yet; for a name that is not
an item, goes on (soft lookup) or fails naming `root` (strict lookup). -/
def sweep (g : Graph) (root : String) (lookup : Lookup) :
    Nat → List String → NameSet → Except GraphError NameSet
  | 0, _, all => .ok all
  | _ + 1, [], all => .ok all
  | fuel + 1, cur :: pending, all =>
    match g.deps[cur]? with
    | some parents =>
      let st := enqueue parents (all, pending)
      g.sweep root lookup fuel st.2 st.1
    | none =>
      match lookup with
      | .soft => g.sweep root lookup fuel pending all
      | .strict => .error (.unknownItem root)

/-- The dependencies of all items, with repeats. -/
def targets (g : Graph) : List String := g.deps.toList.flatMap (·.2.toList)

/-- The closure of `n` under the chosen lookup, by a breadth-first walk from `n` that records
every name it reaches. A strict lookup fails, naming `n`, when the walk takes from its queue a
name that is not in the graph. -/
def ancestorsBy (g : Graph) (n : String) (lookup : Lookup) : Except GraphError NameSet :=
  g.sweep n lookup (g.targets.length + 1) [n] ∅

/-- Post-order walk from `n`: marks `n` entered, walks each of its dependencies that is an item
and not yet entered, in ascending order, then emits `n`. -/
def visit (g : Graph) : Nat → String → NameSet × List String → NameSet × List String
  | 0, _, st => st
  | fuel + 1, n, (entered, out) =>
    let kids := (g.deps[n]?).getD ∅
    let st := kids.foldl
      (fun st c => if g.contains c && !st.1.contains c then g.visit fuel c st else st)
      (entered.insert n, out)
    (st.1, st.2 ++ [n])

/-- Everything that must come before the item `n`: the items it reaches, each after its own
dependencies, each once, with direct dependencies walked in ascending order. Fails if `n` is
not an item. -/
def dependenciesOf (g : Graph) (n : String) : Except GraphError (List String) :=
  match g.deps[n]? with
  | none => .error (.unknownItem n)
  | some ds =>
    .ok (ds.foldl
      (fun st c => if g.contains c && !st.1.contains c then g.visit (g.size + 1) c st else st)
      ((∅ : NameSet), ([] : List String))).2

/-- The number of items not in `seen`. -/
def budget (g : Graph) (seen : NameSet) : Nat := (g.names.filter (· ∉ seen)).length

/-- Seeing one more item, beyond everything seen before, lowers the budget. -/
theorem budget_insert_lt {g : Graph} {s t : NameSet} {d : String} (hst : ∀ x ∈ s, x ∈ t)
    (hd : g.contains d) (ht : d ∉ t) : g.budget (t.insert d) < g.budget s := by
  have hfilter : g.names.filter (· ∉ t.insert d) =
      (g.names.filter (· ∉ s)).filter (· ∉ t.insert d) := by
    rw [List.filter_filter]
    apply List.filter_congr
    intro x _
    by_cases hx : x ∈ s
    · simp [hx, hst x hx]
    · simp [hx]
  rw [budget, budget, hfilter, List.length_filter_lt_length_iff_exists]
  refine ⟨d, List.mem_filter.mpr ⟨?_, ?_⟩, by simp⟩
  · simpa [names, contains] using hd
  · simpa using fun hs => ht (hst d hs)

/-- Seeing a name that is not an item leaves the budget. -/
theorem budget_insert_of_not_contains {g : Graph} {t : NameSet} {d : String}
    (hd : g.contains d = false) : g.budget (t.insert d) = g.budget t := by
  rw [budget, budget]
  congr 1
  apply List.filter_congr
  intro x hx
  have hxd : d ≠ x := by
    rintro rfl
    have hitem : g.contains d = true := by simpa [names, contains] using hx
    rw [hd] at hitem
    cases hitem
  simp [Std.ExtTreeSet.mem_insert, hxd]

/-- Pushes onto `stack` each name of `names` that is an item and not in `entered`, the largest
first, so that the smallest ends on top. -/
def pushKnown (g : Graph) (names entered : NameSet) (stack : List (String × Bool)) :
    List (String × Bool) :=
  names.foldr (fun c st => if g.contains c && !entered.contains c then (c, false) :: st else st)
    stack

/-- Runs the post-order walk held on `stack`, top first, and appends what it emits to `out`. An
entry `(n, true)` emits `n`. An entry `(n, false)` is passed over if `n` is entered; otherwise
`n` is entered, and `(n, true)` is pushed with the item dependencies of `n` not yet entered
above it. -/
def drain (g : Graph) (stack : List (String × Bool)) (entered : NameSet) (out : List String) :
    List String :=
  match stack with
  | [] => out
  | (cur, true) :: rest => g.drain rest entered (out ++ [cur])
  | (cur, false) :: rest =>
    if entered.contains cur then g.drain rest entered out
    else
      match _hkids : g.deps[cur]? with
      | some kids =>
        g.drain (g.pushKnown kids (entered.insert cur) ((cur, true) :: rest)) (entered.insert cur)
          out
      | none => g.drain ((cur, true) :: rest) (entered.insert cur) out
termination_by (g.budget entered, stack.length + (stack.filter (!·.2)).length)
decreasing_by
  · exact Prod.Lex.right _ (by simp)
  · exact Prod.Lex.right _ (by simp; omega)
  · -- entering an item lowers the budget, however much is pushed
    apply Prod.Lex.left
    apply budget_insert_lt (fun _ hx => hx)
    · rw [contains, Std.ExtTreeMap.contains_eq_isSome_getElem?, _hkids]
      rfl
    · simpa using ‹_›
  · -- a name that is not an item pushes only its own emission
    have hcur : g.contains cur = false := by
      rw [contains, Std.ExtTreeMap.contains_eq_isSome_getElem?, _hkids]
      rfl
    rw [budget_insert_of_not_contains hcur]
    exact Prod.Lex.right _ (by simp)

/-- `dependenciesOf` as a loop over an explicit stack: the item dependencies of `n` are pushed and
the stack is drained, with nothing entered at the start, not even `n`. Fails if `n` is not an
item. -/
def dependenciesByStack (g : Graph) (n : String) : Except GraphError (List String) :=
  match g.deps[n]? with
  | none => .error (.unknownItem n)
  | some ds => .ok (g.drain (g.pushKnown ds ∅ []) ∅ [])

/-- Records the edges from `n` to each of `deps` in order. Before each edge is recorded, the soft
closure query is asked for everything the dependency reaches: if `n` is the dependency or among
those names the edge would close a cycle, and the whole insertion is refused. -/
def link (n : String) : Graph → List String → Except GraphError Graph
  | g, [] => .ok g
  | g, d :: rest => do
    let found ← g.ancestorsBy d .soft
    if (found.insert d).contains n then .error (.cycleDetected n)
    else link n (g.addEdge n d) rest

/-- Adds the item `n` depending on each of `deps`. A name already present is refused before
anything is checked; otherwise the item is reserved with no edges and its edges are linked. -/
def add (g : Graph) (n : String) (deps : List String) : Except GraphError Graph :=
  if g.contains n then .error (.duplicateItem n)
  else link n ⟨g.deps.insert n ∅⟩ deps

/-- `link` run on the graph in place: each edge is recorded as soon as it passes its check, and
an edge that would close a cycle removes the entry of `n`, with the edges recorded in it. A
failed closure query ends the call with the graph as it stands. Returns the graph after the call
and the outcome. -/
def linkInPlace (n : String) : Graph → List String → Graph × Except GraphError Unit
  | g, [] => (g, .ok ())
  | g, d :: rest =>
    match g.ancestorsBy d .soft with
    | .error e => (g, .error e)
    | .ok found =>
      if (found.insert d).contains n then (⟨g.deps.erase n⟩, .error (.cycleDetected n))
      else linkInPlace n (g.addEdge n d) rest

/-- `add` run on the graph in place: the graph after the call and the outcome. -/
def addInPlace (g : Graph) (n : String) (deps : List String) : Graph × Except GraphError Unit :=
  if g.contains n then (g, .error (.duplicateItem n))
  else linkInPlace n ⟨g.deps.insert n ∅⟩ deps

/-- The whole graph as name–dependencies pairs, both ascending. -/
def entries (g : Graph) : List (String × List String) :=
  g.deps.toList.map fun (n, ds) => (n, ds.toList)

end Graph

end DevstackConf
