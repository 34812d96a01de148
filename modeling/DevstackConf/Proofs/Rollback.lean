import DevstackConf.Catalog
import DevstackConf.Proofs.Catalog.Order

/-!
# A refused insertion changes nothing

Run in place, an insertion into a graph reserves the new name with no edges and records its
edges one at a time; when an edge would close a cycle it removes the reserved entry, together with
the edges it already holds. That restores the graph exactly, because the name was not in the graph
before the call and nothing else was touched: the entries of the other names, and so their edges
to the new name, are as they were.

So the in-place insertion fails exactly when `Graph.add` does, and then leaves the graph as it
found it (`addInPlace_of_add_error`); when it succeeds it leaves the graph that `add` returns. The
same holds one layer up for catalogs, whose in-place insertion changes neither the stored values
nor the graph when it fails.

Every state reached by in-place insertions, refused ones included, is therefore a state built by
accepted insertions alone (`Graph.reachable_iff_built`, `Catalog.reachable_iff_built`), and in a
catalog built so the stored names are the items of the graph: the catalog's own check for a
repeated name and the graph's check always agree.
-/

namespace DevstackConf

namespace Graph

theorem erase_addEdge (g : Graph) (n d : String) :
    (g.addEdge n d).deps.erase n = g.deps.erase n := by
  apply Std.ExtTreeMap.ext_getElem?
  intro k
  by_cases hk : n = k
  · subst hk
    simp
  · simp [addEdge, Std.ExtTreeMap.getElem?_erase, Std.ExtTreeMap.getElem?_modify, hk]

theorem erase_insert_of_not_mem {m : Std.ExtTreeMap String NameSet compare} {n : String}
    (hn : n ∉ m) (S : NameSet) : (m.insert n S).erase n = m := by
  apply Std.ExtTreeMap.ext_getElem?
  intro k
  by_cases hk : n = k
  · subst hk
    simp [Std.ExtTreeMap.getElem?_eq_none hn]
  · simp [Std.ExtTreeMap.getElem?_erase, Std.ExtTreeMap.getElem?_insert, hk]

/-- A refused link leaves the graph it was given, less the entry of the new name. -/
theorem linkInPlace_of_link_error {n : String} :
    ∀ {g : Graph} {deps : List String} {e : GraphError},
      link n g deps = .error e → linkInPlace n g deps = (⟨g.deps.erase n⟩, .error e)
  | _, [], _, h => by cases h
  | g, d :: rest, e, h => by
      by_cases hcheck : (d == n || (g.ancestors d).contains n) = true
      · rw [link_cons, if_pos hcheck] at h
        cases h
        rw [linkInPlace_cons, if_pos hcheck]
      · rw [link_cons, if_neg hcheck] at h
        -- the edge to `d` is recorded and later dropped with the whole entry
        rw [linkInPlace_cons, if_neg hcheck, linkInPlace_of_link_error h, erase_addEdge]

theorem linkInPlace_of_link_ok {n : String} :
    ∀ {g g' : Graph} {deps : List String},
      link n g deps = .ok g' → linkInPlace n g deps = (g', .ok ())
  | _, _, [], h => by
      cases h
      rfl
  | g, g', d :: rest, h => by
      by_cases hcheck : (d == n || (g.ancestors d).contains n) = true
      · rw [link_cons, if_pos hcheck] at h
        cases h
      · rw [link_cons, if_neg hcheck] at h
        rw [linkInPlace_cons, if_neg hcheck, linkInPlace_of_link_ok h]

/-- A refused insertion, run in place, leaves the graph exactly as it was. -/
theorem addInPlace_of_add_error {g : Graph} {n : String} {deps : List String} {e : GraphError}
    (h : g.add n deps = .error e) : g.addInPlace n deps = (g, .error e) := by
  cases hn : g.contains n with
  | true =>
      rw [add, if_pos hn] at h
      cases h
      rw [addInPlace, if_pos hn]
  | false =>
      rw [add, if_neg (by simp [hn])] at h
      rw [addInPlace, if_neg (by simp [hn]), linkInPlace_of_link_error h,
        erase_insert_of_not_mem (contains_eq_false_iff.mp hn)]

theorem addInPlace_of_add_ok {g g' : Graph} {n : String} {deps : List String}
    (h : g.add n deps = .ok g') : g.addInPlace n deps = (g', .ok ()) := by
  have hn := contains_eq_false_of_add_eq_ok h
  rw [add, if_neg (by simp [hn])] at h
  rw [addInPlace, if_neg (by simp [hn]), linkInPlace_of_link_ok h]

/-- The in-place insertion and `add` are refused alike. -/
theorem addInPlace_snd_eq_error_iff {g : Graph} {n : String} {deps : List String}
    {e : GraphError} : (g.addInPlace n deps).2 = .error e ↔ g.add n deps = .error e := by
  cases h : g.add n deps with
  | error e' => simp [addInPlace_of_add_error h]
  | ok g' => simp [addInPlace_of_add_ok h]

/-- An in-place insertion leaves the graph it started from, or the graph `add` returns. -/
theorem addInPlace_fst_cases (g : Graph) (n : String) (deps : List String) :
    (g.addInPlace n deps).1 = g ∨ g.add n deps = .ok (g.addInPlace n deps).1 := by
  cases h : g.add n deps with
  | error e => exact .inl (by rw [addInPlace_of_add_error h])
  | ok g' => exact .inr (by rw [addInPlace_of_add_ok h])

/-- The graphs reached from the empty graph by in-place insertions, refused ones included. -/
inductive Reachable : Graph → Prop
  | empty : Reachable Graph.empty
  | add {g : Graph} (n : String) (deps : List String) :
      Reachable g → Reachable (g.addInPlace n deps).1

theorem Reachable.built {g : Graph} (h : g.Reachable) : g.Built := by
  induction h with
  | empty => exact .empty
  | @add g n deps _ ih =>
      rcases addInPlace_fst_cases g n deps with hsame | hadd
      · rwa [hsame]
      · exact .add ih hadd

theorem Built.reachable {g : Graph} (h : g.Built) : g.Reachable := by
  induction h with
  | empty => exact .empty
  | @add g g' n deps _ hadd ih =>
      have hstep := Reachable.add n deps ih
      rwa [addInPlace_of_add_ok hadd] at hstep

/-- Refused insertions change nothing, so the reachable graphs are the built ones. -/
theorem reachable_iff_built {g : Graph} : g.Reachable ↔ g.Built :=
  ⟨Reachable.built, Built.reachable⟩

end Graph

namespace Catalog

variable {α : Type}

/-- A refused insertion, run in place, leaves the catalog exactly as it was: the graph, whatever
edges its own insertion recorded before refusing, and the stored values. -/
theorem insertInPlace_of_insert_error {c : Catalog α} {n : String} {v : α} {deps : List String}
    {e : GraphError} (h : c.insert n v deps = .error e) :
    c.insertInPlace n v deps = (c, .error e) := by
  unfold insert at h
  unfold insertInPlace
  by_cases hn : c.values.contains n = true
  · rw [if_pos hn] at h
    cases h
    rw [if_pos hn]
  · rw [if_neg hn] at h
    rw [if_neg hn]
    cases hadd : c.graph.add n deps with
    | error e' =>
        rw [hadd] at h
        cases h
        rw [Graph.addInPlace_of_add_error hadd]
    | ok g => simp [hadd] at h

theorem insertInPlace_of_insert_ok {c c' : Catalog α} {n : String} {v : α} {deps : List String}
    (h : c.insert n v deps = .ok c') : c.insertInPlace n v deps = (c', .ok ()) := by
  obtain ⟨hn, g, hadd, rfl⟩ := insert_eq_ok_iff.mp h
  unfold insertInPlace
  rw [if_neg (by simp [hn]), Graph.addInPlace_of_add_ok hadd]

theorem insertInPlace_snd_eq_error_iff {c : Catalog α} {n : String} {v : α} {deps : List String}
    {e : GraphError} :
    (c.insertInPlace n v deps).2 = .error e ↔ c.insert n v deps = .error e := by
  cases h : c.insert n v deps with
  | error e' => simp [insertInPlace_of_insert_error h]
  | ok c' => simp [insertInPlace_of_insert_ok h]

/-- The catalogs reached from the empty catalog by in-place insertions, refused ones included. -/
inductive Reachable : Catalog α → Prop
  | empty : Reachable Catalog.empty
  | insert {c : Catalog α} (n : String) (v : α) (deps : List String) :
      Reachable c → Reachable (c.insertInPlace n v deps).1

theorem Reachable.built {c : Catalog α} (h : c.Reachable) : c.Built := by
  induction h with
  | empty => exact .empty
  | @insert c n v deps _ ih =>
      cases hins : c.insert n v deps with
      | error e => rwa [insertInPlace_of_insert_error hins]
      | ok c' =>
          rw [insertInPlace_of_insert_ok hins]
          exact .insert ih hins

theorem Built.reachable {c : Catalog α} (h : c.Built) : c.Reachable := by
  induction h with
  | empty => exact .empty
  | @insert c c' n v deps _ hins ih =>
      have hstep := Reachable.insert n v deps ih
      rwa [insertInPlace_of_insert_ok hins] at hstep

theorem reachable_iff_built {c : Catalog α} : c.Reachable ↔ c.Built :=
  ⟨Reachable.built, Built.reachable⟩

end Catalog

/-- A refused insertion changes nothing. Run in place, an insertion into a graph is refused
exactly when `Graph.add` refuses it, and then leaves every graph as it was, whatever edges it had
recorded before the refusal; a refused insertion into a catalog leaves both its values and its
graph as they were. In every catalog reached by insertions, refused ones included, the stored
names are the items of the graph, so the two checks for a repeated name agree. -/
theorem refused_insertion_changes_nothing :
    (∀ (g : Graph) (n : String) (deps : List String) (e : GraphError),
      (g.addInPlace n deps).2 = .error e ↔ g.add n deps = .error e) ∧
    (∀ (g : Graph) (n : String) (deps : List String) (e : GraphError),
      (g.addInPlace n deps).2 = .error e → (g.addInPlace n deps).1 = g) ∧
    (∀ (α : Type) (c : Catalog α) (n : String) (v : α) (deps : List String) (e : GraphError),
      (c.insertInPlace n v deps).2 = .error e ↔ c.insert n v deps = .error e) ∧
    (∀ (α : Type) (c : Catalog α) (n : String) (v : α) (deps : List String) (e : GraphError),
      (c.insertInPlace n v deps).2 = .error e → (c.insertInPlace n v deps).1 = c) ∧
    (∀ (α : Type) (c : Catalog α), c.Reachable → ∀ x, c.values.contains x = c.graph.contains x) := by
  refine ⟨fun _ _ _ _ => Graph.addInPlace_snd_eq_error_iff, ?_,
    fun _ _ _ _ _ _ => Catalog.insertInPlace_snd_eq_error_iff, ?_, ?_⟩
  · intro g n deps e h
    rw [Graph.addInPlace_of_add_error (Graph.addInPlace_snd_eq_error_iff.mp h)]
  · intro α c n v deps e h
    rw [Catalog.insertInPlace_of_insert_error (Catalog.insertInPlace_snd_eq_error_iff.mp h)]
  · intro α c hc
    exact hc.built.graph.2

/-- With `top → mid → bottom` recorded, inserting `bottom` with `unrelated` and `top` records
the edge to `unrelated` before `top` closes a cycle; the refusal leaves the graph as it was. In a
catalog, `b` depending on `a`, which depends on `b`, is refused, and the catalog after the
refusal still stores exactly the items of its graph. -/
theorem refusal_drops_recorded_edge :
    (((Graph.empty.addInPlace "top" ["mid"]).1.addInPlace "mid" ["bottom"]).1.addInPlace
        "bottom" ["unrelated", "top"]).2 = .error (.cycleDetected "bottom") ∧
    (((Graph.empty.addInPlace "top" ["mid"]).1.addInPlace "mid" ["bottom"]).1.addInPlace
        "bottom" ["unrelated", "top"]).1 =
      ((Graph.empty.addInPlace "top" ["mid"]).1.addInPlace "mid" ["bottom"]).1 ∧
    (((Catalog.empty : Catalog Nat).insertInPlace "a" 1 ["b"]).1.insertInPlace "b" 2 ["a"]).2 =
      .error (.cycleDetected "b") ∧
    (((Catalog.empty : Catalog Nat).insertInPlace "a" 1 ["b"]).1.insertInPlace "b" 2 ["a"]).1 =
      ((Catalog.empty : Catalog Nat).insertInPlace "a" 1 ["b"]).1 ∧
    ∀ x, (((Catalog.empty : Catalog Nat).insertInPlace "a" 1 ["b"]).1.insertInPlace
        "b" 2 ["a"]).1.values.contains x =
      (((Catalog.empty : Catalog Nat).insertInPlace "a" 1 ["b"]).1.insertInPlace
        "b" 2 ["a"]).1.graph.contains x := by
  have hgraph :
      (((Graph.empty.addInPlace "top" ["mid"]).1.addInPlace "mid" ["bottom"]).1.addInPlace
        "bottom" ["unrelated", "top"]).2 = .error (.cycleDetected "bottom") := rfl
  have hcat : (((Catalog.empty : Catalog Nat).insertInPlace "a" 1 ["b"]).1.insertInPlace
      "b" 2 ["a"]).2 = .error (.cycleDetected "b") := rfl
  exact ⟨hgraph, refused_insertion_changes_nothing.2.1 _ _ _ _ hgraph, hcat,
    refused_insertion_changes_nothing.2.2.2.1 _ _ _ _ _ _ hcat,
    refused_insertion_changes_nothing.2.2.2.2 _ _
      (.insert "b" 2 ["a"] (.insert "a" 1 ["b"] .empty))⟩

end DevstackConf
