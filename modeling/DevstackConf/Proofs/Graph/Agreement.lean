import DevstackConf.Proofs.Graph.Sweep
import DevstackConf.Proofs.Rollback

/-!
# The dependency walk and the closure query agree

`Graph.dependenciesOf n` walks depth first from the item dependencies of `n`, with nothing entered
at the start, and emits each item it enters once. `Graph.ancestorsBy n .soft` walks breadth first
and records every name it reaches, items or not. On every graph the first lists, each once,
exactly the items the second records (`dependenciesOf_eq_ok_iff`): what the walk emits is
reachable from a name it was given, and the names it enters are closed under item dependencies,
so every item reachable from `n` is entered. A path to an item passes only through items, since
only items have edges.

In a graph reached by insertions, which is acyclic, `n` does not reach itself, so the list never
holds `n`.

The stack loop that catalogs run, `Graph.dependenciesByStack`, returns what the walk returns on
every graph (`Graph.dependenciesByStack_eq_dependenciesOf`), so it is the same post-order walk and,
on a graph reached by insertions, lists every dependency before the names that depend on it
(`stack_walk_is_postOrder_walk`).
-/

namespace DevstackConf

namespace Graph

theorem mem_kids_of_edge {g : Graph} {item : String → Bool} {x y : String} (h : g.Edge x y)
    (hy : item y = true) : y ∈ g.kids item x := by
  obtain ⟨ds, hds, hyd⟩ := h
  simpa [kids, hds, hyd] using hy

/-- Everything a walk emits is reached from a name it was given. -/
theorem PostOrder.reflTransGen_of_mem {g : Graph} {item : String → Bool} {ns : List String}
    {E E' : NameSet} {out : List String} (h : g.PostOrder item ns E E' out) {y : String}
    (hy : y ∈ out) : ∃ m ∈ ns, Relation.ReflTransGen g.Edge m y := by
  induction h with
  | nil => exact absurd hy List.not_mem_nil
  | skip _ _ ih =>
      obtain ⟨m, hm, hmy⟩ := ih hy
      exact ⟨m, List.mem_cons_of_mem _ hm, hmy⟩
  | @enter n ns E E₁ E' out₁ out₂ _ _ _ ih₁ ih₂ =>
      rcases List.mem_append.mp hy with hy | hy
      · -- below `n`: reached from a kid of `n`, so from `n`
        obtain ⟨m, hm, hmy⟩ := ih₁ hy
        exact ⟨n, List.mem_cons_self, .head (edge_of_mem_kids hm) hmy⟩
      rcases List.mem_cons.mp hy with rfl | hy
      · exact ⟨y, List.mem_cons_self, .refl⟩
      · obtain ⟨m, hm, hmy⟩ := ih₂ hy
        exact ⟨m, List.mem_cons_of_mem _ hm, hmy⟩

/-- A walk from the item dependencies of `n`, with nothing entered at the start, emits every item
reachable from `n`. -/
theorem PostOrder.mem_of_reaches {g : Graph} {n : String} {E : NameSet} {out : List String}
    (h : g.PostOrder g.contains (g.kids g.contains n) ∅ E out) {y : String} (hny : g.Reaches n y)
    (hy : g.contains y = true) : y ∈ out := by
  have hclosed : g.Closed g.contains E :=
    h.closed fun x hx => absurd hx Std.ExtTreeSet.not_mem_empty
  have hentered : ∀ x, x ∈ E → x ∈ out := fun x hx =>
    ((h.mem_entered_iff x).mp hx).resolve_left Std.ExtTreeSet.not_mem_empty
  apply hentered
  -- induction along the path: each name on it is an item, entered with its dependencies
  induction hny with
  | single hny => exact h.mem_of_mem (mem_kids_of_edge hny hy)
  | @tail z y _ hzy ih => exact hclosed z (ih (contains_of_edge hzy)) y (mem_kids_of_edge hzy hy)

/-- For an item `n` of any graph, `dependenciesOf n` lists, once each, exactly the items reachable
from `n`. -/
theorem dependenciesOf_eq_ok_iff {g : Graph} {n : String} (hn : n ∈ g.deps) :
    ∃ out, g.dependenciesOf n = .ok out ∧ out.Nodup ∧
      ∀ y, y ∈ out ↔ g.Reaches n y ∧ y ∈ g.deps := by
  obtain ⟨E, out, hdeps, hwalk⟩ :=
    dependenciesOf_postOrder (Std.ExtTreeMap.contains_iff_mem.mpr hn)
  refine ⟨out, hdeps, hwalk.nodup.1,
    fun y => ⟨fun hy => ⟨?_, ?_⟩, fun ⟨hny, hy⟩ => ?_⟩⟩
  · obtain ⟨m, hm, hmy⟩ := hwalk.reflTransGen_of_mem hy
    exact Relation.TransGen.head' (edge_of_mem_kids hm) hmy
  · rcases hwalk.mem_or_item hy with hk | hk
    · exact Std.ExtTreeMap.contains_iff_mem.mp (List.mem_filter.mp hk).2
    · exact Std.ExtTreeMap.contains_iff_mem.mp hk
  · exact hwalk.mem_of_reaches hny (Std.ExtTreeMap.contains_iff_mem.mpr hy)

end Graph

/-- On every graph reached by insertions, refused ones included, `dependenciesOf n` fails, naming
`n`, exactly when `n` is not an item. For an item it lists without repeats exactly the items of
the graph that the soft closure query of `n` returns, and never `n` itself. -/
theorem dependencies_are_closure_items :
    ∀ g : Graph, g.Reachable → ∀ n : String,
      (g.dependenciesOf n = .error (.unknownItem n) ↔ n ∉ g.deps) ∧
      (n ∈ g.deps → ∃ out A, g.dependenciesOf n = .ok out ∧ g.ancestorsBy n .soft = .ok A ∧
        out.Nodup ∧ (∀ y, y ∈ out ↔ y ∈ A ∧ y ∈ g.deps) ∧ n ∉ out) := by
  intro g hg n
  have hacyc := (Graph.reachable_iff_built.mp hg).acyclic
  refine ⟨⟨fun herr hn => ?_, fun hn => ?_⟩, fun hn => ?_⟩
  · obtain ⟨out, hout, -⟩ := Graph.dependenciesOf_eq_ok_iff hn
    rw [hout] at herr
    cases herr
  · exact Graph.dependenciesOf_of_not_contains (Graph.contains_eq_false_iff.mpr hn)
  · obtain ⟨out, hout, hnd, hmem⟩ := Graph.dependenciesOf_eq_ok_iff hn
    refine ⟨out, g.ancestors n, hout, Graph.ancestorsBy_soft g n, hnd, fun y => ?_,
      fun hno => hacyc n ((hmem n).mp hno).1⟩
    rw [hmem, Graph.mem_ancestors_iff]

/-- In the diamond `D → B → A`, `D → C → A`, the dependencies of `D` list `A` once, then `B`
and `C`: the items of the closure of `D`. -/
theorem dependencies_of_diamond :
    ((((Graph.empty.addInPlace "A" []).1.addInPlace "B" ["A"]).1.addInPlace "C" ["A"]).1.addInPlace
        "D" ["B", "C"]).1.dependenciesOf "D" = .ok ["A", "B", "C"] ∧
      ∃ A, ((((Graph.empty.addInPlace "A" []).1.addInPlace "B" ["A"]).1.addInPlace
          "C" ["A"]).1.addInPlace "D" ["B", "C"]).1.ancestorsBy "D" .soft = .ok A ∧
        ∀ y, y ∈ ["A", "B", "C"] ↔ y ∈ A ∧ y ∈ ((((Graph.empty.addInPlace "A" []).1.addInPlace
          "B" ["A"]).1.addInPlace "C" ["A"]).1.addInPlace "D" ["B", "C"]).1.deps := by
  have hreach : ((((Graph.empty.addInPlace "A" []).1.addInPlace "B" ["A"]).1.addInPlace
      "C" ["A"]).1.addInPlace "D" ["B", "C"]).1.Reachable :=
    .add _ _ (.add _ _ (.add _ _ (.add _ _ .empty)))
  have hdeps : ((((Graph.empty.addInPlace "A" []).1.addInPlace "B" ["A"]).1.addInPlace
      "C" ["A"]).1.addInPlace "D" ["B", "C"]).1.dependenciesOf "D" = .ok ["A", "B", "C"] := rfl
  obtain ⟨out, A, hout, hA, -, hmem, -⟩ :=
    (dependencies_are_closure_items _ hreach "D").2 (Std.ExtTreeMap.contains_iff_mem.mp rfl)
  rw [hdeps, Except.ok.injEq] at hout
  subst hout
  exact ⟨hdeps, A, hA, hmem⟩

/-- The dependency query as the stack loop runs it is the recursive post-order walk. On every
graph, cyclic or not, the loop ends with what `dependenciesOf` returns. For an item `n` that is
the walk over the item dependencies of `n`, ascending, from nothing entered, not even `n`: each
name not yet entered is entered, its own item dependencies are walked the same way, and then it
is emitted. On every graph reached by insertions, which is acyclic, each name listed comes after
every dependency of it that is an item. -/
theorem stack_walk_is_postOrder_walk :
    ∀ (g : Graph) (n : String),
      g.dependenciesByStack n = g.dependenciesOf n ∧
      (n ∈ g.deps → ∃ E out, g.dependenciesByStack n = .ok out ∧
        g.PostOrder g.contains (g.kids g.contains n) ∅ E out) ∧
      (g.Reachable → ∀ out, g.dependenciesByStack n = .ok out →
        ∀ x ∈ out, ∀ y, g.Edge x y → y ∈ g.deps → Precedes y x out) := by
  intro g n
  have hsame := Graph.dependenciesByStack_eq_dependenciesOf g n
  refine ⟨hsame, fun hn => ?_, fun hg out hout x hx y hxy hy => ?_⟩
  · rw [hsame]
    exact Graph.dependenciesOf_postOrder (Std.ExtTreeMap.contains_iff_mem.mpr hn)
  · have hn : g.contains n = true := by
      cases hc : g.contains n with
      | true => rfl
      | false => simp [hsame, Graph.dependenciesOf_of_not_contains hc] at hout
    obtain ⟨E, out', hdeps, hwalk⟩ := Graph.dependenciesOf_postOrder hn
    rw [hsame, hdeps, Except.ok.injEq] at hout
    subst hout
    -- nothing is entered when the walk starts, so no name is left out of the order
    have hprec := hwalk.precedes_of_mem_kids (Graph.reachable_iff_built.mp hg).acyclic
      (fun _ => False) (fun p hp => absurd hp Std.ExtTreeSet.not_mem_empty)
    have hkid := Graph.mem_kids_of_edge hxy (Std.ExtTreeMap.contains_iff_mem.mpr hy)
    exact (hprec x hx y hkid).resolve_left id

/-- In the graph `Z`, `B → Z`, `A → {Z, B}`, the loop lists `Z` before `B` for `A`, although `B`
sorts first among the direct dependencies of `A`. -/
theorem stack_walk_lists_dependency_first :
    (((Graph.empty.addInPlace "Z" []).1.addInPlace "B" ["Z"]).1.addInPlace "A"
        ["Z", "B"]).1.Reachable ∧
      (((Graph.empty.addInPlace "Z" []).1.addInPlace "B" ["Z"]).1.addInPlace "A"
        ["Z", "B"]).1.dependenciesByStack "A" = .ok ["Z", "B"] ∧
      Precedes "Z" "B" ["Z", "B"] := by
  have hreach : (((Graph.empty.addInPlace "Z" []).1.addInPlace "B" ["Z"]).1.addInPlace "A"
      ["Z", "B"]).1.Reachable := .add _ _ (.add _ _ (.add _ _ .empty))
  obtain ⟨hsame, -, hprec⟩ := stack_walk_is_postOrder_walk
    (((Graph.empty.addInPlace "Z" []).1.addInPlace "B" ["Z"]).1.addInPlace "A" ["Z", "B"]).1 "A"
  have hout : (((Graph.empty.addInPlace "Z" []).1.addInPlace "B" ["Z"]).1.addInPlace "A"
      ["Z", "B"]).1.dependenciesByStack "A" = .ok ["Z", "B"] := by
    rw [hsame]
    rfl
  refine ⟨hreach, hout, hprec hreach _ hout "B" (by simp) "Z" ⟨_, rfl, ?_⟩ ?_⟩
  · decide
  · exact Std.ExtTreeMap.contains_iff_mem.mp rfl

end DevstackConf
