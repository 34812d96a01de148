import DevstackConf.Proofs.Graph.Sweep

/-!
# Insertion refuses exactly the cycles

`Graph.add n deps` reserves `n` with no edges and then records the edges to `deps` one at a
time. Before each edge it asks whether `n` is the dependency or lies in the dependency's soft
closure, computed in the graph built so far, where `n` already holds part of its edges. The
answer does not depend on those edges: a path from another name back to `n` can stop the first
time it arrives at `n`, so it never leaves `n` and is a path of the graph before the call.

So an insertion of a new name fails exactly when one of its dependencies is the name itself or
reaches it, whatever the order of the dependencies; otherwise the name is added with the set of
its dependencies. Adding such a name closes no cycle, so every graph built by insertions from
the empty graph is acyclic. `add_refuses_exactly_cycles` states both halves.
-/

namespace DevstackConf

namespace Graph

/-- No name reaches itself. -/
def Acyclic (g : Graph) : Prop := ∀ x, ¬ g.Reaches x x

/-- The graphs built from the empty graph by a sequence of insertions. A refused insertion
returns an error and leaves the graph as it was, so only accepted ones lead to a new graph. -/
inductive Built : Graph → Prop
  | empty : Built Graph.empty
  | add {g g' : Graph} {n : String} {deps : List String} :
      Built g → g.add n deps = .ok g' → Built g'

theorem mem_of_edge {g : Graph} {x y : String} (h : g.Edge x y) : x ∈ g.deps := by
  simpa [contains] using contains_of_edge h

theorem edge_insert_iff {g : Graph} {n x y : String} {S : NameSet} :
    (⟨g.deps.insert n S⟩ : Graph).Edge x y ↔ (x = n ∧ y ∈ S) ∨ (x ≠ n ∧ g.Edge x y) := by
  by_cases hx : x = n
  · subst hx
    simp [Edge]
  · simp [Edge, Std.ExtTreeMap.getElem?_insert, Ne.symm hx, hx]

/-- Adding a new name keeps every path of the graph. -/
theorem reaches_insert_of_reaches {g : Graph} {n x y : String} {S : NameSet} (hn : n ∉ g.deps)
    (h : g.Reaches x y) : (⟨g.deps.insert n S⟩ : Graph).Reaches x y := by
  refine Relation.TransGen.mono (fun a b hab => ?_) _ _ h
  have ha : a ≠ n := fun han => hn (han ▸ mem_of_edge hab)
  exact edge_insert_iff.mpr (.inr ⟨ha, hab⟩)

/-- A path from another name to the new name `n` may stop the first time it arrives at `n`, so it
uses no edge out of `n`: it is a path of the graph before. -/
theorem reaches_of_reaches_insert {g : Graph} {n x : String} {S : NameSet} (hx : x ≠ n)
    (h : (⟨g.deps.insert n S⟩ : Graph).Reaches x n) : g.Reaches x n := by
  revert hx
  induction h using Relation.TransGen.head_induction_on with
  | single hxn =>
      intro hx
      exact .single ((edge_insert_iff.mp hxn).resolve_left fun h => hx h.1).2
  | @head x z hxz _ ih =>
      intro hx
      have hxz' := ((edge_insert_iff.mp hxz).resolve_left fun h => hx h.1).2
      by_cases hz : z = n
      · exact .single (hz ▸ hxz')
      · exact .head hxz' (ih hz)

/-- A path of the graph with the new name `n` is a path of the graph before, or it passes
through `n`. -/
theorem reaches_insert_cases {g : Graph} {n x y : String} {S : NameSet} (hn : n ∉ g.deps)
    (h : (⟨g.deps.insert n S⟩ : Graph).Reaches x y) :
    g.Reaches x y ∨ (Relation.ReflTransGen (⟨g.deps.insert n S⟩ : Graph).Edge x n ∧
      (⟨g.deps.insert n S⟩ : Graph).Reaches n y) := by
  induction h with
  | single hxy =>
      rcases edge_insert_iff.mp hxy with ⟨rfl, -⟩ | ⟨-, hxy'⟩
      · exact .inr ⟨.refl, .single hxy⟩
      · exact .inl (.single hxy')
  | @tail z y _ hzy ih =>
      rcases edge_insert_iff.mp hzy with ⟨rfl, -⟩ | ⟨-, hzy'⟩
      · -- the last edge leaves `n`
        rcases ih with hxz | ⟨hxn, -⟩
        · exact .inr ⟨(reaches_insert_of_reaches hn hxz).to_reflTransGen, .single hzy⟩
        · exact .inr ⟨hxn, .single hzy⟩
      · rcases ih with hxz | ⟨hxn, hnz⟩
        · exact .inl (.tail hxz hzy')
        · exact .inr ⟨hxn, .tail hnz hzy⟩

/-- Adding a new name `n` whose dependencies neither are `n` nor reach `n` keeps a graph
acyclic. -/
theorem Acyclic.insert {g : Graph} {n : String} {S : NameSet} (hg : g.Acyclic) (hn : n ∉ g.deps)
    (hS : ∀ d ∈ S, d ≠ n ∧ ¬ g.Reaches d n) : (⟨g.deps.insert n S⟩ : Graph).Acyclic := by
  intro x hx
  rcases reaches_insert_cases hn hx with hxx | ⟨hxn, hnx⟩
  · exact hg x hxx
  · -- a cycle through `n` leaves `n` along a dependency `d` and comes back to `n`
    obtain ⟨d, hnd, hdn⟩ := Relation.TransGen.head'_iff.mp (hnx.trans_left hxn)
    have hd : d ∈ S := by
      rcases edge_insert_iff.mp hnd with ⟨-, hd⟩ | ⟨hne, -⟩
      · exact hd
      · exact absurd rfl hne
    rcases Relation.reflTransGen_iff_eq_or_transGen.mp hdn with hnd' | hdn'
    · exact (hS d hd).1 hnd'.symm
    · exact (hS d hd).2 (reaches_of_reaches_insert (hS d hd).1 hdn')

theorem addEdge_insert {g : Graph} {n d : String} {S : NameSet} :
    (⟨g.deps.insert n S⟩ : Graph).addEdge n d = ⟨g.deps.insert n (S.insert d)⟩ := by
  rw [addEdge, Graph.mk.injEq]
  apply Std.ExtTreeMap.ext_getElem?
  intro k
  by_cases hk : n = k
  · subst hk
    simp
  · simp [Std.ExtTreeMap.getElem?_modify, Std.ExtTreeMap.getElem?_insert, hk]

/-- One edge of `link`: the soft closure query never fails and finds `ancestors`, so the check
asks whether `n` is the dependency or among the names the dependency reaches. -/
theorem link_cons (n d : String) (g : Graph) (rest : List String) :
    link n g (d :: rest) =
      if d == n || (g.ancestors d).contains n then .error (.cycleDetected n)
      else link n (g.addEdge n d) rest := by
  rw [link, ancestorsBy_soft]
  dsimp only [bind, Except.bind]
  rw [NameSet.contains_insert]

/-- One edge of `linkInPlace`, with the same check as `link_cons`. -/
theorem linkInPlace_cons (n d : String) (g : Graph) (rest : List String) :
    linkInPlace n g (d :: rest) =
      if d == n || (g.ancestors d).contains n then (⟨g.deps.erase n⟩, .error (.cycleDetected n))
      else linkInPlace n (g.addEdge n d) rest := by
  rw [linkInPlace, ancestorsBy_soft]
  dsimp only
  rw [NameSet.contains_insert]

/-- The check made before the edge from the new name `n` to `d` is recorded does not depend on
the edges of `n` recorded before it. -/
theorem closes_cycle_iff {g : Graph} {n d : String} {S : NameSet} (hn : n ∉ g.deps) :
    (d == n || ((⟨g.deps.insert n S⟩ : Graph).ancestors d).contains n) = true ↔
      d = n ∨ g.Reaches d n := by
  by_cases hd : d = n
  · simp [hd]
  · rw [Bool.or_eq_true, beq_iff_eq, Std.ExtTreeSet.contains_iff_mem, mem_ancestors_iff]
    simp only [hd, false_or]
    exact ⟨reaches_of_reaches_insert hd, reaches_insert_of_reaches hn⟩

theorem link_of_closes {g : Graph} {n : String} (hn : n ∉ g.deps) :
    ∀ (deps : List String) (S : NameSet), (∃ d ∈ deps, d = n ∨ g.Reaches d n) →
      link n ⟨g.deps.insert n S⟩ deps = .error (.cycleDetected n)
  | [], _, ⟨_, hd, _⟩ => absurd hd List.not_mem_nil
  | d :: rest, S, ⟨d', hd', hcyc⟩ => by
      rw [link_cons]
      by_cases hcheck : (d == n || ((⟨g.deps.insert n S⟩ : Graph).ancestors d).contains n) = true
      · rw [if_pos hcheck]
      · rw [if_neg hcheck, addEdge_insert]
        rcases List.mem_cons.mp hd' with rfl | hrest
        · exact absurd ((closes_cycle_iff hn).mpr hcyc) hcheck
        · exact link_of_closes hn rest _ ⟨d', hrest, hcyc⟩

theorem link_of_not_closes {g : Graph} {n : String} (hn : n ∉ g.deps) :
    ∀ (deps : List String) (S : NameSet), (¬ ∃ d ∈ deps, d = n ∨ g.Reaches d n) →
      link n ⟨g.deps.insert n S⟩ deps = .ok ⟨g.deps.insert n (S.insertMany deps)⟩
  | [], S, _ => by rw [link, Std.ExtTreeSet.insertMany_nil]
  | d :: rest, S, hfree => by
      have hcheck : ¬ (d == n || ((⟨g.deps.insert n S⟩ : Graph).ancestors d).contains n) = true :=
        fun h => hfree ⟨d, List.mem_cons_self, (closes_cycle_iff hn).mp h⟩
      have hrest : ¬ ∃ d ∈ rest, d = n ∨ g.Reaches d n :=
        fun ⟨d', hd', h⟩ => hfree ⟨d', List.mem_cons_of_mem d hd', h⟩
      rw [link_cons, if_neg hcheck, addEdge_insert, link_of_not_closes hn rest _ hrest,
        Std.ExtTreeSet.insertMany_cons]

/-- Adding a new name fails, naming it, when one of its dependencies is the name or reaches it. -/
theorem add_of_closes {g : Graph} {n : String} {deps : List String} (hn : g.contains n = false)
    (h : ∃ d ∈ deps, d = n ∨ g.Reaches d n) : g.add n deps = .error (.cycleDetected n) := by
  simp only [add, hn, Bool.false_eq_true, if_false]
  exact link_of_closes (contains_eq_false_iff.mp hn) deps ∅ h

/-- Adding a new name none of whose dependencies is the name or reaches it records the name with
the set of its dependencies. -/
theorem add_of_not_closes {g : Graph} {n : String} {deps : List String} (hn : g.contains n = false)
    (h : ¬ ∃ d ∈ deps, d = n ∨ g.Reaches d n) :
    g.add n deps = .ok ⟨g.deps.insert n (.ofList deps compare)⟩ := by
  simp only [add, hn, Bool.false_eq_true, if_false]
  rw [link_of_not_closes (contains_eq_false_iff.mp hn) deps ∅ h,
    Std.ExtTreeSet.ofList_eq_insertMany_empty]

theorem add_eq_cycleDetected_iff {g : Graph} {n : String} {deps : List String}
    (hn : g.contains n = false) :
    g.add n deps = .error (.cycleDetected n) ↔ ∃ d ∈ deps, d = n ∨ g.Reaches d n := by
  refine ⟨fun h => ?_, add_of_closes hn⟩
  by_cases hcyc : ∃ d ∈ deps, d = n ∨ g.Reaches d n
  · exact hcyc
  · rw [add_of_not_closes hn hcyc] at h
    cases h

/-- A new name is refused only for a cycle. -/
theorem add_eq_error_of_fresh {g : Graph} {n : String} {deps : List String} {e : GraphError}
    (hn : g.contains n = false) (h : g.add n deps = .error e) : e = .cycleDetected n := by
  by_cases hcyc : ∃ d ∈ deps, d = n ∨ g.Reaches d n
  · rw [add_of_closes hn hcyc, Except.error.injEq] at h
    exact h.symm
  · rw [add_of_not_closes hn hcyc] at h
    cases h

theorem contains_eq_false_of_add_eq_ok {g g' : Graph} {n : String} {deps : List String}
    (h : g.add n deps = .ok g') : g.contains n = false := by
  cases hn : g.contains n with
  | false => rfl
  | true => simp [add, hn] at h

/-- An accepted insertion adds a new name with the set of its dependencies, none of which is the
name or reaches it. -/
theorem add_eq_ok_iff {g g' : Graph} {n : String} {deps : List String} :
    g.add n deps = .ok g' ↔ g.contains n = false ∧ (¬ ∃ d ∈ deps, d = n ∨ g.Reaches d n) ∧
      g' = ⟨g.deps.insert n (.ofList deps compare)⟩ := by
  constructor
  · intro h
    have hn := contains_eq_false_of_add_eq_ok h
    have hfree : ¬ ∃ d ∈ deps, d = n ∨ g.Reaches d n := fun hc => by
      rw [add_of_closes hn hc] at h
      cases h
    rw [add_of_not_closes hn hfree, Except.ok.injEq] at h
    exact ⟨hn, hfree, h.symm⟩
  · rintro ⟨hn, hfree, rfl⟩
    exact add_of_not_closes hn hfree

theorem acyclic_empty : Graph.empty.Acyclic := by
  intro x hx
  obtain ⟨y, ⟨ds, hds, -⟩, -⟩ := Relation.TransGen.head'_iff.mp hx
  simp [Graph.empty] at hds

theorem Built.acyclic {g : Graph} (h : g.Built) : g.Acyclic := by
  induction h with
  | empty => exact acyclic_empty
  | add _ hadd ih =>
      obtain ⟨hn, hfree, rfl⟩ := add_eq_ok_iff.mp hadd
      refine ih.insert (contains_eq_false_iff.mp hn) fun d hd => ?_
      have hd' : d ∈ _ := (by simpa using hd : _)
      exact ⟨fun h => hfree ⟨d, hd', .inl h⟩, fun h => hfree ⟨d, hd', .inr h⟩⟩

/-- Every graph built by insertions is acyclic, and adding a new name is refused, naming it,
exactly when one of its dependencies is the name itself or reaches it; otherwise the name is
recorded with the set of its dependencies. -/
theorem add_refuses_exactly_cycles :
    (∀ g : Graph, g.Built → g.Acyclic) ∧
    ∀ (g : Graph) (n : String) (deps : List String), g.contains n = false →
      (g.add n deps = .error (.cycleDetected n) ↔ ∃ d ∈ deps, d = n ∨ g.Reaches d n) ∧
      ((¬ ∃ d ∈ deps, d = n ∨ g.Reaches d n) →
        g.add n deps = .ok ⟨g.deps.insert n (.ofList deps compare)⟩) :=
  ⟨fun _ hg => hg.acyclic, fun _ _ _ hn => ⟨add_eq_cycleDetected_iff hn, add_of_not_closes hn⟩⟩

/-- Once `a` depends on `b`, which is not an item yet, adding `b` depending on `a` closes a cycle
through the edge recorded earlier, and is refused. -/
theorem add_refuses_edge_back :
    (⟨(∅ : Std.ExtTreeMap String NameSet compare).insert "a" (.ofList ["b"] compare)⟩ :
        Graph).Acyclic ∧
      (⟨(∅ : Std.ExtTreeMap String NameSet compare).insert "a" (.ofList ["b"] compare)⟩ :
        Graph).add "b" ["a"] = .error (.cycleDetected "b") := by
  have hbuilt : (⟨(∅ : Std.ExtTreeMap String NameSet compare).insert "a"
      (.ofList ["b"] compare)⟩ : Graph).Built := @Built.add _ _ "a" ["b"] .empty rfl
  refine ⟨add_refuses_exactly_cycles.1 _ hbuilt,
    ((add_refuses_exactly_cycles.2 _ "b" ["a"] (by decide)).1).mpr ⟨"a", by simp, .inr ?_⟩⟩
  exact .single ⟨.ofList ["b"] compare, Std.ExtTreeMap.getElem?_insert_self, by simp⟩

end Graph

end DevstackConf
