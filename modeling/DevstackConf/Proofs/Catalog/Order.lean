import DevstackConf.Catalog
import DevstackConf.Proofs.Graph.Stack

/-!
# Catalogs list their items in one depth-first walk

`Catalog.ordered` starts at each stored name in ascending order. For a name not yet listed it
computes the name's dependencies afresh, with a walk of its own (the stack loop
`Graph.dependenciesByStack`, which returns what `Graph.dependenciesOf` does), and lists those not
yet listed, then the name. `Catalog.DepthFirst` is the plain reading of the same
order: one walk over all stored names, one set of entered names for the whole run.

They agree on every catalog built by insertions (`ordered_eq_ok_iff_depthFirst`). Between two
starting names the listed names are closed under dependencies, so a fresh walk enters listed
names only below listed names, and what it emits there is dropped again
(`Graph.PostOrder.filter_closed`); the name the fresh walk starts from is never met inside it,
since the graph is acyclic (`Graph.PostOrder.insert_unreached`).

From the walk follows the emission contract (`ordered_lists_items_after_dependencies`): every
stored name is listed once with its value, after each of its stored dependencies.
-/

namespace DevstackConf

namespace Catalog

variable {α : Type}

/-- The catalogs built from the empty catalog by a sequence of insertions. A refused insertion
returns an error and keeps the catalog as it was. -/
inductive Built : Catalog α → Prop
  | empty : Built Catalog.empty
  | insert {c c' : Catalog α} {n : String} {v : α} {deps : List String} :
      Built c → c.insert n v deps = .ok c' → Built c'

/-- `out` is the catalog listed by one depth-first walk over all its stored names, in ascending
order. The walk keeps one set of entered names for the whole run, enters only stored names and
lists each name after the stored dependencies it leads to, paired with its stored value. -/
def DepthFirst (c : Catalog α) (out : List (String × α)) : Prop :=
  ∃ seen, c.graph.PostOrder c.values.contains c.values.keys ∅ seen (out.map Prod.fst) ∧
    ∀ p ∈ out, c.values[p.1]? = some p.2

theorem insert_eq_ok_iff {c c' : Catalog α} {n : String} {v : α} {deps : List String} :
    c.insert n v deps = .ok c' ↔ c.values.contains n = false ∧
      ∃ g, c.graph.add n deps = .ok g ∧ c' = ⟨g, c.values.insert n v⟩ := by
  unfold insert
  cases hn : c.values.contains n with
  | true => simp
  | false =>
      cases hadd : c.graph.add n deps with
      | error e => simp
      | ok g => simp [eq_comm]

/-- In a built catalog the stored names are the items of the graph, and the graph is built by
insertions too. -/
theorem Built.graph {c : Catalog α} (hc : c.Built) :
    c.graph.Built ∧ ∀ x, c.values.contains x = c.graph.contains x := by
  induction hc with
  | empty => exact ⟨.empty, fun x => by simp [Catalog.empty, Graph.empty, Graph.contains]⟩
  | insert _ hins ih =>
      obtain ⟨-, g, hadd, rfl⟩ := insert_eq_ok_iff.mp hins
      obtain ⟨-, -, rfl⟩ := Graph.add_eq_ok_iff.mp hadd
      refine ⟨.add ih.1 hadd, fun x => ?_⟩
      have hx := ih.2 x
      simp only [Graph.contains] at hx ⊢
      simp [Std.ExtTreeMap.contains_insert, hx]

theorem Built.item_eq {c : Catalog α} (hc : c.Built) : c.values.contains = c.graph.contains :=
  funext hc.graph.2

/-- Listing names that occur once each: a name already listed is passed over, any other is
listed with its stored value. -/
theorem foldlM_emit {c : Catalog α} :
    ∀ (items : List String) (S : NameSet) (o : List (String × α)), items.Nodup →
      (∀ x ∈ items, x ∉ S → c.values.contains x = true) →
      ∃ S' pairs, items.foldlM c.emit (S, o) = .ok (S', o ++ pairs) ∧
        (∀ x, x ∈ S' ↔ x ∈ S ∨ x ∈ items) ∧ pairs.map Prod.fst = items.filter (· ∉ S) ∧
        ∀ p ∈ pairs, c.values[p.1]? = some p.2
  | [], S, o, _, _ => ⟨S, [], by rw [List.foldlM_nil, List.append_nil]; rfl, by simp, by simp,
      by simp⟩
  | x :: items, S, o, hnd, hstored => by
      have hrest : ∀ y ∈ items, y ∉ S → c.values.contains y = true :=
        fun y hy => hstored y (List.mem_cons_of_mem _ hy)
      have hxi : x ∉ items := (List.nodup_cons.mp hnd).1
      rw [List.foldlM_cons]
      by_cases hx : x ∈ S
      · have hemit : c.emit (S, o) x = .ok (S, o) := by simp [emit, hx]
        obtain ⟨S', pairs, hrun, hS', hpairs, hvals⟩ :=
          foldlM_emit items S o (List.nodup_cons.mp hnd).2 hrest
        refine ⟨S', pairs, by rw [hemit]; exact hrun, fun y => ?_, ?_, hvals⟩
        · rw [hS']
          by_cases hy : y = x
          · subst hy
            simp [hx]
          · simp [hy]
        · simpa [List.filter_cons, hx] using hpairs
      · obtain ⟨v, hv⟩ : ∃ v, c.values[x]? = some v :=
          Option.isSome_iff_exists.mp
            (Std.ExtTreeMap.contains_eq_isSome_getElem?.symm.trans (hstored x List.mem_cons_self hx))
        have hemit : c.emit (S, o) x = .ok (S.insert x, o ++ [(x, v)]) := by simp [emit, hx, hv]
        obtain ⟨S', pairs, hrun, hS', hpairs, hvals⟩ :=
          foldlM_emit items (S.insert x) (o ++ [(x, v)]) (List.nodup_cons.mp hnd).2
            fun y hy hyS => hrest y hy fun h => hyS (by simp [h])
        refine ⟨S', (x, v) :: pairs, by rw [hemit, List.append_assoc] at *; exact hrun,
          fun y => ?_, ?_, ?_⟩
        · rw [hS']
          simp only [NameSet.mem_insert_iff, List.mem_cons]
          grind
        · -- `x` does not occur again, so listing it first changes nothing for the rest
          have hsame : items.filter (· ∉ S.insert x) = items.filter (· ∉ S) := by
            apply List.filter_congr
            intro y hy
            have hyx : x ≠ y := fun h => hxi (h ▸ hy)
            simp [hyx]
          rw [List.map_cons, hpairs, hsame, List.filter_cons_of_pos (by simpa using hx)]
        · intro p hp
          rcases List.mem_cons.mp hp with rfl | hp
          · exact hv
          · exact hvals p hp

/-- Starting at a stored name `n` while the listed names `S` are closed under dependencies, the
catalog lists `n` with what the shared walk from `S` emits at `n`, and the listed names become
the names that walk has entered. -/
theorem emitWithDependencies_postOrder {c : Catalog α} (hc : c.Built) {S : NameSet}
    (hS : c.graph.Closed c.graph.contains S) {n : String} (hn : c.graph.contains n = true)
    (o : List (String × α)) :
    ∃ S' pairs, c.emitWithDependencies (S, o) n = .ok (S', o ++ pairs) ∧
      c.graph.PostOrder c.graph.contains [n] S S' (pairs.map Prod.fst) ∧
      ∀ p ∈ pairs, c.values[p.1]? = some p.2 := by
  by_cases hnS : n ∈ S
  · exact ⟨S, [], by simp [emitWithDependencies, hnS], .skip hnS (.nil S), by simp⟩
  obtain ⟨E, pending, hdeps, hfresh⟩ := Graph.dependenciesOf_postOrder hn
  -- the stack loop that the catalog runs returns the same walk
  rw [← Graph.dependenciesByStack_eq_dependenciesOf] at hdeps
  have hacyc := hc.graph.1.acyclic
  -- the fresh walk never meets `n`, so it may as well start with `n` entered
  have hunreached : ∀ m ∈ c.graph.kids c.graph.contains n, m ≠ n ∧ ¬ c.graph.Reaches m n := by
    intro m hm
    have hedge := Graph.edge_of_mem_kids hm
    refine ⟨fun hmn => hacyc n (.single (hmn ▸ hedge)), fun hmn => hacyc n (.head hedge hmn)⟩
  have hfresh' := hfresh.insert_unreached hunreached
  -- the shared walk has `S` and `n` entered; the two differ only inside `S`
  obtain ⟨V, hshared, -⟩ := hfresh'.filter_closed hS (V := S.insert n)
    (fun x hx => by simp [hx]) (fun x hx => by simp [hx])
  obtain ⟨hnodup, hfreshn⟩ := hfresh'.nodup
  have hnd : (pending ++ [n]).Nodup := by
    refine List.nodup_append.mpr ⟨hnodup, by simp, ?_⟩
    intro a ha b hb hab
    rw [List.mem_singleton] at hb
    exact hfreshn a ha (by simp [hab, hb])
  have hstored : ∀ x ∈ pending ++ [n], x ∉ S → c.values.contains x = true := by
    intro x hx _
    rw [hc.graph.2]
    rcases List.mem_append.mp hx with hx | hx
    · rcases hfresh.mem_or_item hx with hk | hk
      · exact (List.mem_filter.mp hk).2
      · exact hk
    · rw [List.mem_singleton.mp hx]
      exact hn
  obtain ⟨S', pairs, hemit, hS', hpairs, hvals⟩ := foldlM_emit (pending ++ [n]) S o hnd hstored
  have hV : S' = V := by
    ext x
    rw [hS', hshared.mem_entered_iff]
    simp only [NameSet.mem_insert_iff, List.mem_append, List.mem_singleton, List.mem_filter,
      decide_eq_true_eq]
    grind
  refine ⟨S', pairs, ?_, ?_, hvals⟩
  · simp only [emitWithDependencies, NameSet.contains_eq_false_iff.mpr hnS, Bool.false_eq_true,
      if_false, hdeps]
    exact hemit
  · rw [hpairs, List.filter_append, hV]
    simpa [hnS] using hshared.enter hnS (.nil V)

/-- The loop over the starting names is the shared walk over them, as long as they are stored and
the listed names start closed under dependencies. -/
theorem foldlM_emitWithDependencies_postOrder {c : Catalog α} (hc : c.Built) :
    ∀ (ns : List String) (S : NameSet) (o : List (String × α)),
      (∀ n ∈ ns, c.graph.contains n = true) → c.graph.Closed c.graph.contains S →
      ∃ S' pairs, ns.foldlM c.emitWithDependencies (S, o) = .ok (S', o ++ pairs) ∧
        c.graph.PostOrder c.graph.contains ns S S' (pairs.map Prod.fst) ∧
        ∀ p ∈ pairs, c.values[p.1]? = some p.2
  | [], S, o, _, _ => ⟨S, [], by rw [List.foldlM_nil, List.append_nil]; rfl, .nil S, by simp⟩
  | n :: ns, S, o, hns, hS => by
      obtain ⟨S₁, pairs₁, hstep, hwalk₁, hvals₁⟩ :=
        emitWithDependencies_postOrder hc hS (hns n List.mem_cons_self) o
      obtain ⟨S', pairs₂, hrun, hwalk₂, hvals₂⟩ :=
        foldlM_emitWithDependencies_postOrder hc ns S₁ (o ++ pairs₁)
          (fun m hm => hns m (List.mem_cons_of_mem _ hm)) (hwalk₁.closed hS)
      refine ⟨S', pairs₁ ++ pairs₂, ?_, ?_, ?_⟩
      · rw [List.foldlM_cons, hstep, ← List.append_assoc]
        exact hrun
      · rw [List.map_append]
        exact hwalk₁.cons_of_single hwalk₂
      · intro p hp
        rcases List.mem_append.mp hp with hp | hp
        · exact hvals₁ p hp
        · exact hvals₂ p hp

theorem eq_of_map_fst_eq {c : Catalog α} :
    ∀ {l₁ l₂ : List (String × α)}, l₁.map Prod.fst = l₂.map Prod.fst →
      (∀ p ∈ l₁, c.values[p.1]? = some p.2) → (∀ p ∈ l₂, c.values[p.1]? = some p.2) → l₁ = l₂
  | [], [], _, _, _ => rfl
  | p :: l₁, q :: l₂, h, h₁, h₂ => by
      rw [List.map_cons, List.map_cons, List.cons.injEq] at h
      have hv : p.2 = q.2 := by
        have hp := h₁ p List.mem_cons_self
        rw [h.1, h₂ q List.mem_cons_self, Option.some.injEq] at hp
        exact hp.symm
      rw [Prod.ext h.1 hv, eq_of_map_fst_eq h.2 (fun r hr => h₁ r (List.mem_cons_of_mem _ hr))
        (fun r hr => h₂ r (List.mem_cons_of_mem _ hr))]

/-- A built catalog is listed, and `ordered` lists it in the order of the depth-first walk. -/
theorem exists_ordered_depthFirst {c : Catalog α} (hc : c.Built) :
    ∃ out, c.ordered = .ok out ∧ c.DepthFirst out := by
  have hkeys : ∀ n ∈ c.values.keys, c.graph.contains n = true := fun n hn => by
    rw [← hc.graph.2]
    simpa using hn
  obtain ⟨S', pairs, hrun, hwalk, hvals⟩ :=
    foldlM_emitWithDependencies_postOrder hc c.values.keys ∅ [] hkeys
      fun x hx => absurd hx Std.ExtTreeSet.not_mem_empty
  refine ⟨pairs, by simp [ordered, hrun], S', ?_, hvals⟩
  rw [hc.item_eq]
  exact hwalk

/-- On every catalog built by insertions, `ordered` is the depth-first walk: it succeeds, and its
result is exactly the list that one walk over all stored names produces. -/
theorem ordered_eq_ok_iff_depthFirst {c : Catalog α} (hc : c.Built) (out : List (String × α)) :
    c.ordered = .ok out ↔ c.DepthFirst out := by
  obtain ⟨pairs, hord, seen, hwalk, hvals⟩ := exists_ordered_depthFirst hc
  constructor
  · intro h
    rw [hord, Except.ok.injEq] at h
    exact h ▸ ⟨seen, hwalk, hvals⟩
  · rintro ⟨seen', hwalk', hvals'⟩
    rw [hord, eq_of_map_fst_eq (hwalk.det hwalk').2 hvals hvals']

theorem mem_keys_iff_contains {c : Catalog α} {x : String} :
    x ∈ c.values.keys ↔ c.values.contains x = true := by
  simp

/-- Every built catalog is listed, each stored name once with its stored value, and after each of
its dependencies that is stored. -/
theorem ordered_lists_items_after_dependencies {c : Catalog α} (hc : c.Built) :
    ∃ out, c.ordered = .ok out ∧ (out.map Prod.fst).Perm c.values.keys ∧
      (∀ p ∈ out, c.values[p.1]? = some p.2) ∧
      ∀ x y, c.graph.Edge x y → c.values.contains y = true → Precedes y x (out.map Prod.fst) := by
  obtain ⟨out, hord, seen, hwalk, hvals⟩ := exists_ordered_depthFirst hc
  rw [hc.item_eq] at hwalk
  -- the walk starts with nothing entered, so what it emits is what it enters
  have hlisted : ∀ x, x ∈ out.map Prod.fst ↔ x ∈ c.values.keys := by
    intro x
    constructor
    · intro hx
      rcases hwalk.mem_or_item hx with hk | hk
      · exact hk
      · rw [mem_keys_iff_contains, hc.graph.2]
        exact hk
    · intro hx
      rcases (hwalk.mem_entered_iff x).mp (hwalk.mem_of_mem hx) with h | h
      · exact absurd h Std.ExtTreeSet.not_mem_empty
      · exact h
  refine ⟨out, hord, (List.perm_ext_iff_of_nodup hwalk.nodup.1 Std.ExtTreeMap.nodup_keys).mpr
    hlisted, hvals, fun x y hxy hy => ?_⟩
  have hx : x ∈ out.map Prod.fst := by
    rw [hlisted, mem_keys_iff_contains, hc.graph.2]
    exact Graph.contains_of_edge hxy
  have hkid : y ∈ c.graph.kids c.graph.contains x := by
    obtain ⟨ds, hds, hy'⟩ := hxy
    rw [hc.graph.2] at hy
    simpa [Graph.kids, hds, hy'] using hy
  have hfirst := hwalk.precedes_of_mem_kids hc.graph.1.acyclic (fun _ => False)
    (fun p hp => absurd hp Std.ExtTreeSet.not_mem_empty) x hx y hkid
  exact hfirst.resolve_left id

end Catalog

end DevstackConf
