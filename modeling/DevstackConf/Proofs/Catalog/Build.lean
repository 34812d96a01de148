import DevstackConf.Proofs.Catalog.Order

/-!
# Catalogs built from a list

Variables and plugins are both ordered by inserting a list of named values in order, each
depending on names computed from its name and value by a rule `deps`. `Catalog.insertAll` is
that fold. Its result records every pair of the list: the graph holds `graphOf deps l`, each
name with the set of its dependencies, and the values map holds the pairs.

When the names are distinct, the fold succeeds exactly when `graphOf deps l` is acyclic
(`insertAll_empty_ok_iff`), and otherwise it fails with a cycle. An insertion only refuses a
dependency that reaches back to the new name, and a dependency recorded as an edge to a name not
inserted yet takes part in the later checks, so every cycle of the whole list is found, whatever
the order. Since `graphOf` depends on the pairs only, two orders of the same pairs give the
same outcome (`insertAll_perm`).
-/

namespace DevstackConf

namespace Catalog

variable {α : Type}

/-- Inserts the pairs of `l` in order, each depending on `deps` of its name and value. -/
def insertAll (deps : String → α → List String) (c : Catalog α) (l : List (String × α)) :
    Except GraphError (Catalog α) :=
  l.foldlM (fun c p => c.insert p.1 p.2 (deps p.1 p.2)) c

/-- The graph recording each pair of `l` with the set of its dependencies. -/
def graphOf (deps : String → α → List String) (l : List (String × α)) : Graph :=
  ⟨.ofList (l.map fun p => (p.1, .ofList (deps p.1 p.2) compare)) compare⟩

theorem insertAll_nil (deps : String → α → List String) (c : Catalog α) :
    c.insertAll deps [] = .ok c := rfl

theorem insertAll_cons_of_ok {deps : String → α → List String} {c c₁ : Catalog α}
    {p : String × α} {l : List (String × α)} (h : c.insert p.1 p.2 (deps p.1 p.2) = .ok c₁) :
    c.insertAll deps (p :: l) = c₁.insertAll deps l := by
  rw [insertAll, List.foldlM_cons, h]
  rfl

theorem insertAll_cons_of_error {deps : String → α → List String} {c : Catalog α}
    {p : String × α} {l : List (String × α)} {e : GraphError}
    (h : c.insert p.1 p.2 (deps p.1 p.2) = .error e) : c.insertAll deps (p :: l) = .error e := by
  rw [insertAll, List.foldlM_cons, h]
  rfl

theorem Built.insertAll {deps : String → α → List String} :
    ∀ {c c' : Catalog α} {l : List (String × α)}, c.Built → c.insertAll deps l = .ok c' →
      c'.Built
  | _, _, [], hc, h => by
      rw [insertAll_nil, Except.ok.injEq] at h
      exact h ▸ hc
  | c, _, p :: l, hc, h => by
      cases hins : c.insert p.1 p.2 (deps p.1 p.2) with
      | error e =>
          rw [insertAll_cons_of_error hins] at h
          cases h
      | ok c₁ =>
          rw [insertAll_cons_of_ok hins] at h
          exact Built.insertAll (.insert hc hins) h

/-- An accepted fold inserts names that are distinct and new, and records every pair. -/
theorem insertAll_eq_ok {deps : String → α → List String} :
    ∀ {c c' : Catalog α} {l : List (String × α)}, c.insertAll deps l = .ok c' →
      (∀ p ∈ l, c.values.contains p.1 = false) ∧ (l.map Prod.fst).Nodup ∧
      c'.graph = ⟨c.graph.deps.insertMany (l.map fun p => (p.1, .ofList (deps p.1 p.2) compare))⟩ ∧
      c'.values = c.values.insertMany l
  | c, _, [], h => by
      rw [insertAll_nil, Except.ok.injEq] at h
      subst h
      simp
  | c, _, p :: l, h => by
      cases hins : c.insert p.1 p.2 (deps p.1 p.2) with
      | error e =>
          rw [insertAll_cons_of_error hins] at h
          cases h
      | ok c₁ =>
          rw [insertAll_cons_of_ok hins] at h
          obtain ⟨hnew, hnd, hgraph, hvalues⟩ := insertAll_eq_ok h
          obtain ⟨hp, g, hadd, rfl⟩ := insert_eq_ok_iff.mp hins
          obtain ⟨-, -, rfl⟩ := Graph.add_eq_ok_iff.mp hadd
          -- the later names are new in `c₁`, which holds `p.1`
          have hrest : ∀ q ∈ l, q.1 ≠ p.1 ∧ c.values.contains q.1 = false := by
            intro q hq
            have hq' := hnew q hq
            simp only [Std.ExtTreeMap.contains_insert, Bool.or_eq_false_iff,
              beq_eq_false_iff_ne, ne_eq, Std.LawfulEqOrd.compare_eq_iff_eq] at hq'
            exact ⟨Ne.symm hq'.1, hq'.2⟩
          refine ⟨?_, ?_, ?_, ?_⟩
          · intro q hq
            rcases List.mem_cons.mp hq with rfl | hq
            · exact hp
            · exact (hrest q hq).2
          · refine List.nodup_cons.mpr ⟨fun hmem => ?_, hnd⟩
            obtain ⟨q, hq, hqp⟩ := List.mem_map.mp hmem
            exact (hrest q hq).1 hqp
          · rw [hgraph, List.map_cons, Std.ExtTreeMap.insertMany_cons]
          · rw [hvalues, Std.ExtTreeMap.insertMany_cons]

theorem reaches_of_sub {g h : Graph}
    (hsub : ∀ (x : String) (ds : NameSet), g.deps[x]? = some ds → h.deps[x]? = some ds)
    {a b : String} (hab : g.Reaches a b) : h.Reaches a b :=
  Relation.TransGen.mono (fun _ _ ⟨ds, hds, hy⟩ => ⟨ds, hsub _ ds hds, hy⟩) _ _ hab

/-- Once the first of several distinct new names is stored, the others are still new. -/
theorem contains_insert_of_nodup {β : Type} {m : Std.ExtTreeMap String β compare}
    {p : String × β} {l : List (String × β)} (hnd : ((p :: l).map Prod.fst).Nodup)
    (hnew : ∀ q ∈ p :: l, m.contains q.1 = false) :
    ∀ q ∈ l, (m.insert p.1 p.2).contains q.1 = false := by
  intro q hq
  have hqp : q.1 ≠ p.1 := fun h => (List.nodup_cons.mp hnd).1 (List.mem_map.mpr ⟨q, hq, h⟩)
  simp [Std.ExtTreeMap.contains_insert, Ne.symm hqp, hnew q (List.mem_cons_of_mem _ hq)]

/-- Inserting into a catalog that records part of an acyclic graph `G` the pairs that `G` records
for the remaining names succeeds. -/
theorem exists_insertAll_eq_ok {deps : String → α → List String} {G : Graph} (hG : G.Acyclic) :
    ∀ {c : Catalog α} {l : List (String × α)}, c.Built → (l.map Prod.fst).Nodup →
      (∀ p ∈ l, c.values.contains p.1 = false) →
      (∀ (x : String) (ds : NameSet), c.graph.deps[x]? = some ds → G.deps[x]? = some ds) →
      (∀ p ∈ l, G.deps[p.1]? = some (.ofList (deps p.1 p.2) compare)) →
      ∃ c', c.insertAll deps l = .ok c'
  | c, [], _, _, _, _, _ => ⟨c, rfl⟩
  | c, p :: l, hc, hnd, hnew, hsub, hG' => by
      have hp := hnew p List.mem_cons_self
      have hpg : c.graph.contains p.1 = false := by rw [← hc.graph.2]; exact hp
      have hGp := hG' p List.mem_cons_self
      -- a dependency closing a cycle in the catalog would close one in `G`
      have hfree : ¬ ∃ d ∈ deps p.1 p.2, d = p.1 ∨ c.graph.Reaches d p.1 := by
        rintro ⟨d, hd, hcyc⟩
        have hedge : G.Edge p.1 d := ⟨_, hGp, by simpa using hd⟩
        rcases hcyc with rfl | hreach
        · exact hG _ (.single hedge)
        · exact hG _ (.head hedge (reaches_of_sub hsub hreach))
      have hadd := Graph.add_of_not_closes hpg hfree
      have hins : c.insert p.1 p.2 (deps p.1 p.2) =
          .ok ⟨⟨c.graph.deps.insert p.1 (.ofList (deps p.1 p.2) compare)⟩,
            c.values.insert p.1 p.2⟩ := by
        simp [insert, hp, hadd]
      rw [insertAll_cons_of_ok hins]
      refine exists_insertAll_eq_ok hG (.insert hc hins) (List.nodup_cons.mp hnd).2
        (contains_insert_of_nodup hnd hnew) (fun x ds hx => ?_)
        fun q hq => hG' q (List.mem_cons_of_mem _ hq)
      -- the catalog now records `p.1` as `G` does, and the rest as before
      by_cases hxp : p.1 = x
      · subst hxp
        simp only [Std.ExtTreeMap.getElem?_insert_self, Option.some.injEq] at hx
        exact hx ▸ hGp
      · simp only [Std.ExtTreeMap.getElem?_insert, Std.LawfulEqOrd.compare_eq_iff_eq, hxp,
          if_false] at hx
        exact hsub x ds hx

/-- Inserting distinct new names can only fail with a cycle. -/
theorem insertAll_eq_error {deps : String → α → List String} :
    ∀ {c : Catalog α} {l : List (String × α)} {e : GraphError}, c.Built →
      (l.map Prod.fst).Nodup → (∀ p ∈ l, c.values.contains p.1 = false) →
      c.insertAll deps l = .error e → ∃ n, e = .cycleDetected n
  | _, [], _, _, _, _, h => by cases h
  | c, p :: l, e, hc, hnd, hnew, h => by
      have hp := hnew p List.mem_cons_self
      cases hins : c.insert p.1 p.2 (deps p.1 p.2) with
      | error e' =>
          rw [insertAll_cons_of_error hins, Except.error.injEq] at h
          subst h
          have hpg : c.graph.contains p.1 = false := by rw [← hc.graph.2]; exact hp
          cases hadd : c.graph.add p.1 (deps p.1 p.2) with
          | error e'' =>
              simp only [insert, hp, Bool.false_eq_true, if_false, hadd, Except.error.injEq] at hins
              exact ⟨p.1, hins ▸ Graph.add_eq_error_of_fresh hpg hadd⟩
          | ok g => simp [insert, hp, hadd] at hins
      | ok c₁ =>
          rw [insertAll_cons_of_ok hins] at h
          obtain ⟨-, g, hadd, rfl⟩ := insert_eq_ok_iff.mp hins
          exact insertAll_eq_error (.insert hc hins) (List.nodup_cons.mp hnd).2
            (contains_insert_of_nodup hnd hnew) h

theorem distinct_of_nodup {β : Type} {l : List (String × β)} (hnd : (l.map Prod.fst).Nodup) :
    l.Pairwise fun a b => ¬ compare a.1 b.1 = .eq :=
  (List.pairwise_map.mp hnd).imp fun h heq => h (Std.LawfulEqOrd.compare_eq_iff_eq.mp heq)

theorem getElem?_ofList_of_mem {β : Type} {l : List (String × β)} (hnd : (l.map Prod.fst).Nodup)
    {p : String × β} (hp : p ∈ l) : (Std.ExtTreeMap.ofList l compare)[p.1]? = some p.2 :=
  Std.ExtTreeMap.getElem?_ofList_of_mem (Std.LawfulEqOrd.compare_eq_iff_eq.mpr rfl)
    (distinct_of_nodup hnd) hp

/-- With distinct names, the map of a list does not depend on the order of the list. -/
theorem ofList_perm {β : Type} {l₁ l₂ : List (String × β)} (hnd : (l₁.map Prod.fst).Nodup)
    (hp : l₁.Perm l₂) : Std.ExtTreeMap.ofList l₁ compare = Std.ExtTreeMap.ofList l₂ compare := by
  have hnd₂ : (l₂.map Prod.fst).Nodup := (hp.map Prod.fst).nodup_iff.mp hnd
  apply Std.ExtTreeMap.ext_getElem?
  intro k
  by_cases hk : k ∈ l₁.map Prod.fst
  · obtain ⟨q, hq, rfl⟩ := List.mem_map.mp hk
    rw [getElem?_ofList_of_mem hnd hq, getElem?_ofList_of_mem hnd₂ (hp.subset hq)]
  · have hk₂ : k ∉ l₂.map Prod.fst := fun h => hk ((hp.map _).mem_iff.mpr h)
    rw [Std.ExtTreeMap.getElem?_ofList_of_contains_eq_false (by simpa using hk),
      Std.ExtTreeMap.getElem?_ofList_of_contains_eq_false (by simpa using hk₂)]

theorem map_fst_entries (deps : String → α → List String) (l : List (String × α)) :
    (l.map fun p => (p.1, (Std.ExtTreeSet.ofList (deps p.1 p.2) compare : NameSet))).map
      Prod.fst = l.map Prod.fst := by
  simp

theorem graphOf_getElem? {deps : String → α → List String} {l : List (String × α)}
    (hnd : (l.map Prod.fst).Nodup) {p : String × α} (hp : p ∈ l) :
    (graphOf deps l).deps[p.1]? = some (.ofList (deps p.1 p.2) compare) := by
  have hnd' : ((l.map fun q => (q.1, (Std.ExtTreeSet.ofList (deps q.1 q.2) compare : NameSet))).map
      Prod.fst).Nodup := by
    rw [map_fst_entries]
    exact hnd
  exact getElem?_ofList_of_mem hnd' (List.mem_map_of_mem (f := fun q => (q.1,
    (Std.ExtTreeSet.ofList (deps q.1 q.2) compare : NameSet))) hp)

theorem graphOf_perm (deps : String → α → List String) {l₁ l₂ : List (String × α)}
    (hnd : (l₁.map Prod.fst).Nodup) (hp : l₁.Perm l₂) : graphOf deps l₁ = graphOf deps l₂ := by
  rw [graphOf, graphOf, ofList_perm (by rw [map_fst_entries]; exact hnd) (hp.map _)]

/-- What the fold from the empty catalog returns: the graph of the list and its pairs. -/
theorem insertAll_empty_eq_ok {deps : String → α → List String} {c : Catalog α}
    {l : List (String × α)} (h : Catalog.empty.insertAll deps l = .ok c) :
    (l.map Prod.fst).Nodup ∧ c = ⟨graphOf deps l, .ofList l compare⟩ := by
  obtain ⟨-, hnd, hgraph, hvalues⟩ := insertAll_eq_ok h
  refine ⟨hnd, ?_⟩
  cases c
  simp only [Catalog.mk.injEq] at hgraph hvalues ⊢
  refine ⟨?_, ?_⟩
  · rw [hgraph, graphOf, Std.ExtTreeMap.ofList_eq_insertMany_empty]
    rfl
  · rw [hvalues, Std.ExtTreeMap.ofList_eq_insertMany_empty]
    rfl

/-- With distinct names, the fold from the empty catalog succeeds exactly when the graph of the
whole list is acyclic. -/
theorem insertAll_empty_ok_iff {deps : String → α → List String} {l : List (String × α)}
    (hnd : (l.map Prod.fst).Nodup) :
    (∃ c, Catalog.empty.insertAll deps l = .ok c) ↔ (graphOf deps l).Acyclic := by
  constructor
  · rintro ⟨c, h⟩
    have hacyc := (Built.empty.insertAll h).graph.1.acyclic
    rwa [(insertAll_empty_eq_ok h).2] at hacyc
  · intro hG
    refine exists_insertAll_eq_ok hG .empty hnd (fun p _ => ?_) (fun x ds hx => ?_)
      fun p hp => graphOf_getElem? hnd hp
    · simp [Catalog.empty]
    · simp [Catalog.empty, Graph.empty] at hx

/-- Two orders of the same pairs with distinct names give the same outcome: both succeed with
the same catalog, or both fail with a cycle. -/
theorem insertAll_perm {deps : String → α → List String} {l₁ l₂ : List (String × α)}
    (hnd : (l₁.map Prod.fst).Nodup) (hp : l₁.Perm l₂) :
    ((∃ c, Catalog.empty.insertAll deps l₁ = .ok c) ↔
        (∃ c, Catalog.empty.insertAll deps l₂ = .ok c)) ∧
      (∀ c₁ c₂, Catalog.empty.insertAll deps l₁ = .ok c₁ →
        Catalog.empty.insertAll deps l₂ = .ok c₂ → c₁ = c₂) ∧
      (∀ e₁ e₂, Catalog.empty.insertAll deps l₁ = .error e₁ →
        Catalog.empty.insertAll deps l₂ = .error e₂ →
        ∃ a b, e₁ = .cycleDetected a ∧ e₂ = .cycleDetected b) := by
  have hnd₂ : (l₂.map Prod.fst).Nodup := (hp.map Prod.fst).nodup_iff.mp hnd
  refine ⟨?_, fun c₁ c₂ h₁ h₂ => ?_, fun e₁ e₂ h₁ h₂ => ?_⟩
  · rw [insertAll_empty_ok_iff hnd, insertAll_empty_ok_iff hnd₂, graphOf_perm deps hnd hp]
  · rw [(insertAll_empty_eq_ok h₁).2, (insertAll_empty_eq_ok h₂).2, graphOf_perm deps hnd hp,
      ofList_perm hnd hp]
  · obtain ⟨a, rfl⟩ := insertAll_eq_error .empty hnd (by simp [Catalog.empty]) h₁
    obtain ⟨b, rfl⟩ := insertAll_eq_error .empty hnd₂ (by simp [Catalog.empty]) h₂
    exact ⟨a, b, rfl, rfl⟩

end Catalog

end DevstackConf
