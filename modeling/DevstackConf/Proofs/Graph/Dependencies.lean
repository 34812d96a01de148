import DevstackConf.Proofs.Graph.PostOrder

/-!
# The dependency walk computes the post-order walk

`Graph.visit` is the post-order walk of `PostOrder` over the items of the graph, with fuel.
The fuel never runs out: a nested call enters an item not entered before, so the number of items
not yet entered falls at every nesting level, and `size + 1` is more than there are.

`dependenciesOf_postOrder` is the result: for an item `n`, `dependenciesOf n` returns what the
walk over the item dependencies of `n` emits when nothing is entered at the start, not even `n`.
For a name that is not an item it fails, naming it.
-/

namespace DevstackConf

namespace Graph

theorem budget_le_size (g : Graph) (seen : NameSet) : g.budget seen ≤ g.size := by
  rw [budget, size, ← Std.ExtTreeMap.length_keys]
  exact List.length_filter_le _ _

theorem PostOrder.cons_of_single {g : Graph} {item : String → Bool} {c : String}
    {l : List String} {E E₁ E₂ : NameSet} {out₁ out₂ : List String}
    (h₁ : g.PostOrder item [c] E E₁ out₁) (h₂ : g.PostOrder item l E₁ E₂ out₂) :
    g.PostOrder item (c :: l) E E₂ (out₁ ++ out₂) := by
  cases h₁ with
  | skip hc hnil =>
      cases hnil
      exact .skip hc h₂
  | enter hc hk hnil =>
      cases hnil
      rw [List.append_assoc, List.singleton_append]
      exact .enter hc hk h₂

theorem visit_succ (g : Graph) (fuel : Nat) (n : String) (E : NameSet) (out : List String) :
    g.visit (fuel + 1) n (E, out) =
      ((((g.deps[n]?).getD ∅).toList.foldl
          (fun st c => if g.contains c && !st.1.contains c then g.visit fuel c st else st)
          (E.insert n, out)).1,
        (((g.deps[n]?).getD ∅).toList.foldl
          (fun st c => if g.contains c && !st.1.contains c then g.visit fuel c st else st)
          (E.insert n, out)).2 ++ [n]) := by
  simp only [visit, Std.ExtTreeSet.foldl_eq_foldl_toList]

/-- The fold over the dependencies inside one step of `visit`, with the nested walk `walk` as a
parameter: if `walk c` is the walk from `c` for every item `c` not yet entered, then the fold is
the walk over the item dependencies. -/
theorem foldl_visit_postOrder {g : Graph}
    {walk : String → NameSet × List String → NameSet × List String} {E₀ : NameSet}
    (hwalk : ∀ (c : String) (st : NameSet × List String), (∀ x ∈ E₀, x ∈ st.1) → c ∉ st.1 →
      g.contains c = true →
      ∃ out, g.PostOrder g.contains [c] st.1 (walk c st).1 out ∧ (walk c st).2 = st.2 ++ out) :
    ∀ (l : List String) (st : NameSet × List String), (∀ x ∈ E₀, x ∈ st.1) →
      ∃ out, g.PostOrder g.contains (l.filter g.contains) st.1
          (l.foldl (fun st c => if g.contains c && !st.1.contains c then walk c st else st) st).1
          out ∧
        (l.foldl (fun st c => if g.contains c && !st.1.contains c then walk c st else st) st).2 =
          st.2 ++ out
  | [], st, _ => ⟨[], .nil _, by simp⟩
  | c :: l, st, hE₀ => by
      rw [List.foldl_cons]
      by_cases hc : g.contains c = true
      · by_cases hcE : c ∈ st.1
        · -- an entered item: the fold passes over it and the walk skips it
          have hstep : (if g.contains c && !st.1.contains c then walk c st else st) = st := by
            simp [hcE]
          rw [hstep, List.filter_cons_of_pos hc]
          obtain ⟨out, h, hout⟩ := foldl_visit_postOrder hwalk l st hE₀
          exact ⟨out, h.skip hcE, hout⟩
        · -- an item not yet entered: the nested walk enters it
          have hstep : (if g.contains c && !st.1.contains c then walk c st else st) =
              walk c st := by
            simp [hc, hcE]
          rw [hstep, List.filter_cons_of_pos hc]
          obtain ⟨out₁, h₁, hout₁⟩ := hwalk c st hE₀ hcE hc
          obtain ⟨out₂, h₂, hout₂⟩ :=
            foldl_visit_postOrder hwalk l (walk c st) fun x hx => h₁.subset (hE₀ x hx)
          refine ⟨out₁ ++ out₂, h₁.cons_of_single h₂, ?_⟩
          rw [hout₂, hout₁, List.append_assoc]
      · -- a name that is not an item: neither looks at it
        have hstep : (if g.contains c && !st.1.contains c then walk c st else st) = st := by
          simp [hc]
        rw [hstep, List.filter_cons_of_neg hc]
        exact foldl_visit_postOrder hwalk l st hE₀

/-- With more fuel than items left to enter, `visit` is the walk from `x`. -/
theorem visit_postOrder {g : Graph} (fuel : Nat) :
    ∀ (x : String) (E : NameSet) (out : List String), x ∉ E → g.budget (E.insert x) < fuel →
      ∃ out', g.PostOrder g.contains [x] E (g.visit fuel x (E, out)).1 out' ∧
        (g.visit fuel x (E, out)).2 = out ++ out' := by
  induction fuel with
  | zero => exact fun _ _ _ _ hfuel => absurd hfuel (Nat.not_lt_zero _)
  | succ fuel ih =>
      intro x E out hx hfuel
      -- each nested call starts from an item not entered yet, below the budget of this call
      have hwalk : ∀ (c : String) (st : NameSet × List String), (∀ y ∈ E.insert x, y ∈ st.1) →
          c ∉ st.1 → g.contains c = true →
          ∃ out', g.PostOrder g.contains [c] st.1 (g.visit fuel c st).1 out' ∧
            (g.visit fuel c st).2 = st.2 ++ out' := by
        intro c st hst hcE hc
        exact ih c st.1 st.2 hcE
          (Nat.lt_of_lt_of_le (budget_insert_lt hst hc hcE) (Nat.lt_succ_iff.mp hfuel))
      obtain ⟨out', h, hout⟩ :=
        foldl_visit_postOrder hwalk ((g.deps[x]?).getD ∅).toList (E.insert x, out) fun _ hy => hy
      refine ⟨out' ++ [x], ?_, ?_⟩
      · rw [visit_succ]
        exact .enter hx h (.nil _)
      · rw [visit_succ]
        dsimp only
        rw [hout, List.append_assoc]

theorem dependenciesOf_of_not_contains {g : Graph} {n : String} (hn : g.contains n = false) :
    g.dependenciesOf n = .error (.unknownItem n) := by
  simp [dependenciesOf, getElem?_eq_none_of_not_contains (by simp [hn] : ¬ g.contains n)]

/-- For an item `n`, `dependenciesOf n` is the walk over the item dependencies of `n` from
nothing entered. -/
theorem dependenciesOf_postOrder {g : Graph} {n : String} (hn : g.contains n = true) :
    ∃ E out, g.dependenciesOf n = .ok out ∧ g.PostOrder g.contains (g.kids g.contains n) ∅ E out := by
  have hwalk : ∀ (c : String) (st : NameSet × List String), (∀ y ∈ (∅ : NameSet), y ∈ st.1) →
      c ∉ st.1 → g.contains c = true →
      ∃ out', g.PostOrder g.contains [c] st.1 (g.visit (g.size + 1) c st).1 out' ∧
        (g.visit (g.size + 1) c st).2 = st.2 ++ out' := by
    intro c st _ hcE _
    exact visit_postOrder (g.size + 1) c st.1 st.2 hcE (Nat.lt_succ_of_le (budget_le_size g _))
  obtain ⟨ds, hds⟩ := contains_iff_exists_getElem?.mp hn
  obtain ⟨out, h, hout⟩ := foldl_visit_postOrder hwalk ds.toList ((∅ : NameSet), []) fun _ hy => hy
  have hkids : g.kids g.contains n = ds.toList.filter g.contains := by simp [kids, hds]
  rw [hkids]
  refine ⟨_, out, ?_, h⟩
  simp only [dependenciesOf, hds, Std.ExtTreeSet.foldl_eq_foldl_toList]
  rw [hout, List.nil_append]

end Graph

end DevstackConf
