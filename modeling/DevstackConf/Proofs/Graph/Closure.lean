import DevstackConf.Graph.Basic
import Mathlib.Logic.Relation

/-!
# Closures are transitive reachability

An edge runs from an item of the graph to each name it depends on (`Graph.Edge`); the target
need not be an item. `Graph.Reaches` is the transitive closure of the edges. The main statement,
`mem_ancestors_iff`, says that the soft closure of a name holds exactly the names reachable from
it by one or more edges, for every graph, cyclic ones included.

The walk behind `ancestors` is bounded by fuel. A nested step of the walk always enters a name
that was not seen before, and it only does work when that name is an item. So the number of
items not yet seen, `budget`, falls at every nested step that does work, and the `size + 1`
steps that `ancestors` supplies always suffice.
-/

namespace DevstackConf

@[simp] theorem NameSet.contains_eq_false_iff {t : NameSet} {x : String} :
    t.contains x = false ↔ x ∉ t := by
  rw [← Bool.not_eq_true, Std.ExtTreeSet.contains_iff_mem]

theorem NameSet.mem_insert_iff {t : NameSet} {a x : String} : x ∈ t.insert a ↔ a = x ∨ x ∈ t := by
  rw [Std.ExtTreeSet.mem_insert, Std.LawfulEqOrd.compare_eq_iff_eq]

theorem NameSet.contains_insert (t : NameSet) (a x : String) :
    (t.insert a).contains x = (a == x || t.contains x) := by
  apply Bool.eq_iff_iff.mpr
  rw [Bool.or_eq_true, beq_iff_eq, Std.ExtTreeSet.contains_iff_mem, Std.ExtTreeSet.contains_iff_mem,
    mem_insert_iff]

namespace Graph

@[simp] theorem contains_eq_false_iff {g : Graph} {x : String} :
    g.contains x = false ↔ x ∉ g.deps := by
  rw [← Bool.not_eq_true, contains, Std.ExtTreeMap.contains_iff_mem]

/-- `x` is an item of the graph and `y` is one of its direct dependencies. -/
def Edge (g : Graph) (x y : String) : Prop := ∃ ds, g.deps[x]? = some ds ∧ y ∈ ds

/-- `y` is reachable from `x` by one or more edges. -/
def Reaches (g : Graph) : String → String → Prop := Relation.TransGen g.Edge

/-- Every name that `found` holds beyond `seen` has all its dependencies in `found`. -/
def Saturated (g : Graph) (seen found : NameSet) : Prop :=
  ∀ x ∈ found, x ∉ seen → ∀ y, g.Edge x y → y ∈ found

theorem contains_iff_exists_getElem? {g : Graph} {n : String} :
    g.contains n = true ↔ ∃ ds, g.deps[n]? = some ds := by
  rw [contains, Std.ExtTreeMap.contains_eq_isSome_getElem?, Option.isSome_iff_exists]

theorem contains_of_edge {g : Graph} {x y : String} (h : g.Edge x y) : g.contains x := by
  obtain ⟨ds, hds, -⟩ := h
  exact contains_iff_exists_getElem?.mpr ⟨ds, hds⟩

theorem getElem?_eq_none_of_not_contains {g : Graph} {n : String} (h : ¬ g.contains n) :
    g.deps[n]? = none :=
  Std.ExtTreeMap.getElem?_eq_none (by simpa [contains] using h)

theorem budget_empty (g : Graph) : g.budget ∅ = g.size := by
  have hall : g.names.filter (· ∉ (∅ : NameSet)) = g.names :=
    List.filter_eq_self.mpr fun x _ => by simp
  rw [budget, hall, names, Std.ExtTreeMap.length_keys, size]

theorem reach_of_not_contains {g : Graph} {n : String} (h : ¬ g.contains n) (fuel : Nat)
    (seen : NameSet) : g.reach fuel n seen = seen := by
  cases fuel with
  | zero => rfl
  | succ fuel => simp [reach, getElem?_eq_none_of_not_contains h]

theorem reach_succ_of_getElem? {g : Graph} {n : String} {ds : NameSet} (h : g.deps[n]? = some ds)
    (fuel : Nat) (seen : NameSet) :
    g.reach (fuel + 1) n seen =
      ds.toList.foldl
        (fun acc d => if acc.contains d then acc else g.reach fuel d (acc.insert d)) seen := by
  simp [reach, h, Std.ExtTreeSet.foldl_eq_foldl_toList]

/-- A walk only adds names. -/
theorem subset_reach {g : Graph} (fuel : Nat) :
    ∀ (n : String) (seen : NameSet) {y : String}, y ∈ seen → y ∈ g.reach fuel n seen := by
  induction fuel with
  | zero => exact fun _ _ _ hy => hy
  | succ fuel ih =>
      intro n seen y hy
      cases h : g.deps[n]? with
      | none => simpa [reach, h] using hy
      | some ds =>
          rw [reach_succ_of_getElem? h]
          generalize ds.toList = l
          induction l generalizing seen with
          | nil => exact hy
          | cons d l ihl =>
              apply ihl
              by_cases hd : d ∈ seen
              · simpa [hd] using hy
              · simpa [hd] using ih d (seen.insert d) (by simp [hy])

/-- Everything a walk from `n` adds is reachable from `n`. -/
theorem reach_sound {g : Graph} (fuel : Nat) :
    ∀ (n : String) (seen : NameSet) {y : String},
      y ∈ g.reach fuel n seen → y ∈ seen ∨ g.Reaches n y := by
  induction fuel with
  | zero => exact fun _ _ _ hy => .inl hy
  | succ fuel ih =>
      intro n seen y hy
      cases h : g.deps[n]? with
      | none => exact .inl (by simpa [reach, h] using hy)
      | some ds =>
          rw [reach_succ_of_getElem? h] at hy
          have hedge : ∀ d ∈ ds.toList, g.Edge n d := fun d hd => ⟨ds, h, by simpa using hd⟩
          generalize ds.toList = l at hy hedge
          induction l generalizing seen with
          | nil => exact .inl hy
          | cons d l ihl =>
              have hstep := ihl _ hy fun d' hd' => hedge d' (List.mem_cons_of_mem d hd')
              refine hstep.elim (fun hacc => ?_) .inr
              by_cases hd : d ∈ seen
              · exact .inl (by simpa [hd] using hacc)
              · simp only [NameSet.contains_eq_false_iff.mpr hd, Bool.false_eq_true,
                  if_false] at hacc
                rcases ih d (seen.insert d) hacc with hins | hreach
                · rcases NameSet.mem_insert_iff.mp hins with rfl | hs
                  · exact .inr (.single (hedge d List.mem_cons_self))
                  · exact .inl hs
                · exact .inr (.head (hedge d List.mem_cons_self) hreach)

theorem Saturated.trans {g : Graph} {s t u : NameSet} (hst : g.Saturated s t)
    (htu : g.Saturated t u) (hsub : ∀ x ∈ t, x ∈ u) : g.Saturated s u := by
  intro x hx hxs y hxy
  by_cases hxt : x ∈ t
  · exact hsub y (hst x hxt hxs y hxy)
  · exact htu x hx hxt y hxy

/-- A name entered on its own, whose dependencies all came in with it, joins the saturated part. -/
theorem Saturated.of_insert {g : Graph} {s u : NameSet} {d : String}
    (hsat : g.Saturated (s.insert d) u) (hd : ∀ y, g.Edge d y → y ∈ u) : g.Saturated s u := by
  intro x hx hxs y hxy
  by_cases hxd : x = d
  · exact hd y (hxd ▸ hxy)
  · exact hsat x hx (by simp [Ne.symm hxd, hxs]) y hxy

/-- The fold inside one step of `reach`, with the nested walk `walk` as a parameter: if every
nested walk keeps what it is given, takes in the dependencies of its name and saturates what it
adds, then the fold keeps what it is given, takes in every name it folds over, and saturates
what it adds. -/
theorem foldl_enter_saturated {g : Graph} {walk : String → NameSet → NameSet} {seen : NameSet}
    (hwalk : ∀ (d : String) (acc : NameSet), (∀ x ∈ seen, x ∈ acc) → d ∉ acc →
      (∀ x ∈ acc.insert d, x ∈ walk d (acc.insert d)) ∧
      (∀ y, g.Edge d y → y ∈ walk d (acc.insert d)) ∧
      g.Saturated (acc.insert d) (walk d (acc.insert d))) :
    ∀ (l : List String) (acc : NameSet), (∀ x ∈ seen, x ∈ acc) → g.Saturated seen acc →
      (∀ x ∈ acc, x ∈ l.foldl
        (fun (acc : NameSet) d => if acc.contains d then acc else walk d (acc.insert d)) acc) ∧
      (∀ d ∈ l, d ∈ l.foldl
        (fun (acc : NameSet) d => if acc.contains d then acc else walk d (acc.insert d)) acc) ∧
      g.Saturated seen (l.foldl
        (fun (acc : NameSet) d => if acc.contains d then acc else walk d (acc.insert d)) acc)
  | [], _, _, hsat => ⟨fun _ hx => hx, fun _ hd => absurd hd List.not_mem_nil, hsat⟩
  | d :: l, acc, hseen, hsat => by
      -- the state after `d`: either `acc` again, or the nested walk from `d`
      obtain ⟨hkeep, hd, hsat'⟩ : (∀ x ∈ acc, x ∈ (if acc.contains d then acc
            else walk d (acc.insert d))) ∧
          d ∈ (if acc.contains d then acc else walk d (acc.insert d)) ∧
          g.Saturated seen (if acc.contains d then acc else walk d (acc.insert d)) := by
        by_cases hda : d ∈ acc
        · simpa [hda] using hsat
        · obtain ⟨hmono, hedge, hnew⟩ := hwalk d acc hseen hda
          simp only [NameSet.contains_eq_false_iff.mpr hda, Bool.false_eq_true, if_false]
          refine ⟨fun x hx => hmono x (by simp [hx]), hmono d (by simp), ?_⟩
          exact hsat.trans (hnew.of_insert hedge) fun x hx => hmono x (by simp [hx])
      obtain ⟨hkeep', hall, hsat''⟩ :=
        foldl_enter_saturated hwalk l _ (fun x hx => hkeep x (hseen x hx)) hsat'
      refine ⟨fun x hx => hkeep' x (hkeep x hx), fun y hy => ?_, hsat''⟩
      rcases List.mem_cons.mp hy with rfl | hy
      · exact hkeep' y hd
      · exact hall y hy

theorem contains_of_getElem? {g : Graph} {n : String} {ds : NameSet} (h : g.deps[n]? = some ds) :
    g.contains n :=
  contains_iff_exists_getElem?.mpr ⟨ds, h⟩

/-- With more fuel than items left to see, a walk from `n` takes in every dependency of `n`, and
every name it adds has its own dependencies in the result. -/
theorem reach_saturated {g : Graph} (fuel : Nat) :
    ∀ (n : String) (seen : NameSet), (g.contains n → g.budget seen < fuel) →
      (∀ y, g.Edge n y → y ∈ g.reach fuel n seen) ∧ g.Saturated seen (g.reach fuel n seen) := by
  induction fuel with
  | zero =>
      intro n seen hfuel
      have hn : ¬ g.contains n := fun hn => Nat.not_lt_zero _ (hfuel hn)
      rw [reach_of_not_contains hn]
      exact ⟨fun y hy => absurd (contains_of_edge hy) hn, fun x hx hxs => absurd hx hxs⟩
  | succ fuel ih =>
      intro n seen hfuel
      cases h : g.deps[n]? with
      | none =>
          have hn : ¬ g.contains n := by simp [contains, Std.ExtTreeMap.contains_eq_isSome_getElem?, h]
          rw [reach_of_not_contains hn]
          exact ⟨fun y hy => absurd (contains_of_edge hy) hn, fun x hx hxs => absurd hx hxs⟩
      | some ds =>
          have hbudget : g.budget seen ≤ fuel := Nat.lt_succ_iff.mp (hfuel (contains_of_getElem? h))
          rw [reach_succ_of_getElem? h]
          -- a nested walk starts from a name `d` not yet seen; it has fuel to spare whenever `d`
          -- is an item, since seeing `d` lowers the budget
          have hwalk : ∀ (d : String) (acc : NameSet), (∀ x ∈ seen, x ∈ acc) → d ∉ acc →
              (∀ x ∈ acc.insert d, x ∈ g.reach fuel d (acc.insert d)) ∧
              (∀ y, g.Edge d y → y ∈ g.reach fuel d (acc.insert d)) ∧
              g.Saturated (acc.insert d) (g.reach fuel d (acc.insert d)) := by
            intro d acc hseen hda
            have hnext := ih d (acc.insert d) fun hd =>
              Nat.lt_of_lt_of_le (budget_insert_lt hseen hd hda) hbudget
            exact ⟨fun x hx => subset_reach fuel d _ hx, hnext⟩
          obtain ⟨-, hall, hsat⟩ := foldl_enter_saturated hwalk ds.toList seen (fun _ hx => hx)
            fun x hx hxs => absurd hx hxs
          refine ⟨fun y hedge => ?_, hsat⟩
          obtain ⟨ds', hds', hy⟩ := hedge
          rw [h, Option.some.injEq] at hds'
          exact hall y (by simpa [hds'] using hy)

/-- The soft closure of `n` holds exactly the names reachable from `n` by one or more edges. -/
theorem mem_ancestors_iff {g : Graph} {n y : String} : y ∈ g.ancestors n ↔ g.Reaches n y := by
  obtain ⟨hfirst, hsat⟩ := reach_saturated (g := g) (g.size + 1) n ∅ fun _ => by
    rw [budget_empty]
    exact Nat.lt_succ_self _
  constructor
  · intro hy
    simpa using reach_sound (g.size + 1) n ∅ hy
  · intro hy
    -- induction along the path: its first step is a dependency of `n`, every later one leaves
    -- a name that the walk added
    induction hy with
    | single hny => exact hfirst _ hny
    | tail _ hzy ih => exact hsat _ ih (Std.ExtTreeSet.not_mem_empty) _ hzy

end Graph

end DevstackConf
