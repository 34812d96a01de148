import DevstackConf.Proofs.Catalog.Build
import DevstackConf.Variables
import DevstackConf.Plugins.Basic
import Mathlib.Data.List.Nodup

/-!
# Ordering variables and plugins

Variables and plugins are put in order by catalogs: `Variables.order` stores each variable as
its text, depending on the other input variables the text refers to, and `Plugins.order` stores
each requested plugin with its source, depending on the requested plugins it requires. Both
are `Catalog.insertAll` from the empty catalog, so the results about catalogs carry over:

* `ordered_emits_every_item_after_dependencies`: the listing names every stored item once,
  with its value, each after the items it depends on;
* `ordered_is_depth_first`: the listing is the depth-first walk `Catalog.DepthFirst`;
* `order_ignores_input_order`: with distinct names, the outcome does not depend on the order
  of the input.
-/

namespace DevstackConf

namespace Catalog

theorem mem_of_getElem?_ofList {β : Type} {l : List (String × β)} (hnd : (l.map Prod.fst).Nodup)
    {k : String} {v : β} (h : (Std.ExtTreeMap.ofList l compare)[k]? = some v) : (k, v) ∈ l := by
  by_cases hk : k ∈ l.map Prod.fst
  · obtain ⟨q, hq, rfl⟩ := List.mem_map.mp hk
    rw [getElem?_ofList_of_mem hnd hq, Option.some.injEq] at h
    rw [← h]
    exact hq
  · rw [Std.ExtTreeMap.getElem?_ofList_of_contains_eq_false (by simpa using hk)] at h
    cases h

/-- A listing that names every key of the map of `l` once, each with its value, is a reordering
of `l`. -/
theorem perm_of_keys_ofList {β : Type} {l out : List (String × β)} (hnd : (l.map Prod.fst).Nodup)
    (hkeys : (out.map Prod.fst).Perm (Std.ExtTreeMap.ofList l compare).keys)
    (hvals : ∀ p ∈ out, (Std.ExtTreeMap.ofList l compare)[p.1]? = some p.2) : out.Perm l := by
  have hout : out.Nodup :=
    List.Nodup.of_map Prod.fst (hkeys.nodup_iff.mpr Std.ExtTreeMap.nodup_keys)
  refine (List.perm_ext_iff_of_nodup hout (List.Nodup.of_map Prod.fst hnd)).mpr
    fun p => ⟨fun hp => ?_, fun hp => ?_⟩
  · exact mem_of_getElem?_ofList hnd (hvals p hp)
  · -- the key of `p` is listed, and the listed value under it is the one of `p`
    have hkey : p.1 ∈ out.map Prod.fst := by
      rw [hkeys.mem_iff, Std.ExtTreeMap.mem_keys, Std.ExtTreeMap.mem_ofList]
      simpa using ⟨p.2, hp⟩
    obtain ⟨q, hq, hqp⟩ := List.mem_map.mp hkey
    have hval : q.2 = p.2 := by
      have h := hvals q hq
      rw [hqp, getElem?_ofList_of_mem hnd hp, Option.some.injEq] at h
      exact h.symm
    have hpq : q = p := Prod.ext hqp hval
    exact hpq ▸ hq

/-- The listing of a catalog built from `l` reorders `l` and puts every stored dependency of an
item before the item. -/
theorem ordered_insertAll {α : Type} {deps : String → α → List String} {l : List (String × α)}
    {c : Catalog α} (h : Catalog.empty.insertAll deps l = .ok c) :
    ∃ out, c.ordered = .ok out ∧ out.Perm l ∧
      ∀ x v y, (x, v) ∈ l → y ∈ deps x v → y ∈ l.map Prod.fst →
        Precedes y x (out.map Prod.fst) := by
  have hc := Built.empty.insertAll h
  obtain ⟨hnd, rfl⟩ := insertAll_empty_eq_ok h
  obtain ⟨out, hord, hkeys, hvals, hprec⟩ := ordered_lists_items_after_dependencies hc
  refine ⟨out, hord, perm_of_keys_ofList hnd hkeys hvals, fun x v y hxv hy hyl => ?_⟩
  apply hprec x y
  · exact ⟨_, graphOf_getElem? hnd hxv, by simpa using hy⟩
  · simpa using hyl

end Catalog

/-- An outcome that converts to `some b` is `.ok b`. -/
theorem eq_ok_of_toOption_eq_some {ε β : Type} {x : Except ε β} {b : β}
    (h : x.toOption = some b) : x = .ok b := by
  cases x with
  | error e => cases h
  | ok a =>
    cases h
    rfl

namespace Variables

theorem order_eq_insertAll (vars : List (String × Scalar)) :
    order vars = Catalog.empty.insertAll (dependencies (vars.map Prod.fst))
      (vars.map fun p => (p.1, p.2.display)) := by
  rw [order, Catalog.insertAll]
  -- the known names are the names of the texts
  simp only [List.map_map]
  rfl

theorem mem_dependencies {known : List String} {name text y : String} :
    y ∈ dependencies known name text ↔
      y ∈ references text.toList ∧ y ≠ name ∧ y ∈ known := by
  simp [dependencies]

/-- The dependencies of a variable depend on the known names only as a set. -/
theorem dependencies_congr {known₁ known₂ : List String} (h : known₁.Perm known₂) :
    dependencies known₁ = dependencies known₂ := by
  funext name text
  simp only [dependencies, h.contains_eq]

/-- A successful ordering gives the catalog of the variables' texts; their names are distinct. -/
theorem order_eq_ok {vars : List (String × Scalar)} {cat : Catalog String}
    (h : order vars = .ok cat) :
    cat.Built ∧ (vars.map Prod.fst).Nodup ∧
      cat = ⟨Catalog.graphOf (dependencies (vars.map Prod.fst))
        (vars.map fun p => (p.1, p.2.display)),
        .ofList (vars.map fun p => (p.1, p.2.display)) compare⟩ := by
  rw [order_eq_insertAll] at h
  have hnames := (Catalog.insertAll_empty_eq_ok h).1
  simp only [List.map_map] at hnames
  exact ⟨Catalog.Built.empty.insertAll h, hnames, (Catalog.insertAll_empty_eq_ok h).2⟩

/-- Two orders of variables with distinct names give the same catalog, or both fail with a
cycle. -/
theorem order_perm {l₁ l₂ : List (String × Scalar)} (hnd : (l₁.map Prod.fst).Nodup)
    (hp : l₁.Perm l₂) :
    ((∃ c, order l₁ = .ok c) ↔ ∃ c, order l₂ = .ok c) ∧
      (∀ c₁ c₂, order l₁ = .ok c₁ → order l₂ = .ok c₂ → c₁ = c₂) ∧
      (∀ e₁ e₂, order l₁ = .error e₁ → order l₂ = .error e₂ →
        ∃ a b, e₁ = .cycleDetected a ∧ e₂ = .cycleDetected b) := by
  have hnames : ((l₁.map fun p => (p.1, p.2.display)).map Prod.fst).Nodup := by
    rw [List.map_map]
    exact hnd
  -- the known names are the same set in both orders, so the texts depend alike
  simp only [order_eq_insertAll, dependencies_congr (hp.map Prod.fst)]
  exact Catalog.insertAll_perm hnames (hp.map _)

end Variables

namespace Plugins

theorem order_eq_insertAll (reqs : Requirements) (plugins : List (String × Option String)) :
    order reqs plugins =
      Catalog.empty.insertAll (fun n _ => dependencies reqs (plugins.map Prod.fst) n) plugins :=
  rfl

theorem mem_dependencies {reqs : Requirements} {requested : List String} {n r : String} :
    r ∈ dependencies reqs requested n ↔
      r ∈ (reqs.get? n).getD ∅ ∧ r ≠ n ∧ r ∈ requested := by
  simp [dependencies]

theorem dependencies_congr (reqs : Requirements) {requested₁ requested₂ : List String}
    (h : requested₁.Perm requested₂) :
    dependencies reqs requested₁ = dependencies reqs requested₂ := by
  funext n
  simp only [dependencies, h.contains_eq]

/-- A successful ordering gives the catalog of the plugins; their names are distinct. -/
theorem order_eq_ok {reqs : Requirements} {plugins : List (String × Option String)}
    {cat : Catalog (Option String)} (h : order reqs plugins = .ok cat) :
    cat.Built ∧ (plugins.map Prod.fst).Nodup ∧
      cat = ⟨Catalog.graphOf (fun n _ => dependencies reqs (plugins.map Prod.fst) n) plugins,
        .ofList plugins compare⟩ := by
  rw [order_eq_insertAll] at h
  exact ⟨Catalog.Built.empty.insertAll h, Catalog.insertAll_empty_eq_ok h⟩

/-- Two orders of plugins with distinct names give the same catalog, or both fail with a
cycle. -/
theorem order_perm (reqs : Requirements) {l₁ l₂ : List (String × Option String)}
    (hnd : (l₁.map Prod.fst).Nodup) (hp : l₁.Perm l₂) :
    ((∃ c, order reqs l₁ = .ok c) ↔ ∃ c, order reqs l₂ = .ok c) ∧
      (∀ c₁ c₂, order reqs l₁ = .ok c₁ → order reqs l₂ = .ok c₂ → c₁ = c₂) ∧
      (∀ e₁ e₂, order reqs l₁ = .error e₁ → order reqs l₂ = .error e₂ →
        ∃ a b, e₁ = .cycleDetected a ∧ e₂ = .cycleDetected b) := by
  simp only [order_eq_insertAll, dependencies_congr reqs (hp.map Prod.fst)]
  exact Catalog.insertAll_perm hnd hp

end Plugins

/-- Every built catalog is listed in full: each stored name once, with its stored value, and
after every stored item it depends on. A successful ordering of variables lists the variables'
texts, each after the other input variables it refers to; a successful ordering of plugins
lists the plugins, each after the requested plugins it requires. -/
theorem ordered_emits_every_item_after_dependencies :
    (∀ (α : Type) (c : Catalog α), c.Built →
      ∃ out, c.ordered = .ok out ∧ (out.map Prod.fst).Perm c.values.keys ∧
        (∀ p ∈ out, c.values[p.1]? = some p.2) ∧
        ∀ x y, c.graph.Edge x y → c.values.contains y = true →
          Precedes y x (out.map Prod.fst)) ∧
    (∀ (vars : List (String × Scalar)) (cat : Catalog String), Variables.order vars = .ok cat →
      ∃ out, cat.ordered = .ok out ∧ out.Perm (vars.map fun p => (p.1, p.2.display)) ∧
        ∀ x v y, (x, v) ∈ vars → y ∈ references v.display.toList → y ≠ x →
          y ∈ vars.map Prod.fst → Precedes y x (out.map Prod.fst)) ∧
    (∀ (reqs : Requirements) (plugins : List (String × Option String))
        (cat : Catalog (Option String)), Plugins.order reqs plugins = .ok cat →
      ∃ out, cat.ordered = .ok out ∧ out.Perm plugins ∧
        ∀ x r, x ∈ plugins.map Prod.fst → r ∈ (reqs.get? x).getD ∅ → r ≠ x →
          r ∈ plugins.map Prod.fst → Precedes r x (out.map Prod.fst)) := by
  refine ⟨fun _ _ hc => Catalog.ordered_lists_items_after_dependencies hc, ?_, ?_⟩
  · intro vars cat h
    rw [Variables.order_eq_insertAll] at h
    obtain ⟨out, hord, hperm, hprec⟩ := Catalog.ordered_insertAll h
    refine ⟨out, hord, hperm, fun x v y hxv hy hyx hyin => hprec x v.display y ?_ ?_ ?_⟩
    · exact List.mem_map.mpr ⟨(x, v), hxv, rfl⟩
    · exact Variables.mem_dependencies.mpr ⟨hy, hyx, hyin⟩
    · simpa using hyin
  · intro reqs plugins cat h
    rw [Plugins.order_eq_insertAll] at h
    obtain ⟨out, hord, hperm, hprec⟩ := Catalog.ordered_insertAll h
    refine ⟨out, hord, hperm, fun x r hx hr hrx hrin => ?_⟩
    -- the requirements of a plugin do not depend on its source
    obtain ⟨⟨x, src⟩, hxs, rfl⟩ := List.mem_map.mp hx
    exact hprec x src r hxs (Plugins.mem_dependencies.mpr ⟨hr, hrx, hrin⟩) hrin

theorem ordered_lists_dependency_first_on_samples :
    (∃ cat, Variables.order [("A", .str "$B"), ("B", .bool true)] = .ok cat ∧
      ∃ out, cat.ordered = .ok out ∧ (out.map Prod.fst).Perm cat.values.keys ∧
        Precedes "B" "A" (out.map Prod.fst)) ∧
    (∃ cat, Plugins.order (Requirements.empty.insert "a" (.ofList ["z"] compare))
        [("a", none), ("z", none)] = .ok cat ∧
      ∃ out, cat.ordered = .ok out ∧ Precedes "z" "a" (out.map Prod.fst)) := by
  constructor
  · have hsome : (Variables.order [("A", .str "$B"), ("B", .bool true)]).toOption.isSome := by
      decide +kernel
    have hcat := eq_ok_of_toOption_eq_some (Option.some_get hsome).symm
    obtain ⟨out, hord, hkeys, -, -⟩ :=
      ordered_emits_every_item_after_dependencies.1 _ _ (Variables.order_eq_ok hcat).1
    obtain ⟨out', hord', -, hprec⟩ := ordered_emits_every_item_after_dependencies.2.1 _ _ hcat
    rw [hord, Except.ok.injEq] at hord'
    subst hord'
    exact ⟨_, hcat, out, hord, hkeys,
      hprec "A" (.str "$B") "B" (by simp) (by decide +kernel) (by decide) (by simp)⟩
  · have hsome : (Plugins.order (Requirements.empty.insert "a" (.ofList ["z"] compare))
        [("a", none), ("z", none)]).toOption.isSome := by
      decide +kernel
    have hcat := eq_ok_of_toOption_eq_some (Option.some_get hsome).symm
    obtain ⟨out, hord, -, hprec⟩ := ordered_emits_every_item_after_dependencies.2.2 _ _ _ hcat
    exact ⟨_, hcat, out, hord, hprec "a" "z" (by simp) (by decide +kernel) (by decide) (by simp)⟩

/-- On every built catalog, and so on every catalog that orders variables or plugins, the
listing is the depth-first walk that keeps one set of entered names for the whole run. -/
theorem ordered_is_depth_first :
    (∀ (α : Type) (c : Catalog α) (out : List (String × α)), c.Built →
      (c.ordered = .ok out ↔ c.DepthFirst out)) ∧
    (∀ (vars : List (String × Scalar)) (cat : Catalog String) (out : List (String × String)),
      Variables.order vars = .ok cat → (cat.ordered = .ok out ↔ cat.DepthFirst out)) ∧
    (∀ (reqs : Requirements) (plugins : List (String × Option String))
        (cat : Catalog (Option String)) (out : List (String × Option String)),
      Plugins.order reqs plugins = .ok cat → (cat.ordered = .ok out ↔ cat.DepthFirst out)) :=
  ⟨fun _ _ out hc => Catalog.ordered_eq_ok_iff_depthFirst hc out,
    fun _ _ out h => Catalog.ordered_eq_ok_iff_depthFirst (Variables.order_eq_ok h).1 out,
    fun _ _ _ out h => Catalog.ordered_eq_ok_iff_depthFirst (Plugins.order_eq_ok h).1 out⟩

/-- A dependency is pulled ahead of its place in ascending order: with `a` depending on `z`,
the walk lists `z`, `a`, `m`. -/
theorem ordered_pulls_dependency_ahead :
    ∃ cat, Variables.order [("a", .str "$z"), ("m", .bool true), ("z", .bool false)] = .ok cat ∧
      cat.ordered = .ok [("z", "False"), ("a", "$z"), ("m", "True")] ∧
      cat.DepthFirst [("z", "False"), ("a", "$z"), ("m", "True")] := by
  have hsome : (Variables.order [("a", .str "$z"), ("m", .bool true),
      ("z", .bool false)]).toOption.isSome := by
    decide +kernel
  have hcat := eq_ok_of_toOption_eq_some (Option.some_get hsome).symm
  have hord : (Variables.order [("a", .str "$z"), ("m", .bool true), ("z", .bool false)] >>=
      Catalog.ordered) = .ok [("z", "False"), ("a", "$z"), ("m", "True")] := by
    apply eq_ok_of_toOption_eq_some
    -- evaluate the listing through the recursive walk
    delta Catalog.ordered Catalog.emitWithDependencies
    rw [Graph.dependenciesByStack_eq_dependenciesOf_fun]
    decide +kernel
  rw [hcat] at hord
  exact ⟨_, hcat, hord, (ordered_is_depth_first.2.1 _ _ _ hcat).mp hord⟩

/-- With distinct names, ordering variables, or plugins under fixed requirements, does not
depend on the order of the input: both orders succeed or both fail, successes hold the same
dependency map and list the same pairs, and failures differ at most in the name carried by a
cycle. -/
theorem order_ignores_input_order :
    (∀ l₁ l₂ : List (String × Scalar), (l₁.map Prod.fst).Nodup → l₁.Perm l₂ →
      ((∃ c, Variables.order l₁ = .ok c) ↔ ∃ c, Variables.order l₂ = .ok c) ∧
      (∀ c₁ c₂, Variables.order l₁ = .ok c₁ → Variables.order l₂ = .ok c₂ →
        c₁.graph = c₂.graph ∧ c₁.ordered = c₂.ordered) ∧
      (∀ e₁ e₂, Variables.order l₁ = .error e₁ → Variables.order l₂ = .error e₂ →
        ∃ a b, e₁ = .cycleDetected a ∧ e₂ = .cycleDetected b)) ∧
    (∀ (reqs : Requirements) (l₁ l₂ : List (String × Option String)),
      (l₁.map Prod.fst).Nodup → l₁.Perm l₂ →
      ((∃ c, Plugins.order reqs l₁ = .ok c) ↔ ∃ c, Plugins.order reqs l₂ = .ok c) ∧
      (∀ c₁ c₂, Plugins.order reqs l₁ = .ok c₁ → Plugins.order reqs l₂ = .ok c₂ →
        c₁.graph = c₂.graph ∧ c₁.ordered = c₂.ordered) ∧
      (∀ e₁ e₂, Plugins.order reqs l₁ = .error e₁ → Plugins.order reqs l₂ = .error e₂ →
        ∃ a b, e₁ = .cycleDetected a ∧ e₂ = .cycleDetected b)) := by
  constructor
  · intro l₁ l₂ hnd hp
    obtain ⟨hok, hsame, herr⟩ := Variables.order_perm hnd hp
    refine ⟨hok, fun c₁ c₂ h₁ h₂ => ?_, herr⟩
    rw [hsame c₁ c₂ h₁ h₂]
    exact ⟨rfl, rfl⟩
  · intro reqs l₁ l₂ hnd hp
    obtain ⟨hok, hsame, herr⟩ := Plugins.order_perm reqs hnd hp
    refine ⟨hok, fun c₁ c₂ h₁ h₂ => ?_, herr⟩
    rw [hsame c₁ c₂ h₁ h₂]
    exact ⟨rfl, rfl⟩

/-- A variable and the one it refers to are accepted in either order. -/
theorem order_accepts_both_orders_of_reference :
    ((∃ c, Variables.order [("A", .str "$B"), ("B", .bool true)] = .ok c) ↔
      ∃ c, Variables.order [("B", .bool true), ("A", .str "$B")] = .ok c) ∧
    ((∃ c, Plugins.order (Requirements.empty.insert "a" (.ofList ["z"] compare))
        [("a", none), ("z", none)] = .ok c) ↔
      ∃ c, Plugins.order (Requirements.empty.insert "a" (.ofList ["z"] compare))
        [("z", none), ("a", none)] = .ok c) :=
  ⟨(order_ignores_input_order.1 _ _ (by decide) (.swap _ _ [])).1,
    (order_ignores_input_order.2 _ _ _ (by decide) (.swap _ _ [])).1⟩

end DevstackConf
