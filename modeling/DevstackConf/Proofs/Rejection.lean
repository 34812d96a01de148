import DevstackConf.Proofs.Ordering
import Mathlib.Data.List.Induction

/-!
# Where an ordering is refused

Ordering variables or plugins stores a list of named values in a catalog, one pair at a time,
each checked against the pairs stored before it. The pair at index `i` is at fault (`Faulty`)
when its name repeats an earlier name, or when the edges given by the pairs up to and including
it form a cycle. Edges to names that come later in the list count, since they were recorded
before the later name arrived.

The fold is refused exactly at the first fault, with the error that fault gives: a repeated name
before anything else, else a cycle, each naming the pair's name
(`insertAll_fails_at_first_fault`). Before the first fault the stored pairs have distinct names
and no cycle (`forall_not_faulty_iff`), so the catalog holds the graph of that prefix; the next
pair is then refused as a repeat, or because one of its dependencies reaches back to it, which is
what a cycle through its new edges means. A list with no fault is accepted.

The edges are stated in the domain's words for variables (`Variables.RefersTo`) and for plugins
(`Plugins.Requires`); `ordering_fails_at_first_fault` carries the result over to both.
-/

namespace DevstackConf

/-- The pair at `i` of `l` repeats the name of an earlier pair, or the edges `R` that the pairs up
to and including it give form a cycle. -/
def Faulty {α : Type} (R : List (String × α) → String → String → Prop) (l : List (String × α))
    (i : Nat) : Prop :=
  ∃ q, l[i]? = some q ∧
    (q.1 ∈ (l.take i).map Prod.fst ∨ ∃ x, Relation.TransGen (R (l.take (i + 1))) x x)

section Faulty

variable {α : Type} {R : List (String × α) → String → String → Prop}

theorem faulty_append_of_lt {l r : List (String × α)} {i : Nat} (h : i < l.length) :
    Faulty R (l ++ r) i ↔ Faulty R l i := by
  rw [Faulty, Faulty, List.getElem?_append_left h, List.take_append_of_le_length (Nat.le_of_lt h),
    List.take_append_of_le_length (Nat.succ_le_of_lt h)]

theorem faulty_append_length {l r : List (String × α)} {q : String × α} :
    Faulty R (l ++ q :: r) l.length ↔
      q.1 ∈ l.map Prod.fst ∨ ∃ x, Relation.TransGen (R (l ++ [q])) x x := by
  have hq : (l ++ q :: r)[l.length]? = some q := by simp
  have htake : (l ++ q :: r).take (l.length + 1) = l ++ [q] := by
    rw [List.take_append, List.take_of_length_le (Nat.le_succ _)]
    simp
  simp only [Faulty, hq, List.take_left' rfl, htake, Option.some.injEq, exists_eq_left']

theorem not_faulty_of_length_le {l : List (String × α)} {i : Nat} (h : l.length ≤ i) :
    ¬ Faulty R l i := by
  rintro ⟨q, hq, -⟩
  rw [List.getElem?_eq_none h] at hq
  cases hq

/-- One more pair leaves a list without faults exactly when the list has none, and the new pair
repeats no name and closes no cycle. -/
theorem forall_not_faulty_append_singleton {l : List (String × α)} {q : String × α} :
    (∀ i, ¬ Faulty R (l ++ [q]) i) ↔
      (∀ i, ¬ Faulty R l i) ∧ q.1 ∉ l.map Prod.fst ∧
      ∀ x, ¬ Relation.TransGen (R (l ++ [q])) x x := by
  constructor
  · intro h
    refine ⟨fun i hi => ?_, fun hq => h l.length (faulty_append_length.mpr (.inl hq)),
      fun x hx => h l.length (faulty_append_length.mpr (.inr ⟨x, hx⟩))⟩
    by_cases hil : i < l.length
    · exact h i ((faulty_append_of_lt hil).mpr hi)
    · exact not_faulty_of_length_le (Nat.le_of_not_lt hil) hi
  · rintro ⟨hl, hq, hc⟩ i hi
    rcases Nat.lt_trichotomy i l.length with hil | rfl | hil
    · exact hl i ((faulty_append_of_lt hil).mp hi)
    · exact (faulty_append_length.mp hi).elim hq fun ⟨x, hx⟩ => hc x hx
    · have hlen : (l ++ [q]).length ≤ i := by
        simp only [List.length_append, List.length_singleton]
        omega
      exact not_faulty_of_length_le hlen hi

/-- Faults do not depend on how the values of the pairs are written, as long as the names and
the edges stay. -/
theorem faulty_map {β : Type} {R' : List (String × β) → String → String → Prop}
    {f : String × α → String × β} (hf : ∀ p, (f p).1 = p.1) (hR : ∀ M, R' (M.map f) = R M)
    (l : List (String × α)) (i : Nat) : Faulty R' (l.map f) i ↔ Faulty R l i := by
  have hfst : Prod.fst ∘ f = Prod.fst := funext hf
  simp only [Faulty, List.getElem?_map, ← List.map_take, hR, List.map_map, hfst]
  constructor
  · rintro ⟨q', hq', h⟩
    obtain ⟨q, hq, rfl⟩ := Option.map_eq_some_iff.mp hq'
    exact ⟨q, hq, by rwa [hf] at h⟩
  · rintro ⟨q, hq, h⟩
    exact ⟨f q, by rw [hq, Option.map_some], by rwa [hf]⟩

end Faulty

namespace Catalog

variable {α : Type}

/-- The edges that the pairs of `l` give under the rule `deps`: from the name of each pair to
every name the rule lists for it. -/
def PairEdge (deps : String → α → List String) (l : List (String × α)) (x y : String) : Prop :=
  ∃ v, (x, v) ∈ l ∧ y ∈ deps x v

theorem not_transGen_pairEdge_nil (deps : String → α → List String) (x : String) :
    ¬ Relation.TransGen (PairEdge deps []) x x := by
  intro h
  obtain ⟨y, ⟨v, hv, -⟩, -⟩ := Relation.TransGen.head'_iff.mp h
  exact List.not_mem_nil hv

/-- With distinct names, the graph of a list has exactly the edges its pairs give. -/
theorem edge_graphOf_iff {deps : String → α → List String} {l : List (String × α)}
    (hnd : (l.map Prod.fst).Nodup) {x y : String} :
    (graphOf deps l).Edge x y ↔ PairEdge deps l x y := by
  constructor
  · rintro ⟨ds, hds, hy⟩
    have hnd' : ((l.map fun p =>
        (p.1, (Std.ExtTreeSet.ofList (deps p.1 p.2) compare : NameSet))).map Prod.fst).Nodup := by
      rw [map_fst_entries]
      exact hnd
    obtain ⟨⟨x', v⟩, hxv, hpair⟩ := List.mem_map.mp (mem_of_getElem?_ofList hnd' hds)
    simp only [Prod.mk.injEq] at hpair
    obtain ⟨rfl, rfl⟩ := hpair
    exact ⟨v, hxv, by simpa using hy⟩
  · rintro ⟨v, hxv, hy⟩
    exact ⟨_, graphOf_getElem? hnd hxv, by simpa using hy⟩

theorem mem_graphOf_deps {deps : String → α → List String} {l : List (String × α)}
    {x : String} :
    x ∈ (graphOf deps l).deps ↔ x ∈ l.map Prod.fst := by
  simp only [graphOf, Std.ExtTreeMap.mem_ofList, map_fst_entries, List.contains_iff_mem]

/-- Recording a pair with a new name in the graph of `p` gives every edge of `p` and the pair. -/
theorem edge_insert_graphOf_of_pairEdge {deps : String → α → List String}
    {p : List (String × α)} {q : String × α} (hnd : (p.map Prod.fst).Nodup)
    (hq : q.1 ∉ p.map Prod.fst) {a b : String} (h : PairEdge deps (p ++ [q]) a b) :
    (⟨(graphOf deps p).deps.insert q.1 (.ofList (deps q.1 q.2) compare)⟩ : Graph).Edge a b := by
  obtain ⟨v, hv, hb⟩ := h
  rcases List.mem_append.mp hv with hv | hv
  · have ha : a ≠ q.1 := fun h => hq (h ▸ List.mem_map_of_mem (f := Prod.fst) hv)
    exact Graph.edge_insert_iff.mpr (.inr ⟨ha, (edge_graphOf_iff hnd).mpr ⟨v, hv, hb⟩⟩)
  · obtain rfl := List.mem_singleton.mp hv
    exact Graph.edge_insert_iff.mpr (.inl ⟨rfl, by simpa using hb⟩)

theorem reaches_graphOf_iff {deps : String → α → List String} {l : List (String × α)}
    (hnd : (l.map Prod.fst).Nodup) {x y : String} :
    (graphOf deps l).Reaches x y ↔ Relation.TransGen (PairEdge deps l) x y := by
  have hedge : (graphOf deps l).Edge = PairEdge deps l :=
    funext fun _ => funext fun _ => propext (edge_graphOf_iff hnd)
  rw [Graph.Reaches, hedge]

/-- The fold from the empty catalog succeeds exactly when the names are distinct and the edges
of the pairs form no cycle. -/
theorem insertAll_empty_ok_iff_acyclic {deps : String → α → List String}
    {l : List (String × α)} :
    (∃ c, Catalog.empty.insertAll deps l = .ok c) ↔
      (l.map Prod.fst).Nodup ∧ ∀ x, ¬ Relation.TransGen (PairEdge deps l) x x := by
  constructor
  · rintro ⟨c, h⟩
    have hnd := (insertAll_empty_eq_ok h).1
    have hacyc := (insertAll_empty_ok_iff hnd).mp ⟨c, h⟩
    exact ⟨hnd, fun x hx => hacyc x ((reaches_graphOf_iff hnd).mpr hx)⟩
  · rintro ⟨hnd, hacyc⟩
    exact (insertAll_empty_ok_iff hnd).mpr fun x hx =>
      hacyc x ((reaches_graphOf_iff hnd).mp hx)

/-- A list has no fault exactly when its names are distinct and its edges form no cycle. -/
theorem forall_not_faulty_iff {deps : String → α → List String} (l : List (String × α)) :
    (∀ i, ¬ Faulty (PairEdge deps) l i) ↔
      (l.map Prod.fst).Nodup ∧ ∀ x, ¬ Relation.TransGen (PairEdge deps l) x x := by
  induction l using List.reverseRecOn with
  | nil =>
      exact ⟨fun _ => ⟨List.nodup_nil, not_transGen_pairEdge_nil deps⟩,
        fun _ i => not_faulty_of_length_le (Nat.zero_le i)⟩
  | append_singleton l q ih =>
      -- the edges of `l` are edges of `l ++ [q]`, so a cycle of `l` is one of `l ++ [q]`
      have hmono : ∀ x, Relation.TransGen (PairEdge deps l) x x →
          Relation.TransGen (PairEdge deps (l ++ [q])) x x := fun x hx =>
        Relation.TransGen.mono (fun _ _ ⟨v, hv, hy⟩ => ⟨v, List.mem_append_left _ hv, hy⟩)
          _ _ hx
      have hnodup : ((l ++ [q]).map Prod.fst).Nodup ↔
          q.1 ∉ l.map Prod.fst ∧ (l.map Prod.fst).Nodup := by
        rw [List.map_append, List.map_singleton, ← List.concat_eq_append, List.nodup_concat]
      rw [forall_not_faulty_append_singleton, ih, hnodup]
      constructor
      · rintro ⟨⟨hnd, -⟩, hq, hc⟩
        exact ⟨⟨hq, hnd⟩, hc⟩
      · rintro ⟨⟨hq, hnd⟩, hc⟩
        exact ⟨⟨hnd, fun x hx => hc x (hmono x hx)⟩, hq, hc⟩

theorem insertAll_append_of_ok {deps : String → α → List String} {c c₁ : Catalog α}
    {l₁ l₂ : List (String × α)} (h : c.insertAll deps l₁ = .ok c₁) :
    c.insertAll deps (l₁ ++ l₂) = c₁.insertAll deps l₂ := by
  rw [insertAll, List.foldlM_append]
  rw [insertAll] at h
  rw [h]
  rfl

/-- After a prefix without faults, a faulty pair is refused: as a repeat if it repeats a name,
otherwise because one of its dependencies reaches back to it. -/
theorem insert_eq_error_after_fault_free {deps : String → α → List String}
    {p : List (String × α)} {q : String × α} {c : Catalog α}
    (hc : Catalog.empty.insertAll deps p = .ok c)
    (hfault : q.1 ∈ p.map Prod.fst ∨ ∃ x, Relation.TransGen (PairEdge deps (p ++ [q])) x x) :
    c.insert q.1 q.2 (deps q.1 q.2) =
      .error (if q.1 ∈ p.map Prod.fst then .duplicateItem q.1 else .cycleDetected q.1) := by
  obtain ⟨hnd, rfl⟩ := insertAll_empty_eq_ok hc
  have hacyc := (insertAll_empty_ok_iff hnd).mp ⟨_, hc⟩
  by_cases hq : q.1 ∈ p.map Prod.fst
  · rw [if_pos hq]
    simp [insert, Std.ExtTreeMap.contains_ofList, hq]
  · rw [if_neg hq]
    have hnew : q.1 ∉ (graphOf deps p).deps := mem_graphOf_deps.not.mpr hq
    -- the graph with `q` recorded has the edges of `p ++ [q]`, which form a cycle
    have hcycle : ¬ (⟨(graphOf deps p).deps.insert q.1 (.ofList (deps q.1 q.2) compare)⟩ :
        Graph).Acyclic := by
      obtain ⟨x, hx⟩ := hfault.resolve_left hq
      intro hacyc'
      exact hacyc' x
        (Relation.TransGen.mono (fun _ _ => edge_insert_graphOf_of_pairEdge hnd hq) _ _ hx)
    have hadd : (graphOf deps p).add q.1 (deps q.1 q.2) = .error (.cycleDetected q.1) := by
      apply (Graph.add_eq_cycleDetected_iff (Graph.contains_eq_false_iff.mpr hnew)).mpr
      by_contra hfree
      refine hcycle (hacyc.insert hnew fun d hd => ?_)
      have hd' : d ∈ deps q.1 q.2 := by simpa using hd
      exact ⟨fun h => hfree ⟨d, hd', .inl h⟩, fun h => hfree ⟨d, hd', .inr h⟩⟩
    simp [insert, Std.ExtTreeMap.contains_ofList, hq, hadd]

/-- Inserting the pairs of `l` from the empty catalog succeeds exactly when no pair is at fault,
and otherwise fails at the first fault, with a repeat if the pair there repeats a name and with
a cycle else, naming that pair. -/
theorem insertAll_fails_at_first_fault (deps : String → α → List String)
    (l : List (String × α)) :
    ((∃ c, Catalog.empty.insertAll deps l = .ok c) ↔ ∀ i, ¬ Faulty (PairEdge deps) l i) ∧
    ∀ i q, l[i]? = some q → Faulty (PairEdge deps) l i →
      (∀ j < i, ¬ Faulty (PairEdge deps) l j) →
      Catalog.empty.insertAll deps l =
        .error (if q.1 ∈ (l.take i).map Prod.fst then .duplicateItem q.1
          else .cycleDetected q.1) := by
  refine ⟨by rw [insertAll_empty_ok_iff_acyclic, forall_not_faulty_iff],
    fun i q hq hfault hfirst => ?_⟩
  -- split the list at the fault
  have hi : i < l.length := (List.getElem?_eq_some_iff.mp hq).1
  obtain ⟨p, r, rfl, rfl⟩ : ∃ p r, l = p ++ q :: r ∧ p.length = i := by
    refine ⟨l.take i, l.drop (i + 1), ?_, List.length_take_of_le (Nat.le_of_lt hi)⟩
    have hqi : l[i] = q := (List.getElem?_eq_some_iff.mp hq).2
    conv_lhs => rw [← List.take_append_drop i l, List.drop_eq_getElem_cons hi, hqi]
  have hp : ∀ j, ¬ Faulty (PairEdge deps) p j := by
    intro j hj
    by_cases hjp : j < p.length
    · exact hfirst j hjp ((faulty_append_of_lt hjp).mpr hj)
    · exact not_faulty_of_length_le (Nat.le_of_not_lt hjp) hj
  obtain ⟨c, hc⟩ := insertAll_empty_ok_iff_acyclic.mpr ((forall_not_faulty_iff p).mp hp)
  rw [List.take_left' rfl, insertAll_append_of_ok hc,
    insertAll_cons_of_error (insert_eq_error_after_fault_free hc (faulty_append_length.mp hfault))]

/-- The same for pairs whose values are rewritten by `f` before they are stored, when `f` keeps
the names and `R` states the edges in terms of the pairs before rewriting; a cycle of all the
edges is always refused. -/
theorem insertAll_map_fails_at_first_fault {β : Type} {deps : String → β → List String}
    {f : String × α → String × β} (hf : ∀ p, (f p).1 = p.1)
    {R : List (String × α) → String → String → Prop}
    (hR : ∀ M, PairEdge deps (M.map f) = R M)
    (l : List (String × α)) :
    ((∃ c, Catalog.empty.insertAll deps (l.map f) = .ok c) ↔ ∀ i, ¬ Faulty R l i) ∧
    (∀ i x v, l[i]? = some (x, v) → Faulty R l i → (∀ j < i, ¬ Faulty R l j) →
      Catalog.empty.insertAll deps (l.map f) =
        .error (if x ∈ (l.take i).map Prod.fst then .duplicateItem x else .cycleDetected x)) ∧
    ((∃ y, Relation.TransGen (R l) y y) →
      ∀ c, Catalog.empty.insertAll deps (l.map f) ≠ .ok c) := by
  obtain ⟨hok, herr⟩ := insertAll_fails_at_first_fault deps (l.map f)
  refine ⟨?_, fun i x v hq hfault hfirst => ?_, fun ⟨y, hy⟩ c hc => ?_⟩
  · simp only [hok, faulty_map hf hR]
  · have hq' : (l.map f)[i]? = some (f (x, v)) := by rw [List.getElem?_map, hq, Option.map_some]
    have hfst : (List.take i (l.map f)).map Prod.fst = (l.take i).map Prod.fst := by
      rw [← List.map_take, List.map_map]
      exact List.map_congr_left fun p _ => hf p
    rw [herr i _ hq' ((faulty_map hf hR l i).mpr hfault)
      (fun j hj => by rw [faulty_map hf hR]; exact hfirst j hj), hfst, hf]
  · have hacyc := (insertAll_empty_ok_iff_acyclic.mp ⟨c, hc⟩).2
    rw [hR] at hacyc
    exact hacyc y hy

end Catalog

namespace Variables

/-- Among the pairs of `vars`, `x` refers to `y`: a pair names `x` with a value whose text refers
to `y`, a name of `known` other than `x`. -/
def RefersTo (known : List String) (vars : List (String × Scalar)) (x y : String) : Prop :=
  ∃ v, (x, v) ∈ vars ∧ y ∈ references v.display.toList ∧ y ≠ x ∧ y ∈ known

theorem pairEdge_texts (known : List String) (M : List (String × Scalar)) :
    Catalog.PairEdge (dependencies known) (M.map fun p => (p.1, p.2.display)) =
      RefersTo known M := by
  funext x y
  apply propext
  constructor
  · rintro ⟨t, ht, hy⟩
    obtain ⟨⟨x', v⟩, hv, heq⟩ := List.mem_map.mp ht
    simp only [Prod.mk.injEq] at heq
    obtain ⟨rfl, rfl⟩ := heq
    exact ⟨v, hv, mem_dependencies.mp hy⟩
  · rintro ⟨v, hv, hy⟩
    exact ⟨v.display, List.mem_map.mpr ⟨(x, v), hv, rfl⟩, mem_dependencies.mpr hy⟩

end Variables

namespace Plugins

/-- Among the pairs of `plugins`, `x` requires `r`: a pair names `x`, and `r` is recorded as a
requirement of `x` and is a name of `requested` other than `x`. -/
def Requires (reqs : Requirements) (requested : List String)
    (plugins : List (String × Option String)) (x r : String) : Prop :=
  ∃ src, (x, src) ∈ plugins ∧ r ∈ (reqs.get? x).getD ∅ ∧ r ≠ x ∧ r ∈ requested

theorem pairEdge_requirements (reqs : Requirements) (requested : List String)
    (M : List (String × Option String)) :
    Catalog.PairEdge (fun n _ => dependencies reqs requested n) (M.map id) =
      Requires reqs requested M := by
  funext x r
  apply propext
  rw [List.map_id]
  exact exists_congr fun _ => and_congr_right fun _ => mem_dependencies

end Plugins

/-- Ordering variables, for every list of pairs, repeated names allowed, succeeds exactly when no
pair is at fault: no name repeats an earlier one, and the references among the pairs up to each
index form no cycle, references to later names included and references to a variable itself or
to names outside the input left out. Otherwise it fails at the first fault, with a repeat if the
name there repeats an earlier one and with a cycle else, naming that pair; in particular a cycle
of all the references is always refused. Ordering plugins behaves the same way, with the
requirements among the requested plugins as the edges. -/
theorem ordering_fails_at_first_fault :
    (∀ vars : List (String × Scalar),
      ((∃ c, Variables.order vars = .ok c) ↔
        ∀ i, ¬ Faulty (Variables.RefersTo (vars.map Prod.fst)) vars i) ∧
      (∀ i x v, vars[i]? = some (x, v) → Faulty (Variables.RefersTo (vars.map Prod.fst)) vars i →
        (∀ j < i, ¬ Faulty (Variables.RefersTo (vars.map Prod.fst)) vars j) →
        Variables.order vars =
          .error (if x ∈ (vars.take i).map Prod.fst then .duplicateItem x else .cycleDetected x)) ∧
      ((∃ y, Relation.TransGen (Variables.RefersTo (vars.map Prod.fst) vars) y y) →
        ∀ c, Variables.order vars ≠ .ok c)) ∧
    (∀ (reqs : Requirements) (plugins : List (String × Option String)),
      ((∃ c, Plugins.order reqs plugins = .ok c) ↔
        ∀ i, ¬ Faulty (Plugins.Requires reqs (plugins.map Prod.fst)) plugins i) ∧
      (∀ i x src, plugins[i]? = some (x, src) →
        Faulty (Plugins.Requires reqs (plugins.map Prod.fst)) plugins i →
        (∀ j < i, ¬ Faulty (Plugins.Requires reqs (plugins.map Prod.fst)) plugins j) →
        Plugins.order reqs plugins =
          .error (if x ∈ (plugins.take i).map Prod.fst then .duplicateItem x else .cycleDetected x)) ∧
      ((∃ y, Relation.TransGen (Plugins.Requires reqs (plugins.map Prod.fst) plugins) y y) →
        ∀ c, Plugins.order reqs plugins ≠ .ok c)) := by
  refine ⟨fun vars => ?_, fun reqs plugins => ?_⟩
  · rw [Variables.order_eq_insertAll]
    exact Catalog.insertAll_map_fails_at_first_fault (f := fun p => (p.1, p.2.display))
      (fun _ => rfl) (Variables.pairEdge_texts (vars.map Prod.fst)) vars
  · have h := Catalog.insertAll_map_fails_at_first_fault (f := id) (fun _ => rfl)
      (Plugins.pairEdge_requirements reqs (plugins.map Prod.fst)) plugins
    rw [List.map_id] at h
    rw [Plugins.order_eq_insertAll]
    exact h

/-- Two variables that refer to each other: the first alone is fine, the second closes the cycle
and is refused, named in the error. -/
theorem mutual_reference_refused_at_second :
    ¬ Faulty (Variables.RefersTo ["A", "B"]) [("A", .str "$B"), ("B", .str "$A")] 0 ∧
      Faulty (Variables.RefersTo ["A", "B"]) [("A", .str "$B"), ("B", .str "$A")] 1 ∧
      Variables.order [("A", .str "$B"), ("B", .str "$A")] = .error (.cycleDetected "B") := by
  have hB : references (Scalar.str "$B").display.toList = ["B"] := by decide +kernel
  have hA : references (Scalar.str "$A").display.toList = ["A"] := by decide +kernel
  -- with the first pair alone, every reference leaves `A`, so none comes back to it
  have hfirst :
      ¬ Faulty (Variables.RefersTo ["A", "B"]) [("A", .str "$B"), ("B", .str "$A")] 0 := by
    rintro ⟨q, hq, hdup | ⟨x, hx⟩⟩
    · simp at hdup
    · have hfrom : ∀ a b, Variables.RefersTo ["A", "B"] [("A", .str "$B")] a b →
          a = "A" ∧ b = "B" := by
        rintro a b ⟨v, hv, hb, hba, -⟩
        simp only [List.mem_singleton, Prod.mk.injEq] at hv
        obtain ⟨rfl, rfl⟩ := hv
        rw [hB, List.mem_singleton] at hb
        exact ⟨rfl, hb⟩
      obtain ⟨b, hxb, hbx⟩ := Relation.TransGen.head'_iff.mp hx
      obtain ⟨rfl, rfl⟩ := hfrom _ _ hxb
      rcases hbx.cases_head with h | ⟨c, hbc, -⟩
      · exact absurd h (by decide)
      · exact absurd (hfrom _ _ hbc).1 (by decide)
  have hAB : Variables.RefersTo ["A", "B"] [("A", .str "$B"), ("B", .str "$A")] "A" "B" :=
    ⟨.str "$B", by simp, by rw [hB]; simp, by decide, by simp⟩
  have hBA : Variables.RefersTo ["A", "B"] [("A", .str "$B"), ("B", .str "$A")] "B" "A" :=
    ⟨.str "$A", by simp, by rw [hA]; simp, by decide, by simp⟩
  have hfault : Faulty (Variables.RefersTo ["A", "B"]) [("A", .str "$B"), ("B", .str "$A")] 1 :=
    ⟨("B", .str "$A"), rfl, .inr ⟨"A", .head hAB (.single hBA)⟩⟩
  have herr := (ordering_fails_at_first_fault.1 [("A", .str "$B"), ("B", .str "$A")]).2.1 1 "B"
    (.str "$A") rfl hfault (fun j hj => by rw [Nat.lt_one_iff.mp hj]; exact hfirst)
  refine ⟨hfirst, hfault, ?_⟩
  rw [herr]
  simp

end DevstackConf
