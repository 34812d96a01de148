import DevstackConf.Proofs.Graph.Closure
import Mathlib.Data.List.Basic
import Mathlib.Data.List.Perm.Subperm

/-!
# The breadth-first closure is reachability

`Graph.ancestorsBy` answers a closure query by a breadth-first walk over a queue. It records the
dependencies of each item it takes from the queue, and queues a name only when it records it for
the first time; it starts from the queried name without recording it.

Three facts carry the walk (`SweepInv`): every recorded name is reachable from the start, every
queued name is the start or recorded, and every name already taken from the queue has all its
dependencies recorded. When the queue runs dry the last fact says the recorded names are closed
under edges, so they are exactly the names reachable from the start (`SweepInv.mem_iff_reaches`),
on every graph, cyclic ones included.

The walk never runs out of fuel. Taking a name from the queue shortens the queue by one and
queues only names recorded at that moment, each of which leaves the dependency lists' names not
yet recorded; so `load`, the queue's length plus the number of such names, falls at every step,
and it starts at one more than the length of the dependency lists (`sweep_soft`).

A strict lookup walks the same way but fails, naming the start, at the first name it takes from
the queue that is not an item. Every name the soft walk records is taken from the queue once, so
the strict walk fails exactly when the start or a name reachable from it is not an item, and
otherwise returns the soft walk's answer (`sweep_strict`).
-/

namespace DevstackConf

theorem NameSet.nodup_toList (t : NameSet) : t.toList.Nodup :=
  Std.ExtTreeSet.distinct_toList.imp fun h heq => h (Std.LawfulEqOrd.compare_eq_iff_eq.mpr heq)

namespace Graph

/-- Recording and queueing the names of a list with no repeats records all of them and queues,
in order, those that were not recorded before. -/
theorem foldl_enqueue :
    ∀ (l : List String) (all : NameSet) (q : List String), l.Nodup →
      (∀ x, x ∈ (l.foldl
          (fun st p => if st.1.contains p then st else (st.1.insert p, st.2 ++ [p])) (all, q)).1 ↔
        x ∈ all ∨ x ∈ l) ∧
        (l.foldl (fun st p => if st.1.contains p then st else (st.1.insert p, st.2 ++ [p]))
          (all, q)).2 = q ++ l.filter fun p => !all.contains p
  | [], _, _, _ => ⟨by simp, by simp⟩
  | p :: l, all, q, hnd => by
      obtain ⟨hpl, hl⟩ := List.nodup_cons.mp hnd
      by_cases hp : p ∈ all
      · have hc : all.contains p = true := Std.ExtTreeSet.contains_iff_mem.mpr hp
        obtain ⟨hmem, hq⟩ := foldl_enqueue l all q hl
        simp only [List.foldl_cons, hc, if_true]
        refine ⟨fun x => ?_, ?_⟩
        · rw [hmem, List.mem_cons]
          grind
        · rw [hq, List.filter_cons_of_neg (by simp [hc])]
      · have hc : all.contains p = false := NameSet.contains_eq_false_iff.mpr hp
        obtain ⟨hmem, hq⟩ := foldl_enqueue l (all.insert p) (q ++ [p]) hl
        simp only [List.foldl_cons, hc, Bool.false_eq_true, if_false]
        refine ⟨fun x => ?_, ?_⟩
        · rw [hmem, NameSet.mem_insert_iff, List.mem_cons]
          grind
        · -- `p` does not occur again, so recording it changes nothing for the rest of the list
          have hsame : (l.filter fun x => !(all.insert p).contains x) =
              l.filter fun x => !all.contains x := by
            apply List.filter_congr
            intro x hx
            have hpx : p ≠ x := fun h => hpl (h ▸ hx)
            simp [Std.ExtTreeSet.contains_insert, hpx]
          rw [hq, hsame, List.filter_cons_of_pos (by simp [hc]), List.append_assoc,
            List.singleton_append]

theorem mem_enqueue_fst {ds all : NameSet} {q : List String} {x : String} :
    x ∈ (enqueue ds (all, q)).1 ↔ x ∈ all ∨ x ∈ ds := by
  rw [enqueue, Std.ExtTreeSet.foldl_eq_foldl_toList,
    (foldl_enqueue ds.toList all q (NameSet.nodup_toList ds)).1, Std.ExtTreeSet.mem_toList]

theorem enqueue_snd (ds all : NameSet) (q : List String) :
    (enqueue ds (all, q)).2 = q ++ ds.toList.filter fun p => !all.contains p := by
  rw [enqueue, Std.ExtTreeSet.foldl_eq_foldl_toList]
  exact (foldl_enqueue ds.toList all q (NameSet.nodup_toList ds)).2

theorem sweep_item {g : Graph} {root : String} {lookup : Lookup} {fuel : Nat} {cur : String}
    {pending : List String} {all ds : NameSet} (h : g.deps[cur]? = some ds) :
    g.sweep root lookup (fuel + 1) (cur :: pending) all =
      g.sweep root lookup fuel (enqueue ds (all, pending)).2 (enqueue ds (all, pending)).1 := by
  simp only [sweep, h]

theorem sweep_soft_unknown {g : Graph} {root : String} {fuel : Nat} {cur : String}
    {pending : List String} {all : NameSet} (h : g.deps[cur]? = none) :
    g.sweep root .soft (fuel + 1) (cur :: pending) all = g.sweep root .soft fuel pending all := by
  simp only [sweep, h]

theorem sweep_strict_unknown {g : Graph} {root : String} {fuel : Nat} {cur : String}
    {pending : List String} {all : NameSet} (h : g.deps[cur]? = none) :
    g.sweep root .strict (fuel + 1) (cur :: pending) all = .error (.unknownItem root) := by
  simp only [sweep, h]

/-- A walk only records names. -/
theorem subset_of_sweep_eq_ok {g : Graph} {root : String} {lookup : Lookup} :
    ∀ {fuel : Nat} {pending : List String} {all A : NameSet},
      g.sweep root lookup fuel pending all = .ok A → ∀ x ∈ all, x ∈ A
  | 0, _, _, _, h => by
      rw [sweep, Except.ok.injEq] at h
      exact fun x hx => h ▸ hx
  | _ + 1, [], _, _, h => by
      rw [sweep, Except.ok.injEq] at h
      exact fun x hx => h ▸ hx
  | fuel + 1, cur :: pending, all, A, h => by
      cases hcur : g.deps[cur]? with
      | some ds =>
          rw [sweep_item hcur] at h
          exact fun x hx => subset_of_sweep_eq_ok h x (mem_enqueue_fst.mpr (.inl hx))
      | none =>
          cases lookup with
          | soft =>
              rw [sweep_soft_unknown hcur] at h
              exact subset_of_sweep_eq_ok h
          | strict =>
              rw [sweep_strict_unknown hcur] at h
              cases h

/-- What the walk from `root` keeps true of its queue and of the names it has recorded. -/
structure SweepInv (g : Graph) (root : String) (pending : List String) (all : NameSet) : Prop where
  /-- Every recorded name is reachable from the start. -/
  reached : ∀ y ∈ all, g.Reaches root y
  /-- Every queued name is the start or recorded. -/
  queued : ∀ x ∈ pending, x = root ∨ x ∈ all
  /-- Every name taken from the queue has its dependencies recorded. -/
  closed : ∀ x, (x = root ∨ x ∈ all) → x ∉ pending → ∀ y, g.Edge x y → y ∈ all

theorem SweepInv.start (g : Graph) (root : String) : g.SweepInv root [root] ∅ where
  reached _ hy := absurd hy Std.ExtTreeSet.not_mem_empty
  queued x hx := .inl (List.mem_singleton.mp hx)
  closed x hx hxq := by
    rcases hx with rfl | hx
    · exact absurd (List.mem_singleton_self x) hxq
    · exact absurd hx Std.ExtTreeSet.not_mem_empty

/-- Taking an item from the queue keeps the invariant. -/
theorem SweepInv.item {g : Graph} {root cur : String} {pending : List String} {all ds : NameSet}
    (hinv : g.SweepInv root (cur :: pending) all) (h : g.deps[cur]? = some ds) :
    g.SweepInv root (enqueue ds (all, pending)).2 (enqueue ds (all, pending)).1 where
  reached y hy := by
    rcases mem_enqueue_fst.mp hy with hy | hy
    · exact hinv.reached y hy
    · -- a new name is a dependency of `cur`, which is the start or was reached
      have hedge : g.Edge cur y := ⟨ds, h, hy⟩
      rcases hinv.queued cur List.mem_cons_self with rfl | hcur
      · exact .single hedge
      · exact .tail (hinv.reached cur hcur) hedge
  queued x hx := by
    rw [enqueue_snd, List.mem_append, List.mem_filter] at hx
    rcases hx with hx | ⟨hx, -⟩
    · exact (hinv.queued x (List.mem_cons_of_mem _ hx)).imp_right
        fun hx => mem_enqueue_fst.mpr (.inl hx)
    · exact .inr (mem_enqueue_fst.mpr (.inr (Std.ExtTreeSet.mem_toList.mp hx)))
  closed x hx hxq y hxy := by
    by_cases hxc : x = cur
    · subst hxc
      obtain ⟨ds', hds', hy⟩ := hxy
      rw [h, Option.some.injEq] at hds'
      exact mem_enqueue_fst.mpr (.inr (hds' ▸ hy))
    · -- a name recorded just now is queued just now, so `x` was recorded before
      have hxold : x = root ∨ x ∈ all := by
        rcases hx with rfl | hx
        · exact .inl rfl
        rcases mem_enqueue_fst.mp hx with hx | hx
        · exact .inr hx
        by_cases hxa : x ∈ all
        · exact .inr hxa
        · refine absurd ?_ hxq
          rw [enqueue_snd, List.mem_append, List.mem_filter]
          exact .inr ⟨Std.ExtTreeSet.mem_toList.mpr hx, by simpa using hxa⟩
      have hxq' : x ∉ cur :: pending := by
        rw [List.mem_cons, not_or]
        refine ⟨hxc, fun hp => hxq ?_⟩
        rw [enqueue_snd]
        exact List.mem_append_left _ hp
      exact mem_enqueue_fst.mpr (.inl (hinv.closed x hxold hxq' y hxy))

/-- Taking a name that is not an item from the queue keeps the invariant. -/
theorem SweepInv.unknown {g : Graph} {root cur : String} {pending : List String} {all : NameSet}
    (hinv : g.SweepInv root (cur :: pending) all) (h : g.deps[cur]? = none) :
    g.SweepInv root pending all where
  reached := hinv.reached
  queued x hx := hinv.queued x (List.mem_cons_of_mem _ hx)
  closed x hx hxq y hxy := by
    by_cases hxc : x = cur
    · obtain ⟨ds, hds, -⟩ := hxy
      rw [hxc, h] at hds
      cases hds
    · exact hinv.closed x hx (by simp [hxc, hxq]) y hxy

/-- Once the queue is empty, the recorded names are exactly the names reachable from the start. -/
theorem SweepInv.mem_iff_reaches {g : Graph} {root : String} {A : NameSet}
    (hinv : g.SweepInv root [] A) (y : String) : y ∈ A ↔ g.Reaches root y := by
  refine ⟨hinv.reached y, fun hy => ?_⟩
  -- induction along the path: every name on it is recorded, so its next edge is too
  induction hy with
  | single hxy => exact hinv.closed root (.inl rfl) List.not_mem_nil _ hxy
  | tail _ hzy ih => exact hinv.closed _ (.inr ih) List.not_mem_nil _ hzy

theorem mem_targets {g : Graph} {x y : String} {ds : NameSet} (h : g.deps[x]? = some ds)
    (hy : y ∈ ds) : y ∈ g.targets := by
  rw [targets, List.mem_flatMap]
  exact ⟨(x, ds), Std.ExtTreeMap.mem_toList_iff_getElem?_eq_some.mpr h,
    Std.ExtTreeSet.mem_toList.mpr hy⟩

/-- The names the walk may still take from its queue: those queued, and every name of the
dependency lists that is not recorded yet. -/
def load (g : Graph) (pending : List String) (all : NameSet) : Nat :=
  pending.length + (g.targets.filter fun p => !all.contains p).length

/-- Taking an item from the queue lowers the load: each name queued with it was one of the
dependency lists' names not recorded before. -/
theorem load_enqueue_lt {g : Graph} {cur : String} {pending : List String} {all ds : NameSet}
    (h : g.deps[cur]? = some ds) :
    g.load (enqueue ds (all, pending)).2 (enqueue ds (all, pending)).1 <
      g.load (cur :: pending) all := by
  have hsplit := @List.length_eq_length_filter_add _
    (g.targets.filter fun p => !all.contains p) ds.contains
  -- the names left unrecorded after the step are the unrecorded ones outside `ds`
  have hrest : (g.targets.filter fun p => !(enqueue ds (all, pending)).1.contains p) =
      (g.targets.filter fun p => !all.contains p).filter fun p => !ds.contains p := by
    rw [List.filter_filter]
    apply List.filter_congr
    intro x _
    have hx := @mem_enqueue_fst ds all pending x
    cases hxa : all.contains x <;> cases hxd : ds.contains x <;>
      cases hxe : (enqueue ds (all, pending)).1.contains x <;> simp_all
  -- the queued names have no repeats and lie among the unrecorded names of `ds`
  have hqueued : (ds.toList.filter fun p => !all.contains p).length ≤
      ((g.targets.filter fun p => !all.contains p).filter ds.contains).length := by
    apply List.Subperm.length_le
    apply List.Nodup.subperm ((NameSet.nodup_toList ds).filter _)
    intro x hx
    rw [List.mem_filter, Std.ExtTreeSet.mem_toList] at hx
    rw [List.mem_filter, List.mem_filter]
    exact ⟨⟨mem_targets h hx.1, hx.2⟩, Std.ExtTreeSet.contains_iff_mem.mpr hx.1⟩
  rw [load, load, enqueue_snd, hrest, List.length_append, List.length_cons]
  omega

theorem load_unknown_lt (g : Graph) (cur : String) (pending : List String) (all : NameSet) :
    g.load pending all < g.load (cur :: pending) all := by
  simp only [load, List.length_cons]
  omega

theorem nil_of_load_le_zero {g : Graph} {pending : List String} {all : NameSet}
    (h : g.load pending all ≤ 0) : pending = [] :=
  List.eq_nil_of_length_eq_zero (by simp only [load] at h; omega)

theorem load_start (g : Graph) (root : String) : g.load [root] ∅ = g.targets.length + 1 := by
  have hall : (g.targets.filter fun p => !(∅ : NameSet).contains p) = g.targets :=
    List.filter_eq_self.mpr fun x _ => by simp
  rw [load, hall, List.length_singleton, Nat.add_comm]

/-- With fuel for its load, the soft walk runs until its queue is empty. -/
theorem sweep_soft {g : Graph} {root : String} :
    ∀ (fuel : Nat) (pending : List String) (all : NameSet), g.SweepInv root pending all →
      g.load pending all ≤ fuel → ∃ A, g.sweep root .soft fuel pending all = .ok A ∧
        g.SweepInv root [] A
  | 0, pending, all, hinv, hload => by
      obtain rfl := nil_of_load_le_zero hload
      exact ⟨all, by rw [sweep], hinv⟩
  | _ + 1, [], all, hinv, _ => ⟨all, by rw [sweep], hinv⟩
  | fuel + 1, cur :: pending, all, hinv, hload => by
      cases hcur : g.deps[cur]? with
      | some ds =>
          rw [sweep_item hcur]
          exact sweep_soft fuel _ _ (hinv.item hcur)
            (Nat.le_of_lt_succ (Nat.lt_of_lt_of_le (load_enqueue_lt hcur) hload))
      | none =>
          rw [sweep_soft_unknown hcur]
          exact sweep_soft fuel _ _ (hinv.unknown hcur)
            (Nat.le_of_lt_succ (Nat.lt_of_lt_of_le (load_unknown_lt g cur pending all) hload))

/-- With fuel for its load, the strict walk returns what the soft walk returns if every name in
the queue and every name the soft walk records beyond `all` is an item, and fails naming the
start otherwise. -/
theorem sweep_strict {g : Graph} {root : String} :
    ∀ (fuel : Nat) (pending : List String) (all A : NameSet), g.load pending all ≤ fuel →
      g.sweep root .soft fuel pending all = .ok A →
      (g.sweep root .strict fuel pending all = .ok A ∧
          (∀ x ∈ pending, x ∈ g.deps) ∧ ∀ x ∈ A, x ∉ all → x ∈ g.deps) ∨
        (g.sweep root .strict fuel pending all = .error (.unknownItem root) ∧
          ¬ ((∀ x ∈ pending, x ∈ g.deps) ∧ ∀ x ∈ A, x ∉ all → x ∈ g.deps))
  | 0, pending, all, A, hload, hsoft => by
      obtain rfl := nil_of_load_le_zero hload
      rw [sweep, Except.ok.injEq] at hsoft
      subst hsoft
      exact .inl ⟨by rw [sweep], by simp, fun x hx hxa => absurd hx hxa⟩
  | _ + 1, [], all, A, _, hsoft => by
      rw [sweep, Except.ok.injEq] at hsoft
      subst hsoft
      exact .inl ⟨by rw [sweep], by simp, fun x hx hxa => absurd hx hxa⟩
  | fuel + 1, cur :: pending, all, A, hload, hsoft => by
      cases hcur : g.deps[cur]? with
      | none =>
          have hcur' : cur ∉ g.deps := by
            rw [Std.ExtTreeMap.mem_iff_isSome_getElem?, hcur]
            simp
          exact .inr ⟨sweep_strict_unknown hcur, fun hk => hcur' (hk.1 cur List.mem_cons_self)⟩
      | some ds =>
          rw [sweep_item hcur] at hsoft ⊢
          have hsub := subset_of_sweep_eq_ok hsoft
          have hcur' : cur ∈ g.deps := Std.ExtTreeMap.mem_iff_isSome_getElem?.mpr (by simp [hcur])
          -- the names known to the strict walk from here on are the same as before the step
          have hknown : ((∀ x ∈ (enqueue ds (all, pending)).2, x ∈ g.deps) ∧
                ∀ x ∈ A, x ∉ (enqueue ds (all, pending)).1 → x ∈ g.deps) ↔
              ((∀ x ∈ cur :: pending, x ∈ g.deps) ∧
                ∀ x ∈ A, x ∉ all → x ∈ g.deps) := by
            simp only [enqueue_snd, List.mem_append, List.mem_filter, Std.ExtTreeSet.mem_toList,
              List.mem_cons, mem_enqueue_fst]
            constructor
            · rintro ⟨hq, hA⟩
              refine ⟨fun x hx => ?_, fun x hx hxa => ?_⟩
              · rcases hx with rfl | hx
                · exact hcur'
                · exact hq x (.inl hx)
              · by_cases hxd : x ∈ ds
                · exact hq x (.inr ⟨hxd, by simpa using hxa⟩)
                · exact hA x hx (by simp [hxa, hxd])
            · rintro ⟨hq, hA⟩
              refine ⟨fun x hx => ?_, fun x hx hxn => hA x hx fun h => hxn (.inl h)⟩
              rcases hx with hx | ⟨hxd, hxa⟩
              · exact hq x (.inr hx)
              · refine hA x (hsub x (mem_enqueue_fst.mpr (.inr hxd))) ?_
                simpa using hxa
          rw [← hknown]
          exact sweep_strict fuel _ _ A
            (Nat.le_of_lt_succ (Nat.lt_of_lt_of_le (load_enqueue_lt hcur) hload)) hsoft

/-- The soft closure query returns exactly the names reachable from the queried name. -/
theorem ancestorsBy_soft_mem (g : Graph) (n : String) :
    ∃ A, g.ancestorsBy n .soft = .ok A ∧ ∀ y, y ∈ A ↔ g.Reaches n y := by
  obtain ⟨A, hA, hinv⟩ := @sweep_soft g n _ [n] ∅ (SweepInv.start g n)
    (Nat.le_of_eq (load_start g n))
  exact ⟨A, hA, hinv.mem_iff_reaches⟩

/-- The soft closure query agrees with `ancestors`, the closure that insertion checks against. -/
theorem ancestorsBy_soft (g : Graph) (n : String) :
    g.ancestorsBy n .soft = .ok (g.ancestors n) := by
  obtain ⟨A, hA, hmem⟩ := ancestorsBy_soft_mem g n
  rw [hA]
  congr 1
  ext y
  rw [hmem, mem_ancestors_iff]

/-- The strict closure query returns the soft answer when the queried name and every name it
reaches are items, and otherwise fails naming the queried name. -/
theorem ancestorsBy_strict (g : Graph) (n : String) :
    (g.ancestorsBy n .strict = .ok (g.ancestors n) ∧ n ∈ g.deps ∧
        ∀ y, g.Reaches n y → y ∈ g.deps) ∨
      (g.ancestorsBy n .strict = .error (.unknownItem n) ∧
        ¬ (n ∈ g.deps ∧ ∀ y, g.Reaches n y → y ∈ g.deps)) := by
  have hsoft := ancestorsBy_soft g n
  rcases sweep_strict _ [n] ∅ _ (Nat.le_of_eq (load_start g n)) hsoft with
    ⟨hok, hq, hA⟩ | ⟨herr, hnot⟩
  · refine .inl ⟨hok, hq n (List.mem_singleton_self n), fun y hy => ?_⟩
    exact hA y (mem_ancestors_iff.mpr hy) Std.ExtTreeSet.not_mem_empty
  · refine .inr ⟨herr, fun ⟨hn, hy⟩ => hnot ⟨fun x hx => ?_, fun x hx _ => ?_⟩⟩
    · rw [List.mem_singleton.mp hx]
      exact hn
    · exact hy x (mem_ancestors_iff.mp hx)

end Graph

/-- For every graph, cyclic ones included, the soft closure query of `n` returns exactly the names
reachable from `n` by one or more edges. The strict query fails, naming `n` and not the missing
name, exactly when `n` or a name reachable from it is not an item; otherwise it returns the soft
answer. -/
theorem closure_query_is_reachability :
    ∀ (g : Graph) (n : String),
      (∃ A, g.ancestorsBy n .soft = .ok A ∧ ∀ y, y ∈ A ↔ g.Reaches n y) ∧
      (g.ancestorsBy n .strict = .error (.unknownItem n) ↔
        n ∉ g.deps ∨ ∃ y, g.Reaches n y ∧ y ∉ g.deps) ∧
      (g.ancestorsBy n .strict ≠ .error (.unknownItem n) →
        g.ancestorsBy n .strict = g.ancestorsBy n .soft) := by
  intro g n
  refine ⟨Graph.ancestorsBy_soft_mem g n, ?_, fun hne => ?_⟩
  · rcases Graph.ancestorsBy_strict g n with ⟨hok, hn, hall⟩ | ⟨herr, hnot⟩
    · rw [hok]
      constructor
      · intro h
        cases h
      · rintro (h | ⟨y, hy, hyd⟩)
        · exact absurd hn h
        · exact absurd (hall y hy) hyd
    · rw [herr]
      refine ⟨fun _ => ?_, fun _ => rfl⟩
      by_contra hknown
      simp only [not_or, not_not, not_exists, not_and] at hknown
      exact hnot hknown
  · rcases Graph.ancestorsBy_strict g n with ⟨hok, -, -⟩ | ⟨herr, -⟩
    · rw [hok, Graph.ancestorsBy_soft]
    · exact absurd herr hne

/-- On the cycle `a → b → a` every name is an item, so the strict query from `a` succeeds and
agrees with the soft one. -/
theorem closure_query_on_cycle :
    (⟨.ofList [("a", .ofList ["b"] compare), ("b", .ofList ["a"] compare)] compare⟩ :
        Graph).ancestorsBy "a" .strict ≠ .error (.unknownItem "a") ∧
      (⟨.ofList [("a", .ofList ["b"] compare), ("b", .ofList ["a"] compare)] compare⟩ :
        Graph).ancestorsBy "a" .strict =
      (⟨.ofList [("a", .ofList ["b"] compare), ("b", .ofList ["a"] compare)] compare⟩ :
        Graph).ancestorsBy "a" .soft := by
  have hsome :
      ((⟨.ofList [("a", .ofList ["b"] compare), ("b", .ofList ["a"] compare)] compare⟩ :
        Graph).ancestorsBy "a" .strict).toOption.isSome = true := by
    decide +kernel
  have hne : (⟨.ofList [("a", .ofList ["b"] compare), ("b", .ofList ["a"] compare)] compare⟩ :
      Graph).ancestorsBy "a" .strict ≠ .error (.unknownItem "a") := by
    intro h
    rw [h] at hsome
    cases hsome
  exact ⟨hne, (closure_query_is_reachability _ "a").2.2 hne⟩

end DevstackConf
