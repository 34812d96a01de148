import DevstackConf.Proofs.Graph.Insertion

/-!
# Post-order walks

`g.PostOrder item ns E E' out` is a depth-first walk written as a relation. It walks the names
`ns` in order, starting with the names `E` already entered, and ends with `E'` entered, having
emitted `out`. A name already entered is passed over. Any other name is entered, the
dependencies of it that `item` accepts are walked in ascending order, and the name is emitted.
One set of entered names is shared by the whole walk, so no name is emitted twice.

The walk is deterministic (`PostOrder.det`). It emits exactly the names it enters
(`PostOrder.mem_entered_iff`), each once (`PostOrder.nodup`), and in an acyclic graph each of
them after the accepted dependencies it has (`PostOrder.before_of_mem_kids`). Two more facts
relate walks that start from different entered sets: entering a name that the walk can never
reach changes nothing else (`PostOrder.insert_unreached`), and a walk that may enter names of a
set closed under accepted dependencies emits, apart from those names, what a walk that treats
them as entered emits (`PostOrder.filter_closed`).
-/

namespace DevstackConf

/-- `a` comes before `b` in `l`. -/
def Precedes {α : Type} (a b : α) (l : List α) : Prop := ∃ l₁ l₂, l = l₁ ++ b :: l₂ ∧ a ∈ l₁

theorem Precedes.append_left {α : Type} {a b : α} {l : List α} (l₀ : List α)
    (h : Precedes a b l) : Precedes a b (l₀ ++ l) := by
  obtain ⟨l₁, l₂, rfl, ha⟩ := h
  exact ⟨l₀ ++ l₁, l₂, by simp, List.mem_append_right l₀ ha⟩

theorem Precedes.append_right {α : Type} {a b : α} {l : List α} (l₀ : List α)
    (h : Precedes a b l) : Precedes a b (l ++ l₀) := by
  obtain ⟨l₁, l₂, rfl, ha⟩ := h
  exact ⟨l₁, l₂ ++ l₀, by simp, ha⟩

theorem precedes_of_mem_of_mem {α : Type} {a b : α} {l₁ l₂ : List α} (ha : a ∈ l₁)
    (hb : b ∈ l₂) : Precedes a b (l₁ ++ l₂) := by
  obtain ⟨s, t, rfl⟩ := List.append_of_mem hb
  exact ⟨l₁ ++ s, t, by simp, List.mem_append_left s ha⟩

theorem NameSet.insert_comm (t : NameSet) (a b : String) :
    (t.insert a).insert b = (t.insert b).insert a := by
  ext x
  simp only [NameSet.mem_insert_iff]
  grind

namespace Graph

/-- The dependencies of `n` that `item` accepts, ascending. -/
def kids (g : Graph) (item : String → Bool) (n : String) : List String :=
  ((g.deps[n]?).getD ∅).toList.filter item

/-- Walking `ns` in post-order from the entered names `E` ends with `E'` entered and emits
`out`. -/
inductive PostOrder (g : Graph) (item : String → Bool) :
    List String → NameSet → NameSet → List String → Prop
  | nil (E : NameSet) : PostOrder g item [] E E []
  | skip {n : String} {ns : List String} {E E' : NameSet} {out : List String} :
      n ∈ E → PostOrder g item ns E E' out → PostOrder g item (n :: ns) E E' out
  | enter {n : String} {ns : List String} {E E₁ E' : NameSet} {out₁ out₂ : List String} :
      n ∉ E → PostOrder g item (g.kids item n) (E.insert n) E₁ out₁ →
      PostOrder g item ns E₁ E' out₂ → PostOrder g item (n :: ns) E E' (out₁ ++ n :: out₂)

/-- Every name is either entered or not, so every walk has at most one outcome. -/
theorem PostOrder.det {g : Graph} {item : String → Bool} {ns : List String} {E E₁ E₂ : NameSet}
    {out₁ out₂ : List String} (h₁ : g.PostOrder item ns E E₁ out₁)
    (h₂ : g.PostOrder item ns E E₂ out₂) : E₁ = E₂ ∧ out₁ = out₂ := by
  induction h₁ generalizing E₂ out₂ with
  | nil =>
      cases h₂
      exact ⟨rfl, rfl⟩
  | skip hn _ ih =>
      cases h₂ with
      | skip _ h₂ => exact ih h₂
      | enter hn' _ _ => exact absurd hn hn'
  | enter hn _ _ ih₁ ih₂ =>
      cases h₂ with
      | skip hn' _ => exact absurd hn' hn
      | enter _ h₂₁ h₂₂ =>
          obtain ⟨rfl, rfl⟩ := ih₁ h₂₁
          obtain ⟨rfl, rfl⟩ := ih₂ h₂₂
          exact ⟨rfl, rfl⟩

/-- A walk enters exactly the names it emits. -/
theorem PostOrder.mem_entered_iff {g : Graph} {item : String → Bool} {ns : List String}
    {E E' : NameSet} {out : List String} (h : g.PostOrder item ns E E' out) (x : String) :
    x ∈ E' ↔ x ∈ E ∨ x ∈ out := by
  induction h with
  | nil => simp
  | skip _ _ ih => exact ih
  | enter _ _ _ ih₁ ih₂ =>
      rw [ih₂, ih₁]
      simp only [NameSet.mem_insert_iff, List.mem_append, List.mem_cons]
      grind

theorem PostOrder.subset {g : Graph} {item : String → Bool} {ns : List String} {E E' : NameSet}
    {out : List String} (h : g.PostOrder item ns E E' out) {x : String} (hx : x ∈ E) : x ∈ E' :=
  (h.mem_entered_iff x).mpr (.inl hx)

/-- A walk emits each name once, and none that was entered before it. -/
theorem PostOrder.nodup {g : Graph} {item : String → Bool} {ns : List String} {E E' : NameSet}
    {out : List String} (h : g.PostOrder item ns E E' out) : out.Nodup ∧ ∀ x ∈ out, x ∉ E := by
  induction h with
  | nil => simp
  | skip _ _ ih => exact ih
  | @enter n ns E E₁ E' out₁ out₂ hn h₁ _ ih₁ ih₂ =>
      -- `out₂` avoids `E₁`, which holds `n` and everything in `out₁`
      have hfresh₂ : ∀ x ∈ out₂, x ≠ n ∧ x ∉ out₁ ∧ x ∉ E := by
        intro x hx
        have hx₁ := ih₂.2 x hx
        rw [h₁.mem_entered_iff, NameSet.mem_insert_iff] at hx₁
        exact ⟨fun h => hx₁ (.inl (.inl h.symm)), fun h => hx₁ (.inr h),
          fun h => hx₁ (.inl (.inr h))⟩
      have hfresh₁ : ∀ x ∈ out₁, x ≠ n ∧ x ∉ E := by
        intro x hx
        have hx₁ := ih₁.2 x hx
        rw [NameSet.mem_insert_iff] at hx₁
        exact ⟨fun h => hx₁ (.inl h.symm), fun h => hx₁ (.inr h)⟩
      refine ⟨List.nodup_append.mpr ⟨ih₁.1, List.nodup_cons.mpr ⟨?_, ih₂.1⟩, ?_⟩, ?_⟩
      · exact fun hn' => (hfresh₂ n hn').1 rfl
      · intro a ha b hb hab
        subst hab
        rcases List.mem_cons.mp hb with rfl | hb
        · exact (hfresh₁ a ha).1 rfl
        · exact (hfresh₂ a hb).2.1 ha
      · intro x hx
        rcases List.mem_append.mp hx with hx | hx
        · exact (hfresh₁ x hx).2
        · rcases List.mem_cons.mp hx with rfl | hx
          · exact hn
          · exact (hfresh₂ x hx).2.2

/-- Every name the walk is given ends up entered. -/
theorem PostOrder.mem_of_mem {g : Graph} {item : String → Bool} {ns : List String}
    {E E' : NameSet} {out : List String} (h : g.PostOrder item ns E E' out) {x : String}
    (hx : x ∈ ns) : x ∈ E' := by
  induction h with
  | nil => exact absurd hx List.not_mem_nil
  | skip hn h ih =>
      rcases List.mem_cons.mp hx with rfl | hx
      · exact h.subset hn
      · exact ih hx
  | enter _ h₁ h₂ _ ih₂ =>
      rcases List.mem_cons.mp hx with rfl | hx
      · exact h₂.subset (h₁.subset (by simp))
      · exact ih₂ hx

/-- A walk emits only names it was given or names that `item` accepts. -/
theorem PostOrder.mem_or_item {g : Graph} {item : String → Bool} {ns : List String}
    {E E' : NameSet} {out : List String} (h : g.PostOrder item ns E E' out) {x : String}
    (hx : x ∈ out) : x ∈ ns ∨ item x = true := by
  induction h with
  | nil => exact absurd hx List.not_mem_nil
  | skip _ _ ih => exact (ih hx).imp_left (List.mem_cons_of_mem _)
  | enter _ _ _ ih₁ ih₂ =>
      rcases List.mem_append.mp hx with hx | hx
      · rcases ih₁ hx with hk | hk
        · exact .inr (List.mem_filter.mp hk).2
        · exact .inr hk
      · rcases List.mem_cons.mp hx with rfl | hx
        · exact .inl List.mem_cons_self
        · exact (ih₂ hx).imp_left (List.mem_cons_of_mem _)

theorem edge_of_mem_kids {g : Graph} {item : String → Bool} {n k : String}
    (h : k ∈ g.kids item n) : g.Edge n k := by
  rw [kids, List.mem_filter, Std.ExtTreeSet.mem_toList] at h
  cases hn : g.deps[n]? with
  | none => simp [hn] at h
  | some ds => exact ⟨ds, hn, by simpa [hn] using h.1⟩

/-- Entering beforehand a name that the walk never reaches changes nothing else. -/
theorem PostOrder.insert_unreached {g : Graph} {item : String → Bool} {ns : List String}
    {E E' : NameSet} {out : List String} (h : g.PostOrder item ns E E' out) {x : String}
    (hx : ∀ m ∈ ns, m ≠ x ∧ ¬ g.Reaches m x) :
    g.PostOrder item ns (E.insert x) (E'.insert x) out := by
  induction h with
  | nil => exact .nil _
  | skip hn _ ih =>
      refine .skip ?_ (ih fun m hm => hx m (List.mem_cons_of_mem _ hm))
      simp [hn]
  | @enter n ns E E₁ E' out₁ out₂ hn _ _ ih₁ ih₂ =>
      obtain ⟨hnx, hreach⟩ := hx n List.mem_cons_self
      -- what `n` leads to cannot reach `x` either
      have hkids : ∀ m ∈ g.kids item n, m ≠ x ∧ ¬ g.Reaches m x := fun m hm =>
        ⟨fun hmx => hreach (.single (hmx ▸ edge_of_mem_kids hm)),
          fun hmx => hreach (.head (edge_of_mem_kids hm) hmx)⟩
      have h₁ := ih₁ hkids
      rw [NameSet.insert_comm] at h₁
      refine .enter ?_ h₁ (ih₂ fun m hm => hx m (List.mem_cons_of_mem _ hm))
      simp [hn, Ne.symm hnx]

/-- Every name of `S` has its dependencies that `item` accepts in `S`. -/
def Closed (g : Graph) (item : String → Bool) (S : NameSet) : Prop :=
  ∀ x ∈ S, ∀ k ∈ g.kids item x, k ∈ S

/-- Every name a walk enters has its accepted dependencies entered by the end. -/
theorem PostOrder.kids_mem {g : Graph} {item : String → Bool} {ns : List String} {E E' : NameSet}
    {out : List String} (h : g.PostOrder item ns E E' out) :
    ∀ x ∈ E', x ∉ E → ∀ k ∈ g.kids item x, k ∈ E' := by
  induction h with
  | nil => exact fun x hx hxE => absurd hx hxE
  | skip _ _ ih => exact ih
  | @enter n ns E E₁ E' out₁ out₂ hn h₁ h₂ ih₁ ih₂ =>
      intro x hx hxE k hk
      by_cases hx₁ : x ∈ E₁
      · by_cases hxn : x = n
        · subst hxn
          exact h₂.subset (h₁.mem_of_mem hk)
        · exact h₂.subset (ih₁ x hx₁ (by simp [hxE, Ne.symm hxn]) k hk)
      · exact ih₂ x hx hx₁ k hk

theorem PostOrder.closed {g : Graph} {item : String → Bool} {ns : List String} {E E' : NameSet}
    {out : List String} (h : g.PostOrder item ns E E' out) (hE : g.Closed item E) :
    g.Closed item E' := by
  intro x hx k hk
  by_cases hxE : x ∈ E
  · exact h.subset (hE x hxE k hk)
  · exact h.kids_mem x hx hxE k hk

/-- A walk over names of a closed set emits only names of that set. -/
theorem PostOrder.confined {g : Graph} {item : String → Bool} {ns : List String} {E E' : NameSet}
    {out : List String} {S : NameSet} (h : g.PostOrder item ns E E' out) (hS : g.Closed item S)
    (hns : ∀ m ∈ ns, m ∈ S) : ∀ x ∈ out, x ∈ S := by
  induction h with
  | nil => exact fun x hx => absurd hx List.not_mem_nil
  | skip _ _ ih => exact ih fun m hm => hns m (List.mem_cons_of_mem _ hm)
  | @enter n ns E E₁ E' out₁ out₂ _ _ _ ih₁ ih₂ =>
      have hnS := hns n List.mem_cons_self
      have hout₁ := ih₁ (hS n hnS)
      have hout₂ := ih₂ fun m hm => hns m (List.mem_cons_of_mem _ hm)
      intro x hx
      rcases List.mem_append.mp hx with hx | hx
      · exact hout₁ x hx
      · rcases List.mem_cons.mp hx with rfl | hx
        · exact hnS
        · exact hout₂ x hx

/-- Let `S` be closed and entered in `V`, and let `E` and `V` agree outside `S`. Then a walk from
`E` emits, apart from names of `S`, what the same walk from `V` emits, and the two walks end
agreeing outside `S`. -/
theorem PostOrder.filter_closed {g : Graph} {item : String → Bool} {ns : List String}
    {E E' : NameSet} {out : List String} {S : NameSet} (h : g.PostOrder item ns E E' out)
    (hS : g.Closed item S) {V : NameSet} (hSV : ∀ x ∈ S, x ∈ V)
    (hEV : ∀ x, x ∉ S → (x ∈ E ↔ x ∈ V)) :
    ∃ V', g.PostOrder item ns V V' (out.filter (· ∉ S)) ∧ ∀ x, x ∉ S → (x ∈ E' ↔ x ∈ V') := by
  induction h generalizing V with
  | nil E => exact ⟨V, .nil V, hEV⟩
  | @skip n ns E E' out hn _ ih =>
      obtain ⟨V', h', hagree⟩ := ih hSV hEV
      have hnV : n ∈ V := by
        by_cases hnS : n ∈ S
        · exact hSV n hnS
        · exact (hEV n hnS).mp hn
      exact ⟨V', .skip hnV h', hagree⟩
  | @enter n ns E E₁ E' out₁ out₂ hn h₁ _ ih₁ ih₂ =>
      by_cases hnS : n ∈ S
      · -- this walk goes into `S`, where the other one has everything entered already
        have hout₁ : ∀ x ∈ out₁, x ∈ S := h₁.confined hS fun k hk => hS n hnS k hk
        have hE₁V : ∀ x, x ∉ S → (x ∈ E₁ ↔ x ∈ V) := by
          intro x hx
          have hxn : x ≠ n := fun hxn => hx (hxn ▸ hnS)
          have hxo : x ∉ out₁ := fun hxo => hx (hout₁ x hxo)
          rw [h₁.mem_entered_iff, ← hEV x hx]
          simp [Ne.symm hxn, hxo]
        obtain ⟨V', h', hagree⟩ := ih₂ hSV hE₁V
        have hfilter : (out₁ ++ n :: out₂).filter (· ∉ S) = out₂.filter (· ∉ S) := by
          have hnil : out₁.filter (· ∉ S) = [] :=
            List.filter_eq_nil_iff.mpr fun x hx => by simpa using hout₁ x hx
          rw [List.filter_append, hnil, List.filter_cons]
          simp [hnS]
        rw [hfilter]
        exact ⟨V', .skip (hSV n hnS) h', hagree⟩
      · -- both walks enter `n`
        have hnV : n ∉ V := fun h => hn ((hEV n hnS).mpr h)
        obtain ⟨V₁, h₁', hagree₁⟩ := ih₁ (V := V.insert n)
          (fun x hx => by simp [hSV x hx]) (fun x hx => by simp [hEV x hx])
        obtain ⟨V', h₂', hagree₂⟩ := ih₂ (fun x hx => h₁'.subset (by simp [hSV x hx])) hagree₁
        have hfilter : (out₁ ++ n :: out₂).filter (· ∉ S) =
            out₁.filter (· ∉ S) ++ n :: out₂.filter (· ∉ S) := by
          simp [List.filter_append, hnS]
        rw [hfilter]
        exact ⟨V', .enter hnV h₁' h₂', hagree₂⟩

/-- In an acyclic graph a walk emits every name after its accepted dependencies, except those
already finished (`done`) when it starts. What the walk starts with may also hold names whose own
walk is still under way; each of them reaches every name the walk is given. -/
theorem PostOrder.precedes_of_mem_kids {g : Graph} {item : String → Bool} {ns : List String}
    {E E' : NameSet} {out : List String} (hg : g.Acyclic) (h : g.PostOrder item ns E E' out)
    (done : String → Prop) (hE : ∀ p ∈ E, ¬ done p → ∀ m ∈ ns, g.Reaches p m) :
    ∀ x ∈ out, ∀ y ∈ g.kids item x, done y ∨ Precedes y x out := by
  induction h generalizing done with
  | nil => exact fun x hx => absurd hx List.not_mem_nil
  | skip _ _ ih => exact ih done fun p hp hpd m hm => hE p hp hpd m (List.mem_cons_of_mem _ hm)
  | @enter n ns E E₁ E' out₁ out₂ hn h₁ _ ih₁ ih₂ =>
      -- inside the walk from `n`, `n` itself is under way and reaches each of its kids
      have hE₁ : ∀ p ∈ E.insert n, ¬ done p → ∀ m ∈ g.kids item n, g.Reaches p m := by
        intro p hp hpd m hm
        rcases NameSet.mem_insert_iff.mp hp with rfl | hp
        · exact .single (edge_of_mem_kids hm)
        · exact .tail (hE p hp hpd n List.mem_cons_self) (edge_of_mem_kids hm)
      -- after it, `n` and everything emitted below it are finished
      have hE₂ : ∀ p ∈ E₁, ¬ (done p ∨ p ∈ out₁ ∨ p = n) → ∀ m ∈ ns, g.Reaches p m := by
        intro p hp hpd m hm
        have hpE : p ∈ E := by
          rcases (by simpa [h₁.mem_entered_iff] using hp : (n = p ∨ p ∈ E) ∨ p ∈ out₁) with
            (hpn | hpE) | hpo
          · exact absurd hpn.symm fun h => hpd (.inr (.inr h))
          · exact hpE
          · exact absurd hpo fun h => hpd (.inr (.inl h))
        exact hE p hpE (fun h => hpd (.inl h)) m (List.mem_cons_of_mem _ hm)
      have hfirst := ih₁ done hE₁
      have hsecond := ih₂ _ hE₂
      intro x hx y hy
      rcases List.mem_append.mp hx with hx | hx
      · exact (hfirst x hx y hy).imp_right (Precedes.append_right _)
      rcases List.mem_cons.mp hx with rfl | hx₂
      · -- a kid of `x` is entered by the end of its walk: emitted below it, or entered earlier
        have hyE₁ := h₁.mem_of_mem hy
        rw [h₁.mem_entered_iff] at hyE₁
        rcases hyE₁ with hyE | hyo
        · rcases NameSet.mem_insert_iff.mp hyE with rfl | hyE
          · exact absurd (.single (edge_of_mem_kids hy)) (hg x)
          · by_cases hyd : done y
            · exact .inl hyd
            · exact absurd ((hE y hyE hyd x List.mem_cons_self).tail (edge_of_mem_kids hy)) (hg y)
        · exact .inr ⟨out₁, out₂, rfl, hyo⟩
      · rcases hsecond x hx₂ y hy with hyd | hyo
        · rcases hyd with hyd | hyo | rfl
          · exact .inl hyd
          · exact .inr (precedes_of_mem_of_mem hyo (List.mem_cons_of_mem _ hx₂))
          · have hy : Precedes y x ((out₁ ++ [y]) ++ out₂) :=
              precedes_of_mem_of_mem (List.mem_append_right _ (List.mem_singleton_self y)) hx₂
            exact .inr (by simpa using hy)
        · exact .inr (by simpa using hyo.append_left (out₁ ++ [n]))

end Graph

end DevstackConf
