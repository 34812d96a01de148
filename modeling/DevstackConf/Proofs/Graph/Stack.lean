import DevstackConf.Proofs.Graph.Dependencies

/-!
# The stack loop runs the post-order walk

`Graph.dependenciesByStack` is the dependency query as a loop over an explicit stack, and
`Graph.dependenciesOf` is the same query as a recursion. The stack holds two kinds of entries:
`(n, false)` asks to enter `n`, and `(n, true)` asks to emit `n` once everything pushed above it
has run. An entry to enter is checked twice, when it is pushed and when it is popped, so the
stack may hold stale entries for names entered in between; the second check passes over them.

One lemma per kind of entry says what popping it does (`drain_emit`, `drain_skip`, `drain_enter`).
From them, by induction on the walk relation `PostOrder`, draining the entries that ask to enter
the names of a walk runs that walk, whatever lies below them on the stack (`drain_postOrder`).
The entries pushed for a name are its item dependencies not yet entered, in ascending order: the
walk passes over the others anyway, so filtering them first changes nothing.

So the loop returns what the recursion returns, on every graph, cyclic or not
(`dependenciesByStack_eq_dependenciesOf`), and everything proved of the recursion holds of the
loop that catalogs run.
-/

namespace DevstackConf

namespace Graph

/-- The entries pushed for `names`: the items among them not in `entered`, smallest on top. -/
theorem pushKnown_eq (g : Graph) (names entered : NameSet) (stack : List (String × Bool)) :
    g.pushKnown names entered stack =
      ((names.toList.filter g.contains).filter (!entered.contains ·)).map (·, false) ++
        stack := by
  rw [pushKnown, Std.ExtTreeSet.foldr_eq_foldr_toList]
  induction names.toList with
  | nil => rfl
  | cons c cs ih =>
    rw [List.foldr_cons, ih]
    by_cases hc : g.contains c <;> by_cases he : entered.contains c <;> simp [hc, he]

theorem drain_nil (g : Graph) (E : NameSet) (out : List String) : g.drain [] E out = out := by
  rw [drain]

theorem drain_emit (g : Graph) (n : String) (rest : List (String × Bool)) (E : NameSet)
    (out : List String) : g.drain ((n, true) :: rest) E out = g.drain rest E (out ++ [n]) := by
  rw [drain]

theorem drain_skip (g : Graph) {n : String} (rest : List (String × Bool)) {E : NameSet}
    (hn : n ∈ E) (out : List String) :
    g.drain ((n, false) :: rest) E out = g.drain rest E out := by
  rw [drain]
  simp [hn]

/-- Entering `n` pushes its emission and, above it, its item dependencies not yet entered. A name
that is not an item has no dependencies, so only its emission is pushed. -/
theorem drain_enter (g : Graph) {n : String} (rest : List (String × Bool)) {E : NameSet}
    (hn : n ∉ E) (out : List String) :
    g.drain ((n, false) :: rest) E out =
      g.drain (((g.kids g.contains n).filter (!(E.insert n).contains ·)).map (·, false) ++
        (n, true) :: rest) (E.insert n) out := by
  rw [drain]
  simp only [hn, Std.ExtTreeSet.contains_iff_mem, if_false]
  split
  · rename_i ds hds
    rw [pushKnown_eq, Graph.kids, hds, Option.getD_some]
  · rename_i hds
    have hnone : (∅ : NameSet).toList = [] := Std.ExtTreeSet.toList_eq_nil_iff.mpr rfl
    simp only [Graph.kids, hds, Option.getD_none, hnone, List.filter_nil, List.map_nil,
      List.nil_append]

/-- Draining the entries that enter the names of a walk, less those of a set `F` entered before
the walk starts, runs the walk: it ends with the walk's names entered and its output emitted, and
leaves the rest of the stack as it was. -/
theorem drain_postOrder {g : Graph} {ns : List String} {E E' : NameSet} {out' : List String}
    (h : g.PostOrder g.contains ns E E' out') (F : NameSet) (hF : ∀ x ∈ F, x ∈ E)
    (rest : List (String × Bool)) (out : List String) :
    g.drain ((ns.filter (!F.contains ·)).map (·, false) ++ rest) E out =
      g.drain rest E' (out ++ out') := by
  induction h generalizing F rest out with
  | nil => simp
  | @skip n ns E E' out' hn _ ih =>
    rw [List.filter_cons]
    split
    · -- an entry that is still on the stack is passed over when popped
      rw [List.map_cons, List.cons_append, drain_skip g _ hn]
      exact ih F hF rest out
    · exact ih F hF rest out
  | @enter n ns E E₁ E' out₁ out₂ hn h₁ _ ih₁ ih₂ =>
    have hnF : F.contains n = false := by
      simpa using fun hF' => hn (hF n hF')
    rw [List.filter_cons_of_pos (by simp [hnF]), List.map_cons, List.cons_append,
      drain_enter g _ hn, ih₁ (E.insert n) (fun _ hx => hx), drain_emit,
      ih₂ F (fun x hx => h₁.subset (by simp [hF x hx]))]
    simp

/-- On every graph, cyclic or not, the stack loop returns what the recursive walk returns. -/
theorem dependenciesByStack_eq_dependenciesOf (g : Graph) (n : String) :
    g.dependenciesByStack n = g.dependenciesOf n := by
  cases hn : g.contains n with
  | false =>
    rw [dependenciesOf_of_not_contains hn, dependenciesByStack,
      getElem?_eq_none_of_not_contains (by simp [hn])]
  | true =>
    obtain ⟨ds, hds⟩ := contains_iff_exists_getElem?.mp hn
    obtain ⟨E, out, hdeps, hwalk⟩ := dependenciesOf_postOrder hn
    -- the first push leaves out nothing, as nothing is entered yet
    have hstart : g.pushKnown ds ∅ [] =
        ((g.kids g.contains n).filter (!(∅ : NameSet).contains ·)).map (·, false) ++ [] := by
      rw [pushKnown_eq, kids, hds, Option.getD_some]
    simp only [hdeps, dependenciesByStack, hds]
    rw [hstart, drain_postOrder hwalk ∅ (fun _ hx => hx), drain_nil, List.nil_append]

/-- The two dependency queries are one function. A closed run of a catalog evaluates through the
recursion, which `decide` reduces, where it cannot reduce the loop's well-founded recursion. -/
theorem dependenciesByStack_eq_dependenciesOf_fun : dependenciesByStack = dependenciesOf :=
  funext fun g => funext (dependenciesByStack_eq_dependenciesOf g)

end Graph

end DevstackConf
