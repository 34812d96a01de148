import DevstackConf.Plugins.Settings
import DevstackConf.Proofs.Graph.Closure
import Mathlib.Data.List.Induction

/-!
# What a settings file credits

Reading a settings file keeps two things: the plugin current after the lines read so far, which
is the one the last `define_plugin` line named (`currentAfter`), and the requirements credited so
far. A `plugin_requires DEPENDENT REQUIRED` line is credited when `DEPENDENT` is current as it is
read (`Declares`); a line of one kind is never of the other, so a line never changes the plugin
its own requirement is checked against.

`parse_eq_some_iff` says exactly what a file yields: the plugin current at its end, with every
requirement credited in it, whichever plugin was current when it was credited. So a file that
defines a second plugin after the first one's requirements yields the second plugin with the
first one's requirements.
-/

namespace DevstackConf

namespace Settings

/-- The plugin current after some lines: the one the last `define_plugin` line among them names. -/
def currentAfter (ls : List String) : Option String := (ls.filterMap definedName?).getLast?

/-- Some line of `ls` requires `required` for `dependent` while `dependent` is current. -/
def Declares (ls : List String) (dependent required : String) : Prop :=
  ∃ i line, ls[i]? = some line ∧ requirement? line = some (dependent, required) ∧
    currentAfter (ls.take i) = some dependent

theorem definedName?_eq_none_of_requirement? {line : String} {p : String × String}
    (h : requirement? line = some p) : definedName? line = none := by
  unfold requirement? at h
  unfold definedName?
  split at h
  · rename_i hreq
    rw [if_neg]
    -- the two keywords differ in their first letter, so no line starts with both
    intro hdef
    rw [List.isPrefixOf_iff_prefix] at hreq hdef
    obtain ⟨t, ht⟩ := hreq
    obtain ⟨u, hu⟩ := hdef
    have hkw := ht.trans hu.symm
    simp at hkw
  · cases h

theorem currentAfter_append_singleton (ls : List String) (line : String) :
    currentAfter (ls ++ [line]) = (definedName? line).or (currentAfter ls) := by
  simp [currentAfter, List.filterMap_append, List.getLast?_append]

theorem step_current (r : Reading) (line : String) :
    (r.step line).current = (definedName? line).or r.current := by
  unfold Reading.step
  cases definedName? line <;> cases requirement? line <;> simp <;> split <;> rfl

theorem mem_step_requires {r : Reading} {line x : String} :
    x ∈ (r.step line).requires ↔
      x ∈ r.requires ∨ ∃ d, requirement? line = some (d, x) ∧ r.current = some d := by
  unfold Reading.step
  cases hr : requirement? line with
  | none => cases definedName? line <;> simp
  | some p =>
    obtain ⟨d, y⟩ := p
    rw [definedName?_eq_none_of_requirement? hr]
    by_cases hc : r.current = some d
    · simp only [hc, beq_self_eq_true, if_true, NameSet.mem_insert_iff, Option.some.injEq,
        Prod.mk.injEq]
      constructor
      · rintro (rfl | hx)
        · exact .inr ⟨d, ⟨rfl, rfl⟩, rfl⟩
        · exact .inl hx
      · rintro (hx | ⟨d', ⟨-, rfl⟩, -⟩)
        · exact .inr hx
        · exact .inl rfl
    · simp [hc]

theorem declares_append_singleton {ls : List String} {line d x : String} :
    Declares (ls ++ [line]) d x ↔
      Declares ls d x ∨ requirement? line = some (d, x) ∧ currentAfter ls = some d := by
  constructor
  · rintro ⟨i, l, hi, hreq, hcur⟩
    rcases Nat.lt_or_ge i ls.length with hlt | hge
    · rw [List.getElem?_append_left hlt] at hi
      rw [List.take_append_of_le_length (Nat.le_of_lt hlt)] at hcur
      exact .inl ⟨i, l, hi, hreq, hcur⟩
    · -- the only line past `ls` is the new one
      have hieq : i = ls.length := by
        have := (List.getElem?_eq_some_iff.mp hi).1
        simp at this
        omega
      subst hieq
      rw [List.getElem?_append_right (Nat.le_refl _), Nat.sub_self] at hi
      cases hi
      rw [List.take_left' rfl] at hcur
      exact .inr ⟨hreq, hcur⟩
  · rintro (⟨i, l, hi, hreq, hcur⟩ | ⟨hreq, hcur⟩)
    · have hlt : i < ls.length := (List.getElem?_eq_some_iff.mp hi).1
      refine ⟨i, l, ?_, hreq, ?_⟩
      · rw [List.getElem?_append_left hlt, hi]
      · rw [List.take_append_of_le_length (Nat.le_of_lt hlt), hcur]
    · exact ⟨ls.length, line, by simp, hreq, by rw [List.take_left' rfl, hcur]⟩

/-- Reading lines keeps the plugin defined last, and every requirement declared for a plugin
while that plugin was current. -/
theorem foldl_step (ls : List String) :
    (ls.foldl Reading.step {}).current = currentAfter ls ∧
      ∀ x, x ∈ (ls.foldl Reading.step {}).requires ↔ ∃ d, Declares ls d x := by
  induction ls using List.reverseRecOn with
  | nil => exact ⟨rfl, fun x => by simp [Declares]⟩
  | append_singleton ls line ih =>
    rw [List.foldl_append, List.foldl_cons, List.foldl_nil, step_current, ih.1,
      currentAfter_append_singleton]
    refine ⟨rfl, fun x => ?_⟩
    simp only [mem_step_requires, ih.2, ih.1, declares_append_singleton, exists_or]

/-- A settings text yields the plugin it defines last, with every requirement credited in it,
whichever plugin was current when the requirement was read; it yields something exactly when
a plugin is defined and some requirement is credited. -/
theorem parse_eq_some_iff {text n : String} {R : NameSet} :
    parse text = some (n, R) ↔
      currentAfter (lines text) = some n ∧ (∃ d x, Declares (lines text) d x) ∧
        ∀ x, x ∈ R ↔ ∃ d, Declares (lines text) d x := by
  obtain ⟨hcur, hmem⟩ := foldl_step (lines text)
  unfold parse
  generalize (lines text).foldl Reading.step {} = r at hcur hmem ⊢
  have hR : R = r.requires ↔ ∀ x, x ∈ R ↔ ∃ d, Declares (lines text) d x := by
    simp only [← hmem]
    exact ⟨fun h x => h ▸ Iff.rfl, fun h => Std.ExtTreeSet.ext_mem h⟩
  have hne : r.requires.isEmpty = false ↔ ∃ d x, Declares (lines text) d x := by
    rw [Std.ExtTreeSet.isEmpty_eq_false_iff, Std.ExtTreeSet.eq_empty_iff_forall_not_mem]
    simp only [not_forall, not_not, hmem]
    exact exists_comm
  rw [← hcur, ← hR, ← hne]
  dsimp only
  cases r.current with
  | none => simp
  | some m =>
    cases r.requires.isEmpty
    · simp only [Bool.false_eq_true, if_false, Option.some.injEq, Prod.mk.injEq, true_and]
      exact and_congr_right fun _ => eq_comm
    · simp

example : (parse "define_plugin a\nplugin_requires a x\ndefine_plugin b\n").map
    (fun p => (p.1, p.2.toList)) = some ("b", ["x"]) := by decide +kernel

end Settings

end DevstackConf
