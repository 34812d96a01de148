import DevstackConf.Variables
import Mathlib.Data.List.Infix
import Mathlib.Data.List.TakeWhile

/-!
# References, one `$` at a time

`references` reads a text the way a pattern search for `$NAME` or `${NAME}` does: it finds the
next match, records its name and goes on after the match. Here the same text is read one
position at a time instead: at each position, `referenceAt` says what the `$` standing there
refers to, on its own, and the readings are collected in order of position.

The two readings agree on every text (`references_eq_filterMap_range`). What makes them agree
is that a match never covers a later `$`: the brace and the name characters a match takes are
not `$`, so no position skipped over could have yielded a reference
(`filterMap_tails_of_isNameChar`). A `$` that yields nothing is passed over by one character,
so the next `$`, even right after it, is read in its turn.
-/

namespace DevstackConf

/-- The longest run of name characters at the head of a text, when it is not empty. -/
def nameRun (cs : List Char) : Option String :=
  match cs.takeWhile isNameChar with
  | [] => none
  | w => some (String.ofList w)

/-- What the `$` at the head of a text refers to: the run of name characters right after it,
or right after a `{` following it. Any other head refers to nothing. -/
def referenceAt : List Char → Option String
  | '$' :: '{' :: rest => nameRun rest
  | '$' :: rest => nameRun rest
  | _ => none

@[simp] theorem nameRun_nil : nameRun [] = none := rfl

theorem nameRun_cons_of_isNameChar {c : Char} (cs : List Char) (h : isNameChar c) :
    nameRun (c :: cs) = some (String.ofList (c :: cs.takeWhile isNameChar)) := by
  simp [nameRun, h]

theorem nameRun_cons_of_not_isNameChar {c : Char} (cs : List Char) (h : ¬ isNameChar c) :
    nameRun (c :: cs) = none := by
  simp [nameRun, h]

theorem referenceAt_cons_of_ne {c : Char} (cs : List Char) (h : c ≠ '$') :
    referenceAt (c :: cs) = none := by
  unfold referenceAt
  split <;> simp_all

@[simp] theorem referenceAt_dollar_brace (cs : List Char) :
    referenceAt ('$' :: '{' :: cs) = nameRun cs := rfl

theorem referenceAt_dollar_of_ne {c : Char} (cs : List Char) (h : c ≠ '{') :
    referenceAt ('$' :: c :: cs) = nameRun (c :: cs) := by
  unfold referenceAt
  split <;> simp_all

theorem filterMap_tails_append_of_dollar_not_mem {pre : List Char} (rest : List Char)
    (h : '$' ∉ pre) :
    (pre ++ rest).tails.filterMap referenceAt = rest.tails.filterMap referenceAt := by
  induction pre with
  | nil => rfl
  | cons c pre ih =>
    have hc : c ≠ '$' := fun hc => h (hc ▸ List.mem_cons_self)
    rw [List.cons_append, List.tails_cons, List.filterMap_cons_none (referenceAt_cons_of_ne _ hc)]
    exact ih fun hp => h (List.mem_cons_of_mem c hp)

/-- Reading on after the name a reference takes is reading on from each of its positions, since
a name holds no `$`. -/
theorem filterMap_tails_of_isNameChar {c : Char} (rest : List Char) (h : isNameChar c) :
    (c :: rest).tails.filterMap referenceAt =
      (rest.dropWhile isNameChar).tails.filterMap referenceAt := by
  have hrun : '$' ∉ c :: rest.takeWhile isNameChar := by
    intro hd
    have hname : isNameChar '$' := by
      rcases List.mem_cons.mp hd with hc | hd
      · exact hc ▸ h
      · exact List.mem_takeWhile_imp hd
    exact absurd hname (by decide)
  rw [← List.takeWhile_append_dropWhile (p := isNameChar) (l := rest), ← List.cons_append,
    filterMap_tails_append_of_dollar_not_mem _ hrun, List.takeWhile_append_dropWhile]

theorem references_eq_filterMap_tails (cs : List Char) :
    references cs = cs.tails.filterMap referenceAt := by
  fun_induction references cs with
  | case1 => rfl
  | case2 c rest h ih =>
    -- `${` and a name: the name is read, and the brace after the `$` reads nothing
    have hat : referenceAt ('$' :: '{' :: c :: rest) =
        some (String.ofList (c :: rest.takeWhile isNameChar)) := by
      rw [referenceAt_dollar_brace, nameRun_cons_of_isNameChar _ h]
    rw [List.tails_cons, List.filterMap_cons_some hat, List.tails_cons,
      List.filterMap_cons_none (referenceAt_cons_of_ne _ (by decide)),
      filterMap_tails_of_isNameChar _ h, ih]
  | case3 c rest h ih =>
    have hat : referenceAt ('$' :: '{' :: c :: rest) = none := by
      rw [referenceAt_dollar_brace, nameRun_cons_of_not_isNameChar _ h]
    rw [List.tails_cons, List.filterMap_cons_none hat, ih]
  | case4 c rest _ h ih =>
    have hc : c ≠ '{' := fun hc => absurd (hc ▸ h) (by decide)
    have hat : referenceAt ('$' :: c :: rest) =
        some (String.ofList (c :: rest.takeWhile isNameChar)) := by
      rw [referenceAt_dollar_of_ne _ hc, nameRun_cons_of_isNameChar _ h]
    rw [List.tails_cons, List.filterMap_cons_some hat, filterMap_tails_of_isNameChar _ h, ih]
  | case5 c rest hbrace h ih =>
    -- a `$` before anything but a name reads nothing; `${` is left only at the end of the text
    have hat : referenceAt ('$' :: c :: rest) = none := by
      by_cases hc : c = '{'
      · subst hc
        cases rest with
        | nil => rfl
        | cons d rest => exact (hbrace d rest rfl rfl).elim
      · rw [referenceAt_dollar_of_ne _ hc, nameRun_cons_of_not_isNameChar _ h]
    rw [List.tails_cons, List.filterMap_cons_none hat, ih]
  | case6 c rest _ hlast ih =>
    have hat : referenceAt (c :: rest) = none := by
      by_cases hc : c = '$'
      · subst hc
        cases rest with
        | nil => rfl
        | cons d rest => exact (hlast d rest rfl rfl).elim
      · exact referenceAt_cons_of_ne _ hc
    rw [List.tails_cons, List.filterMap_cons_none hat, ih]

theorem tails_eq_map_drop {α : Type} (l : List α) :
    l.tails = (List.range (l.length + 1)).map l.drop := by
  apply List.ext_getElem
  · simp
  · intro n _ _
    simp [List.getElem_tails]

/-- The references of a text are what the `$` at each of its positions refers to, in order of
position: one reference at most for each `$`, and none swallowed by an earlier one. -/
theorem references_eq_filterMap_range (s : String) :
    references s.toList =
      (List.range s.length).filterMap fun p => referenceAt (s.toList.drop p) := by
  have hend : referenceAt (s.toList.drop s.toList.length) = none := by
    rw [List.drop_length]
    rfl
  rw [references_eq_filterMap_tails, tails_eq_map_drop, List.range_succ, List.map_append,
    List.filterMap_append, List.map_singleton, List.filterMap_cons_none hend, List.filterMap_nil,
    List.append_nil, List.filterMap_map, String.length_toList]
  rfl

example : references "$$A".toList = ["A"] := by decide +kernel
example : references "$\x7bA".toList = ["A"] := by decide +kernel
example : references "$ \x7bC\x7d$\x7b\x7d".toList = [] := by decide +kernel
example : references "$A$B".toList = ["A", "B"] := by decide +kernel

end DevstackConf
