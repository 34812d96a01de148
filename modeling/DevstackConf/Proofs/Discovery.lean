import DevstackConf.Plugins.Discovery
import Mathlib.Data.List.Basic

/-!
# Discovery reads the outermost checkouts

Discovery walks the tree below a base path and stops going down at each checkout. Here the same
result is described by the whole walk, with no stopping: `walk` lists every entry met from the
base, the base first, then in pre-order, the children of each directory in the order `children`
lists them (ascending names), going below real directories only and never through a link, apart
from a base that is a link to a directory. Each entry carries the directories above it. An entry
`qualifies` when it is a checkout (`isCheckout`: a real directory whose `.git` is a directory,
links followed), its `devstack/settings` is a regular file, and no directory above it, the base
included, is a checkout.

`requirements_read_outermost_checkouts` says discovery reads the settings of exactly the
qualifying entries, in walk order, each later record of a plugin replacing an earlier one. The
pruned walk and the filtered one agree level by level (`settingsBelow_eq_filter`): at a
checkout the pruned walk takes the settings and stops, and every entry below it has the
checkout above it, so the filter drops them all (`filter_walkBelow_of_checkout`).

Both walks are bounded by a number of levels. Every level of a walk passes a key of the tree
longer than the one before, so after as many levels as there are keys nothing is left
(`deeperKeys_lt_of_mem_children`, `walk_stable`): the bound that discovery uses, one more than
the number of entries, already gives the whole walk.
-/

namespace DevstackConf

namespace FileTree

variable {t : FileTree}

/-- The key of a child is its parent's key, a `/` and its name; at the working directory, its
name alone. -/
theorem key_append_singleton (ns : List String) (name : String) :
    key (ns ++ [name]) = (if ns.isEmpty then "" else key ns ++ "/") ++ name := by
  cases ns with
  | nil => simp [key]
  | cons n ns =>
    simp only [key, List.isEmpty_cons, Bool.false_eq_true, if_false]
    rw [String.intercalate_append_of_ne_nil (by simp) (by simp), String.intercalate_singleton]

theorem key_mem_keys_of_mem_children {ns : List String} {name : String}
    (h : name ∈ t.children ns) : key (ns ++ [name]) ∈ t.entries.keys := by
  unfold children at h
  generalize hp : (if ns.isEmpty then "" else key ns ++ "/") = pre at h
  obtain ⟨k, hk, hname⟩ := List.mem_filterMap.mp h
  have hpk : pre.isPrefixOf k ∧ (k.drop pre.length).toString = name := by
    by_cases hpre : pre.isPrefixOf k
    · by_cases hsl : (k.drop pre.length).contains '/'
      · simp [hpre, hsl] at hname
      · simp only [hpre, hsl, if_true, Bool.false_eq_true, if_false, Option.some.injEq] at hname
        exact ⟨hpre, hname⟩
    · simp [hpre] at hname
  -- the prefix and the rest of the key after it make up the key
  have hsplit : pre ++ (k.drop pre.length).toString = k := by
    apply String.toList_injective
    have hpre := hpk.1
    rw [String.isPrefixOf, String.startsWith_string_iff] at hpre
    obtain ⟨s, hs⟩ := hpre
    simp only [String.toList_append, String.Slice.toString_eq, String.toList_copy_drop, ← hs]
    rw [← String.length_toList, List.drop_left]
  rw [key_append_singleton, hp, ← hpk.2, hsplit]
  exact hk

/-- The number of keys longer than the key of `ns`: every key, at the working directory. Each
level of a walk below `ns` passes a key that it counts and leaves it behind. -/
def deeperKeys (t : FileTree) (ns : List String) : Nat :=
  (t.entries.keys.filter fun k => ns.isEmpty || (key ns).length < k.length).length

theorem deeperKeys_le_size (ns : List String) : t.deeperKeys ns ≤ t.entries.size := by
  rw [deeperKeys, ← Std.ExtTreeMap.length_keys]
  exact List.length_filter_le _ _

theorem deeperKeys_lt_of_mem_children {ns : List String} {name : String}
    (h : name ∈ t.children ns) : t.deeperKeys (ns ++ [name]) < t.deeperKeys ns := by
  have hlen : ∀ k : String, (key (ns ++ [name])).length < k.length →
      (ns.isEmpty || (key ns).length < k.length) := by
    intro k hk
    rw [key_append_singleton] at hk
    cases hns : ns.isEmpty
    · simp only [hns, Bool.false_eq_true, if_false, String.length_append] at hk
      simp
      omega
    · simp
  -- the deeper keys of the child are deeper keys of `ns`, and the child's own key is one more
  have hsub : t.entries.keys.filter (fun k => (ns ++ [name]).isEmpty ||
      (key (ns ++ [name])).length < k.length) =
      (t.entries.keys.filter fun k => ns.isEmpty || (key ns).length < k.length).filter
        fun k => (key (ns ++ [name])).length < k.length := by
    rw [List.filter_filter]
    apply List.filter_congr
    intro k _
    cases hk : decide ((key (ns ++ [name])).length < k.length)
    · simp_all
    · simp_all [hlen k (of_decide_eq_true hk)]
  unfold deeperKeys
  rw [hsub, List.length_filter_lt_length_iff_exists]
  refine ⟨key (ns ++ [name]), List.mem_filter.mpr ⟨key_mem_keys_of_mem_children h, ?_⟩, by simp⟩
  rw [key_append_singleton]
  cases hns : ns.isEmpty
  · have hslash : "/".length = 1 := rfl
    simp only [Bool.false_or, Bool.false_eq_true, if_false, String.length_append,
      decide_eq_true_eq]
    omega
  · simp

end FileTree

namespace Discovery

/-- The settings file of a checkout at `path`. -/
def settingsPath (path : String) : String := childPath (childPath path "devstack") "settings"

/-- An entry the walk meets: the path the walk spells for it, its literal names, and the
directories above it from the base down, each by its path and literal names. -/
structure Visit where
  /-- The base path with the names of the entries down to this one. -/
  path : String
  /-- The literal names the entry stands at. -/
  names : List String
  /-- The directories above the entry, from the base down. -/
  above : List (String × List String)

/-- Whether the entry at `path`, with literal names `ns`, is a checkout: a real directory holding
a `.git` directory, links followed for `.git`. -/
def isCheckout (t : FileTree) (path : String) (ns : List String) : Bool :=
  t.entryAt ns == some .dir && t.isDir (childPath path ".git")

/-- A checkout with a settings file and no checkout above it. -/
def qualifies (t : FileTree) (v : Visit) : Bool :=
  isCheckout t v.path v.names && t.isFile (settingsPath v.path) &&
    v.above.all fun a => !isCheckout t a.1 a.2

/-- Every entry below the directory at `path` (literal names `ns`) down to `depth` levels, in
pre-order: each child in the order `children` lists them, followed by the entries below it when
it is a real directory. Links are not followed. `above` is what lies above the children. -/
def walkBelow (t : FileTree) :
    Nat → String → List String → List (String × List String) → List Visit
  | 0, _, _, _ => []
  | depth + 1, path, ns, above =>
    (t.children ns).flatMap fun name =>
      ⟨childPath path name, ns ++ [name], above⟩ ::
        match t.entryAt (ns ++ [name]) with
        | some .dir => walkBelow t depth (childPath path name) (ns ++ [name])
            (above ++ [(childPath path name, ns ++ [name])])
        | _ => []

/-- Every entry the walk from `base` meets, down to `depth` levels below it: the base itself when
it exists, then, when it is a real directory or a link to a directory, the entries below it. -/
def walk (t : FileTree) (depth : Nat) (base : String) : List Visit :=
  match t.resolve base false with
  | .error _ => []
  | .ok lit =>
    match t.entryAt lit with
    | none => []
    | some .dir => ⟨base, lit, []⟩ :: walkBelow t depth base lit [(base, lit)]
    | some (.link _) =>
      ⟨base, lit, []⟩ :: match t.resolve base true with
        | .ok ns => if t.entryAt ns = some .dir then walkBelow t depth base ns [(base, lit)] else []
        | .error _ => []
    | some (.file _) => [⟨base, lit, []⟩]

/-- Records the requirements a settings file declares, replacing an earlier record of the same
plugin. -/
def readSettings (t : FileTree) (reqs : Requirements) (path : String) : Requirements :=
  match t.fileBytes path with
  | .ok bytes =>
    match Settings.parse (Text.decodeLossy bytes) with
    | some (n, requires) => reqs.insert n requires
    | none => reqs
  | .error _ => reqs

theorem requirements_eq_foldl (t : FileTree) (base : String) :
    requirements t base = (checkoutSettings t base).foldl (readSettings t) Requirements.empty :=
  rfl

theorem mem_above_of_mem_walkBelow {t : FileTree} {f : Nat} {path : String}
    {ns : List String} {above : List (String × List String)} {v : Visit}
    (hv : v ∈ walkBelow t f path ns above) : ∀ a ∈ above, a ∈ v.above := by
  induction f generalizing path ns above with
  | zero => simp [walkBelow] at hv
  | succ f ih =>
    simp only [walkBelow, List.mem_flatMap, List.mem_cons] at hv
    obtain ⟨name, -, rfl | hv⟩ := hv
    · exact fun a ha => ha
    · split at hv
      · exact fun a ha => ih hv a (List.mem_append_left _ ha)
      · simp at hv

/-- Below a checkout nothing qualifies: it is above every entry there. -/
theorem filter_walkBelow_of_checkout {t : FileTree} (f : Nat) (path : String)
    (ns : List String) {above : List (String × List String)} {a : String × List String}
    (ha : a ∈ above) (hc : isCheckout t a.1 a.2) :
    (walkBelow t f path ns above).filter (qualifies t) = [] := by
  rw [List.filter_eq_nil_iff]
  intro v hv hq
  have hall := (Bool.and_eq_true_iff.mp hq).2
  rw [List.all_eq_true] at hall
  have hna := hall a (mem_above_of_mem_walkBelow hv a ha)
  simp [hc] at hna

/-- The visit of a real directory with no checkout above it yields its own settings when it is a
checkout, and otherwise what the pruned walk below it finds, provided that walk agrees with the
filtered one below a non-checkout. -/
theorem map_filter_dir_visit {t : FileTree} (f : Nat) (path : String) (ns : List String)
    (above : List (String × List String)) (habove : ∀ a ∈ above, isCheckout t a.1 a.2 = false)
    (hentry : t.entryAt ns = some .dir)
    (hbelow : (∀ a ∈ above ++ [(path, ns)], isCheckout t a.1 a.2 = false) →
      settingsBelow t f path ns =
        ((walkBelow t f path ns (above ++ [(path, ns)])).filter (qualifies t)).map
          (settingsPath ·.path)) :
    ((⟨path, ns, above⟩ :: walkBelow t f path ns (above ++ [(path, ns)])).filter
        (qualifies t)).map (settingsPath ·.path) =
      if t.isDir (childPath path ".git") then
        (if t.isFile (settingsPath path) then [settingsPath path] else [])
      else settingsBelow t f path ns := by
  have hall : (above.all fun a => !isCheckout t a.1 a.2) = true := by simpa using habove
  by_cases hgit : t.isDir (childPath path ".git")
  · -- a checkout: its own settings, if any, and nothing from below it
    have hc : isCheckout t path ns := by simp [isCheckout, hentry, hgit]
    have hnil := filter_walkBelow_of_checkout f path ns
      (List.mem_append_right above (List.mem_singleton_self (path, ns))) hc
    rw [List.filter_cons, hnil]
    by_cases hf : t.isFile (settingsPath path) <;> simp [qualifies, hc, hall, hgit, hf]
  · -- a plain directory: not itself read, and walked on below
    have hc : isCheckout t path ns = false := by simp [isCheckout, hentry, hgit]
    have habove' : ∀ a ∈ above ++ [(path, ns)], isCheckout t a.1 a.2 = false := by
      intro a ha
      rcases List.mem_append.mp ha with ha | ha
      · exact habove a ha
      · rw [List.mem_singleton.mp ha]
        exact hc
    simp [qualifies, hc, hgit, hbelow habove']

/-- Pruning the walk at each checkout finds the settings of exactly the checkouts with no
checkout above them. -/
theorem settingsBelow_eq_filter (t : FileTree) (f : Nat) (path : String) (ns : List String)
    (above : List (String × List String)) (habove : ∀ a ∈ above, isCheckout t a.1 a.2 = false) :
    settingsBelow t f path ns =
      ((walkBelow t f path ns above).filter (qualifies t)).map (settingsPath ·.path) := by
  induction f generalizing path ns above with
  | zero => rfl
  | succ f ih =>
    simp only [settingsBelow, walkBelow, List.filter_flatMap, List.map_flatMap]
    apply List.flatMap_congr
    intro name _
    cases hentry : t.entryAt (ns ++ [name]) with
    | none => simp [qualifies, isCheckout, hentry]
    | some e =>
      cases e with
      | file bytes => simp [qualifies, isCheckout, hentry]
      | link target => simp [qualifies, isCheckout, hentry]
      | dir =>
        rw [map_filter_dir_visit f _ _ above habove hentry (ih _ _ _)]
        rfl

/-- The checkouts discovery reads are the walk's outermost checkouts with a settings file, in
walk order. -/
theorem checkoutSettings_eq_filter (t : FileTree) (base : String) :
    checkoutSettings t base =
      ((walk t (t.entries.size + 1) base).filter (qualifies t)).map (settingsPath ·.path) := by
  unfold checkoutSettings walk FileTree.stat
  cases hlit : t.resolve base false with
  | error e => rfl
  | ok lit =>
    cases hentry : t.entryAt lit with
    | none => simp [hentry]
    | some e =>
      cases e with
      | file bytes => simp [hentry, qualifies, isCheckout]
      | link target =>
        -- a link at the base is not a checkout, but the walk follows it
        have hc : isCheckout t base lit = false := by simp [isCheckout, hentry]
        have habove : ∀ a ∈ [(base, lit)], isCheckout t a.1 a.2 = false := by simpa using hc
        cases hres : t.resolve base true with
        | error e => simp [hentry, qualifies, hc]
        | ok ns =>
          by_cases hdir : t.entryAt ns = some .dir
          · simp [hentry, hdir, qualifies, hc, settingsBelow_eq_filter t _ base ns _ habove]
          · simp only [hentry, hdir, if_false]
            simp [qualifies, hc]
      | dir =>
        have hvisit := map_filter_dir_visit (t.entries.size + 1) base lit [] (by simp) hentry
          (settingsBelow_eq_filter t _ base lit _)
        rw [List.nil_append] at hvisit
        simp only [hentry]
        rw [hvisit]
        rfl

/-- One level more changes nothing once the levels exceed the keys deeper than the start. -/
theorem walkBelow_succ {t : FileTree} {f : Nat} {path : String} {ns : List String}
    {above : List (String × List String)} (h : t.deeperKeys ns < f) :
    walkBelow t (f + 1) path ns above = walkBelow t f path ns above := by
  induction f generalizing path ns above with
  | zero => omega
  | succ f ih =>
    rw [walkBelow, walkBelow]
    apply List.flatMap_congr
    intro name hname
    have hlt := t.deeperKeys_lt_of_mem_children hname
    split
    · rw [ih (by omega)]
    · rfl

theorem walkBelow_stable {t : FileTree} {f g : Nat} {path : String} {ns : List String}
    {above : List (String × List String)} (h : t.deeperKeys ns < f) (hfg : f ≤ g) :
    walkBelow t g path ns above = walkBelow t f path ns above := by
  obtain ⟨k, rfl⟩ := Nat.exists_eq_add_of_le hfg
  induction k with
  | zero => rfl
  | succ k ih => rw [← Nat.add_assoc, walkBelow_succ (by omega), ih (Nat.le_add_right f k)]

/-- A walk that may go more levels deep than the tree has keys meets every entry. -/
theorem walk_stable {t : FileTree} {depth : Nat} (base : String) (h : t.entries.size < depth) :
    walk t depth base = walk t (t.entries.size + 1) base := by
  unfold walk
  split
  · rfl
  · rename_i lit _
    have hlit := t.deeperKeys_le_size lit
    split
    · rfl
    · rw [walkBelow_stable (by omega) h]
    · split
      · rename_i ns _
        have hns := t.deeperKeys_le_size ns
        rw [walkBelow_stable (by omega) h]
      · rfl
    · rfl

/-- Every settings file discovery lists is a regular file. -/
theorem isFile_of_mem_checkoutSettings {t : FileTree} {base path : String}
    (h : path ∈ checkoutSettings t base) : t.isFile path = true := by
  rw [checkoutSettings_eq_filter] at h
  obtain ⟨v, hv, rfl⟩ := List.mem_map.mp h
  have hq := (List.mem_filter.mp hv).2
  simp only [qualifies, Bool.and_eq_true] at hq
  exact hq.1.2

/-- A path that reaches a regular file can be read. -/
theorem fileBytes_of_isFile {t : FileTree} {path : String} (h : t.isFile path = true) :
    ∃ bytes, t.fileBytes path = .ok bytes := by
  cases hs : t.stat path true with
  | error e => simp [FileTree.isFile, hs] at h
  | ok e =>
    cases e with
    | file bytes => exact ⟨bytes, by simp [FileTree.fileBytes, hs]⟩
    | dir => simp [FileTree.isFile, hs] at h
    | link _ => simp [FileTree.isFile, hs] at h

/-- Reading files that can all be read fails at none of them. -/
theorem foldlM_recordFile_of_isFile {t : FileTree} :
    ∀ (paths : List String) (reqs : Requirements), (∀ p ∈ paths, t.isFile p = true) →
      paths.foldlM (recordFile t) reqs = .ok (paths.foldl (readSettings t) reqs)
  | [], _, _ => rfl
  | path :: paths, reqs, hfiles => by
    obtain ⟨bytes, hbytes⟩ := fileBytes_of_isFile (hfiles path List.mem_cons_self)
    have hstep : recordFile t reqs path = .ok (readSettings t reqs path) := by
      -- both record the file's requirements, each through a match of its own
      simp only [recordFile, readSettings, hbytes]
      rfl
    rw [List.foldlM_cons, List.foldl_cons, hstep]
    exact foldlM_recordFile_of_isFile paths _ fun p hp => hfiles p (List.mem_cons_of_mem _ hp)

/-- On a file tree discovery never fails: every settings file it lists is a regular file, which
can be read, so it returns the requirements those files record. -/
theorem discover_eq_ok (t : FileTree) (base : String) :
    discover t base = .ok (requirements t base) := by
  rw [requirements_eq_foldl]
  exact foldlM_recordFile_of_isFile _ _ fun _ hp => isFile_of_mem_checkoutSettings hp

/-- Discovery reads the settings file of every checkout the walk from the base meets that has a
settings file and no checkout above it, in walk order, each later record of a plugin replacing an
earlier one; the walk may be taken as deep as one likes past the number of entries. -/
theorem requirements_read_outermost_checkouts (t : FileTree) (base : String) {depth : Nat}
    (h : t.entries.size < depth) :
    requirements t base =
      ((walk t depth base).filter (qualifies t)).foldl
        (fun reqs v => readSettings t reqs (settingsPath v.path)) Requirements.empty := by
  rw [requirements_eq_foldl, checkoutSettings_eq_filter, List.foldl_map, walk_stable base h]

/-- A checkout `b/outer` with a checkout `b/outer/inner` inside it, each with a settings file. -/
def nestedCheckouts : FileTree :=
  ⟨.ofList [("b", .dir), ("b/outer", .dir), ("b/outer/.git", .dir), ("b/outer/devstack", .dir),
    ("b/outer/devstack/settings",
      .file "define_plugin outer\nplugin_requires outer x\n".toUTF8.toList),
    ("b/outer/inner", .dir), ("b/outer/inner/.git", .dir), ("b/outer/inner/devstack", .dir),
    ("b/outer/inner/devstack/settings",
      .file "define_plugin inner\nplugin_requires inner y\n".toUTF8.toList)] compare⟩

theorem requirements_of_nested_checkouts : nestedCheckouts.entries.size < 10 ∧
    requirements nestedCheckouts "b" =
      ((walk nestedCheckouts 10 "b").filter (qualifies nestedCheckouts)).foldl
        (fun reqs v => readSettings nestedCheckouts reqs (settingsPath v.path))
        Requirements.empty :=
  ⟨by decide +kernel, requirements_read_outermost_checkouts nestedCheckouts "b" (by decide +kernel)⟩

end Discovery

end DevstackConf
