import DevstackConf.Proofs.MetaSections
import DevstackConf.Proofs.Ordering

/-!
# The user's settings replace the generated ones

The shell-variable section of a laid-out file is written in stages: the plugins, the services,
the user's shell variables in dependency order, and last two variables that the file sets itself,
the project list `LIBS_FROM_GIT` and the test plugins `TEMPEST_PLUGINS`. Each of the two is
written only if the user sets no variable of that name, and a request for test plugins that the
user's own setting overrides is dropped with a warning.

The plugin and service stages add only lines that start with a fixed word, so they assign neither
variable (`addPlugins_addsLines`, `addServices_addsLines`), and the file sections add no line at
all. The shell variables are listed once each (`filter_orderedVariables`), and a variable's line
assigns a name only if the variable has that name, as long as names hold no `=`
(`startsWith_assignment_iff`).

So, for each of the two names, the lines that assign it are exactly the user's own line, if the
user sets it, and the generated line otherwise, if there is one; the warnings are those of the
test plugins; and every shell variable has its line in one block, in dependency order
(`user_settings_replace_generated`).
-/

namespace DevstackConf

/-- The line that sets the shell variable `name` to the text `text`. -/
def assignment (name text : String) : String := name ++ "=" ++ shellQuote text

/-- Two lists cut by a separator that neither first part holds agree up to the separator only
when the first parts are equal. -/
theorem prefix_append_sep_iff {c : Char} {a b x : List Char} (ha : c ∉ a) (hb : c ∉ b) :
    b ++ [c] <+: a ++ c :: x ↔ a = b := by
  induction a generalizing b with
  | nil =>
    cases b with
    | nil => simp
    | cons d b =>
      simp only [List.nil_append, List.cons_append, List.cons_prefix_cons]
      constructor
      · rintro ⟨rfl, -⟩
        exact absurd List.mem_cons_self hb
      · intro h
        cases h
  | cons e a ih =>
    cases b with
    | nil =>
      simp only [List.nil_append, List.cons_append, List.singleton_prefix_cons_iff]
      constructor
      · rintro rfl
        exact absurd List.mem_cons_self ha
      · intro h
        cases h
    | cons d b =>
      simp only [List.cons_append, List.cons_prefix_cons, List.cons.injEq]
      rw [ih (fun h => ha (List.mem_cons_of_mem _ h)) (fun h => hb (List.mem_cons_of_mem _ h))]
      constructor <;> rintro ⟨rfl, rfl⟩ <;> exact ⟨rfl, rfl⟩

/-- A variable's line starts by assigning `k` exactly when the variable is `k`, as long as
neither name holds `=`. -/
theorem startsWith_assignment_iff {n k t : String} (hn : '=' ∉ n.toList) (hk : '=' ∉ k.toList) :
    (assignment n t).startsWith (k ++ "=") = true ↔ n = k := by
  rw [String.startsWith_string_iff, assignment]
  simp only [String.toList_append, List.append_assoc]
  rw [show "=".toList = ['='] from rfl, List.singleton_append, prefix_append_sep_iff hn hk,
    String.toList_inj]

namespace Params

/-- The value the user gives the shell variable `name`, if any. -/
def userVariable? (p : Params) (name : String) : Option Scalar := p.localrc.bind (·.get? name)

/-- The project list the file writes itself: the short names of the required projects and of
the project under test, unless there are none. -/
def projectList (p : Params) : List String :=
  let libs := requiredProjects p.projects p.project
  if libs.isEmpty then [] else ["LIBS_FROM_GIT=" ++ ",".intercalate libs]

/-- The test plugins the file writes itself: the checkout of each requested plugin, in order,
unless none is requested. -/
def testPluginList (p : Params) : List String :=
  let requested := p.tempestPlugins.getD []
  if requested.isEmpty then []
  else
    let dirs := requested.map fun plugin => (p.baseDir.map (joinPath · plugin)).getD plugin
    ["TEMPEST_PLUGINS=\"" ++ " ".intercalate dirs ++ "\""]

/-- The warning that the requested test plugins are dropped for the user's setting `existing`,
unless none is requested. -/
def testPluginWarning (p : Params) (existing : String) : List String :=
  let requested := p.tempestPlugins.getD []
  if requested.isEmpty then []
  else ["TEMPEST_PLUGINS already defined (" ++ existing ++ "), requested value " ++
    Text.quoteList requested ++ " ignored"]

/-- The lines that should assign `name`: the user's own, if the user sets it, else `generated`. -/
def assignments (p : Params) (name : String) (generated : List String) : List String :=
  ((p.userVariable? name).map fun v => [assignment name v.display]).getD generated

theorem projectList_length_le (p : Params) : p.projectList.length ≤ 1 := by
  unfold projectList
  dsimp only
  split <;> simp

theorem testPluginList_length_le (p : Params) : p.testPluginList.length ≤ 1 := by
  unfold testPluginList
  dsimp only
  split <;> simp

/-- The generated lines each assign their own variable and not the other. -/
theorem filter_projectList (p : Params) :
    p.projectList.filter (·.startsWith "LIBS_FROM_GIT=") = p.projectList ∧
      p.projectList.filter (·.startsWith "TEMPEST_PLUGINS=") = [] := by
  unfold projectList
  dsimp only
  split <;> simp

theorem filter_testPluginList (p : Params) :
    p.testPluginList.filter (·.startsWith "LIBS_FROM_GIT=") = [] ∧
      p.testPluginList.filter (·.startsWith "TEMPEST_PLUGINS=") = p.testPluginList := by
  unfold testPluginList
  dsimp only
  split <;> simp

/-- The lines that should assign `name`: the user's own, if any, then `generated` unless the user
sets `name`. -/
theorem assignments_eq_append (p : Params) (name : String) (generated : List String) :
    p.assignments name generated =
      ((p.userVariable? name).map fun v => [assignment name v.display]).getD [] ++
        if (p.userVariable? name).isSome then [] else generated := by
  unfold assignments
  cases p.userVariable? name <;> rfl

theorem assignments_length_le (p : Params) (name : String) {generated : List String}
    (h : generated.length ≤ 1) : (p.assignments name generated).length ≤ 1 := by
  unfold assignments
  cases p.userVariable? name <;> simp [h]

end Params

namespace LocalConf

/-- `c'` is `c` with lines that satisfy `P` added to the shell-variable section, and the same
warnings. -/
def AddsLines (P : String → Prop) (c c' : LocalConf) : Prop :=
  ∃ ls, c'.localrc = c.localrc ++ ls ∧ (∀ l ∈ ls, P l) ∧ c'.warnings = c.warnings

namespace AddsLines

variable {P : String → Prop}

theorem refl (c : LocalConf) : AddsLines P c c := ⟨[], by simp, by simp, rfl⟩

theorem trans {c₁ c₂ c₃ : LocalConf} (h₁ : AddsLines P c₁ c₂) (h₂ : AddsLines P c₂ c₃) :
    AddsLines P c₁ c₃ := by
  obtain ⟨ls₁, hl₁, hP₁, hw₁⟩ := h₁
  obtain ⟨ls₂, hl₂, hP₂, hw₂⟩ := h₂
  refine ⟨ls₁ ++ ls₂, by rw [hl₂, hl₁, List.append_assoc], fun l hl => ?_, hw₂.trans hw₁⟩
  rcases List.mem_append.mp hl with hl | hl
  · exact hP₁ l hl
  · exact hP₂ l hl

theorem push {c : LocalConf} {line : String} (h : P line) : AddsLines P c (c.push line) :=
  ⟨[line], rfl, by simpa using h, rfl⟩

theorem foldl {β : Type} {f : LocalConf → β → LocalConf} (hf : ∀ c x, AddsLines P c (f c x))
    (xs : List β) (c : LocalConf) : AddsLines P c (xs.foldl f c) := by
  induction xs generalizing c with
  | nil => exact refl c
  | cons x xs ih => exact (hf c x).trans (ih (f c x))

end AddsLines

@[simp] theorem push_localrc (c : LocalConf) (line : String) :
    (c.push line).localrc = c.localrc ++ [line] := rfl

@[simp] theorem push_warnings (c : LocalConf) (line : String) :
    (c.push line).warnings = c.warnings := rfl

/-- The line assigns neither the project list nor the test plugins. -/
def LeavesGenerated (line : String) : Prop :=
  line.startsWith "LIBS_FROM_GIT=" = false ∧ line.startsWith "TEMPEST_PLUGINS=" = false

theorem addPlugins_addsLines {c c' : LocalConf} {reqs : Requirements} {plugins : Dict Scalar}
    (h : c.addPlugins reqs plugins = .ok c') : AddsLines LeavesGenerated c c' := by
  unfold addPlugins at h
  split at h
  · cases h
  · split at h
    · cases h
    · cases h
      apply AddsLines.foldl
      rintro c ⟨n, _ | s⟩
      · exact AddsLines.refl c
      · -- a plugin with a source is enabled by a line of its own
        by_cases hs : s.isEmpty
        · simp only [hs, if_true]
          exact AddsLines.refl c
        · simp only [hs, Bool.false_eq_true, if_false]
          exact AddsLines.push (by simp [LeavesGenerated])

theorem addServices_addsLines (c : LocalConf) (base : List String) (services : Dict Scalar) :
    AddsLines LeavesGenerated c (c.addServices base services) := by
  unfold addServices
  dsimp only
  refine AddsLines.trans ?_ (AddsLines.foldl ?_ _ _)
  · -- the base services are enabled by one line, or all services are disabled
    split <;> split <;> exact AddsLines.push (by simp [LeavesGenerated])
  · rintro c ⟨n, v⟩
    dsimp only
    split
    · exact AddsLines.push (by simp [LeavesGenerated])
    · exact AddsLines.push (by simp [LeavesGenerated])
    · exact AddsLines.refl c

/-- The file sections touch neither the shell-variable section nor the warnings. -/
theorem addMetaSections_frame (c : LocalConf) (m : MetaSections) :
    (c.addMetaSections m).localrc = c.localrc ∧ (c.addMetaSections m).warnings = c.warnings := by
  have hframe : AddsLines (fun _ => False) c (c.addMetaSections m) := by
    unfold addMetaSections
    apply AddsLines.foldl
    rintro c ⟨phase, files⟩
    apply AddsLines.foldl
    rintro c ⟨file, sections⟩
    exact ⟨[], by simp, by simp, rfl⟩
  obtain ⟨ls, hl, hP, hw⟩ := hframe
  have hnil : ls = [] := List.eq_nil_iff_forall_not_mem.mpr hP
  rw [hl, hnil, List.append_nil]
  exact ⟨rfl, hw⟩

theorem foldl_assignments (xs : List (String × String)) (c : LocalConf) :
    (xs.foldl (fun c x => c.push (x.1 ++ "=" ++ shellQuote x.2)) c).localrc =
        c.localrc ++ xs.map (fun e => assignment e.1 e.2) ∧
      (xs.foldl (fun c x => c.push (x.1 ++ "=" ++ shellQuote x.2)) c).warnings = c.warnings := by
  induction xs generalizing c with
  | nil => simp
  | cons x xs ih =>
    rw [List.foldl_cons, (ih _).1, (ih _).2]
    simp [push, assignment]

/-- The project-list step writes the generated list unless a variable of its name is given, and
records no warning. -/
theorem projectList_step (c : LocalConf) (p : Params) (given : Bool) :
    (if given || (requiredProjects p.projects p.project).isEmpty then c
      else c.push ("LIBS_FROM_GIT=" ++ ",".intercalate (requiredProjects p.projects p.project))) =
      { c with localrc := c.localrc ++ if given then [] else p.projectList } := by
  unfold Params.projectList
  cases given <;> by_cases hempty : (requiredProjects p.projects p.project).isEmpty <;>
    simp [hempty, push]

/-- After the shell variables come the project list, unless a variable of its name is given,
and the test plugins, unless a variable of their name is given. -/
theorem addOrderedVariables_localrc (c : LocalConf) (p : Params) (xs : List (String × String)) :
    (c.addOrderedVariables p xs).localrc =
      c.localrc ++ xs.map (fun e => assignment e.1 e.2) ++
        ((if xs.any (·.1 == "LIBS_FROM_GIT") then [] else p.projectList) ++
          (if (xs.find? (·.1 == "TEMPEST_PLUGINS")).isSome then [] else p.testPluginList)) := by
  have hvars := (foldl_assignments xs c).1
  unfold addOrderedVariables Params.testPluginList
  dsimp only
  rw [projectList_step]
  split
  · -- no test plugins are requested
    simp [hvars]
  · split
    · -- the user sets no test plugins: their line comes last
      rename_i htp
      have hnone : xs.find? (·.1 == "TEMPEST_PLUGINS") = none := by simpa using htp
      cases hb : p.baseDir <;> simp [hnone, hvars]
    · rename_i e htp
      have hsome : (xs.find? (·.1 == "TEMPEST_PLUGINS")).isSome := by
        simpa using congrArg Option.isSome htp
      simp [hsome, hvars]

/-- The only warning is the one for test plugins that a variable of their name overrides. -/
theorem addOrderedVariables_warnings (c : LocalConf) (p : Params) (xs : List (String × String)) :
    (c.addOrderedVariables p xs).warnings = c.warnings ++
      ((xs.find? (·.1 == "TEMPEST_PLUGINS")).map fun e => p.testPluginWarning e.2).getD [] := by
  have hvars := (foldl_assignments xs c).2
  unfold addOrderedVariables Params.testPluginWarning
  dsimp only
  rw [projectList_step]
  by_cases hreq : (p.tempestPlugins.getD []).isEmpty <;>
    cases htp : xs.find? (·.1 == "TEMPEST_PLUGINS") <;>
    simp [hreq, hvars]

/-- A laid-out file's shell-variable section starts with lines that assign neither generated
variable, and goes on, with its warnings, as the shell variables in dependency order leave it. -/
theorem build_layout {requirementsAt : String → Except DiscoveryError Requirements} {p : Params}
    {c : LocalConf} (h : build requirementsAt p = .ok c) :
    ∃ c₀ xs, AddsLines LeavesGenerated {} c₀ ∧ p.orderedVariables = .ok xs ∧
      c.localrc = (c₀.addOrderedVariables p xs).localrc ∧
      c.warnings = (c₀.addOrderedVariables p xs).warnings := by
  -- the services stage keeps what the plugins stage did
  have hservices : ∀ (b : Bool) base services (c₁ : LocalConf),
      AddsLines LeavesGenerated {} c₁ →
      AddsLines LeavesGenerated {} (if b = true then c₁ else c₁.addServices base services) := by
    intro b base services c₁ h₁
    split
    · exact h₁
    · exact h₁.trans (addServices_addsLines c₁ base services)
  unfold build at h
  dsimp only at h
  split at h
  · obtain ⟨c₁, h₁, h⟩ := bind_eq_ok.mp h
    obtain ⟨c₃, h₃, h⟩ := bind_eq_ok.mp h
    obtain ⟨xs, hxs, h₃⟩ := bind_eq_ok.mp h₃
    cases h₁
    cases h₃
    cases h
    -- the meta sections come last and leave the lines and the warnings alone
    split
    · exact ⟨_, xs, hservices _ _ _ _ (AddsLines.refl _), hxs, addMetaSections_frame _ _⟩
    · exact ⟨_, xs, hservices _ _ _ _ (AddsLines.refl _), hxs, rfl, rfl⟩
  · obtain ⟨reqs, -, h⟩ := bind_eq_ok.mp h
    obtain ⟨c₁, h₁, h⟩ := bind_eq_ok.mp h
    obtain ⟨c₃, h₃, h⟩ := bind_eq_ok.mp h
    obtain ⟨xs, hxs, h₃⟩ := bind_eq_ok.mp h₃
    cases h₃
    cases h
    split
    · exact ⟨_, xs, hservices _ _ _ _ (addPlugins_addsLines h₁), hxs, addMetaSections_frame _ _⟩
    · exact ⟨_, xs, hservices _ _ _ _ (addPlugins_addsLines h₁), hxs, rfl, rfl⟩

end LocalConf

namespace Params

/-- In a list whose keys are distinct, the entries of one key are the first one found. -/
theorem filter_key_eq_find? {α : Type} {l : List (String × α)} (hnd : (l.map Prod.fst).Nodup)
    (k : String) : l.filter (·.1 == k) = (l.find? (·.1 == k)).toList := by
  induction l with
  | nil => rfl
  | cons e l ih =>
    rw [List.map_cons, List.nodup_cons] at hnd
    rw [List.filter_cons, List.find?_cons]
    by_cases hek : e.1 = k
    · -- the key is not met again further on
      have hrest : l.filter (·.1 == k) = [] := by
        rw [List.filter_eq_nil_iff]
        intro x hx hxk
        exact hnd.1 (hek ▸ (beq_iff_eq.mp hxk) ▸ List.mem_map_of_mem hx)
      simp [hek, hrest]
    · have hek' : (e.1 == k) = false := by simpa using hek
      simp [hek', ih hnd.2]

/-- The names of the user's shell variables are distinct, as the keys of a dictionary are. -/
theorem localrc_names_nodup (p : Params) :
    (((p.localrc.map (·.entries)).getD []).map Prod.fst).Nodup := by
  cases p.localrc with
  | none => exact List.nodup_nil
  | some d => exact d.nodup

/-- The variables as ordered are the user's, with their texts. -/
theorem orderedVariables_perm {p : Params} {xs : List (String × String)}
    (h : p.orderedVariables = .ok xs) :
    xs.Perm (((p.localrc.map (·.entries)).getD []).map fun e => (e.1, e.2.display)) := by
  unfold orderedVariables at h
  dsimp only at h
  split at h
  · rename_i hempty
    cases h
    rw [List.isEmpty_iff.mp hempty, List.map_nil]
  · split at h
    · cases h
    · rename_i cat hcat
      split at h
      · cases h
      · rename_i out hout
        cases h
        rw [Variables.order_eq_insertAll] at hcat
        obtain ⟨out', hord, hperm, -⟩ := Catalog.ordered_insertAll hcat
        rw [hout, Except.ok.injEq] at hord
        exact hord ▸ hperm

/-- The ordered variables hold one entry for each name the user sets, and none for others. -/
theorem filter_orderedVariables {p : Params} {xs : List (String × String)}
    (h : p.orderedVariables = .ok xs) (k : String) :
    xs.filter (·.1 == k) = ((p.userVariable? k).map fun v => (k, v.display)).toList := by
  have hnd := localrc_names_nodup p
  have hperm := orderedVariables_perm h
  -- the user's value of `k` is what a look-up in the variables finds
  have hfind : (((p.localrc.map (·.entries)).getD []).map fun e => (e.1, e.2.display)).find?
      (·.1 == k) = (p.userVariable? k).map fun v => (k, v.display) := by
    rw [List.find?_map]
    cases hl : p.localrc with
    | none => simp [userVariable?, hl]
    | some d =>
      simp only [userVariable?, hl, Option.bind_some, Dict.get?, Option.map_map, Option.map_some,
        Option.getD_some]
      cases hf : d.entries.find? (·.1 == k) with
      | none => simp [Function.comp_def, hf]
      | some e =>
        have hek : e.1 = k := by simpa using List.find?_some hf
        simp [Function.comp_def, hf, hek]
  have hnd' : ((((p.localrc.map (·.entries)).getD []).map fun e => (e.1, e.2.display)).map
      Prod.fst).Nodup := by
    simpa [List.map_map, Function.comp_def] using hnd
  have hsame := (hperm.filter (·.1 == k)).trans (List.Perm.of_eq (filter_key_eq_find? hnd' k))
  rw [hfind] at hsame
  cases hv : p.userVariable? k with
  | none => simpa [hv] using hsame
  | some v => simpa [hv] using hsame

theorem find?_orderedVariables {p : Params} {xs : List (String × String)}
    (h : p.orderedVariables = .ok xs) (k : String) :
    xs.find? (·.1 == k) = (p.userVariable? k).map fun v => (k, v.display) := by
  rw [← List.head?_filter, filter_orderedVariables h k]
  cases p.userVariable? k <;> rfl

theorem any_orderedVariables {p : Params} {xs : List (String × String)}
    (h : p.orderedVariables = .ok xs) (k : String) :
    xs.any (·.1 == k) = (p.userVariable? k).isSome := by
  have hfind := congrArg Option.isSome (find?_orderedVariables h k)
  rw [Option.isSome_map] at hfind
  rw [← hfind]
  apply Bool.eq_iff_iff.mpr
  rw [List.any_eq_true, List.find?_isSome]

/-- The names of the ordered variables hold no `=` when the user's names hold none. -/
theorem orderedVariables_names {p : Params} {xs : List (String × String)}
    (h : p.orderedVariables = .ok xs) (hnames : ∀ d ∈ p.localrc, ∀ n ∈ d.keys, '=' ∉ n.toList) :
    ∀ e ∈ xs, '=' ∉ e.1.toList := by
  intro e he
  have hperm := orderedVariables_perm h
  obtain ⟨⟨n, v⟩, hnv, rfl⟩ := List.mem_map.mp (hperm.mem_iff.mp he)
  cases hl : p.localrc with
  | none => simp [hl] at hnv
  | some d =>
    rw [hl, Option.map_some, Option.getD_some] at hnv
    exact hnames d hl n (List.mem_map_of_mem (f := Prod.fst) hnv)

end Params

/-- The variable lines that assign `k` are those of the variable `k`. -/
theorem filter_assignments_startsWith {xs : List (String × String)} {k : String}
    (hk : '=' ∉ k.toList) (hxs : ∀ e ∈ xs, '=' ∉ e.1.toList) :
    (xs.map fun e => assignment e.1 e.2).filter (·.startsWith (k ++ "=")) =
      (xs.filter (·.1 == k)).map fun e => assignment e.1 e.2 := by
  rw [List.filter_map]
  congr 1
  apply List.filter_congr
  intro e he
  simp only [Function.comp_apply]
  rw [Bool.eq_iff_iff, startsWith_assignment_iff (hxs e he) hk, beq_iff_eq]

/-- The lines of the shell-variable section that assign `k`, the ones starting with `w`: none
before the variables, the variable `k` if the user sets it, and then those among the generated
lines. -/
theorem filter_layout {p : Params} {xs : List (String × String)} {pre tail : List String}
    (k w : String) (hw : k ++ "=" = w) (hk : '=' ∉ k.toList)
    (hpre : ∀ l ∈ pre, l.startsWith w = false) (hxs : p.orderedVariables = .ok xs)
    (hnames : ∀ d ∈ p.localrc, ∀ n ∈ d.keys, '=' ∉ n.toList) :
    (pre ++ xs.map (fun e => assignment e.1 e.2) ++ tail).filter (·.startsWith w) =
      ((p.userVariable? k).map fun v => [assignment k v.display]).getD [] ++
        tail.filter (·.startsWith w) := by
  subst hw
  have hnil : pre.filter (·.startsWith (k ++ "=")) = [] :=
    List.filter_eq_nil_iff.mpr fun l hl => by simp [hpre l hl]
  rw [List.filter_append, List.filter_append, hnil, List.nil_append,
    filter_assignments_startsWith hk (Params.orderedVariables_names hxs hnames),
    Params.filter_orderedVariables hxs k]
  cases p.userVariable? k <;> rfl

/-- For every set of parameters whose shell-variable names hold no `=` and that lays out a file,
each of the two variables the file can set itself is assigned by at most one line. If the user
sets it, that line is the user's own, among the shell variables; otherwise it is the generated
one: the project list when some project is required or under test, and the test plugins, one
checkout per requested plugin, when some are requested. A warning is recorded exactly when the
user sets the test plugins and others are requested. Every shell variable has its line, and the
lines of the shell variables stand together, in dependency order. -/
theorem user_settings_replace_generated
    {requirementsAt : String → Except DiscoveryError Requirements} {p : Params}
    {c : LocalConf} (hnames : ∀ d ∈ p.localrc, ∀ n ∈ d.keys, '=' ∉ n.toList)
    (h : LocalConf.build requirementsAt p = .ok c) :
    c.localrc.filter (·.startsWith "LIBS_FROM_GIT=") = p.assignments "LIBS_FROM_GIT" p.projectList ∧
      c.localrc.filter (·.startsWith "TEMPEST_PLUGINS=") =
        p.assignments "TEMPEST_PLUGINS" p.testPluginList ∧
      (c.localrc.filter (·.startsWith "LIBS_FROM_GIT=")).length ≤ 1 ∧
      (c.localrc.filter (·.startsWith "TEMPEST_PLUGINS=")).length ≤ 1 ∧
      c.warnings = ((p.userVariable? "TEMPEST_PLUGINS").map fun v =>
        p.testPluginWarning v.display).getD [] ∧
      ∃ xs, p.orderedVariables = .ok xs ∧ xs.map (fun e => assignment e.1 e.2) <:+: c.localrc ∧
        ∀ name v, p.userVariable? name = some v → (name, v.display) ∈ xs := by
  obtain ⟨c₀, xs, ⟨pre, hc₀, hpre, hw₀⟩, hxs, hlocal, hwarn⟩ := LocalConf.build_layout h
  simp only [List.nil_append] at hc₀
  rw [LocalConf.addOrderedVariables_localrc, hc₀, Params.any_orderedVariables hxs,
    Params.find?_orderedVariables hxs, Option.isSome_map] at hlocal
  -- the generated lines assign one name each
  have hlibs : c.localrc.filter (·.startsWith "LIBS_FROM_GIT=") =
      p.assignments "LIBS_FROM_GIT" p.projectList := by
    rw [hlocal, filter_layout "LIBS_FROM_GIT" "LIBS_FROM_GIT=" rfl (by decide)
      (fun l hl => (hpre l hl).1) hxs hnames, List.filter_append, apply_ite (List.filter _),
      apply_ite (List.filter _), List.filter_nil, (Params.filter_projectList p).1,
      (Params.filter_testPluginList p).1, ite_self, List.append_nil, Params.assignments_eq_append]
  have htest : c.localrc.filter (·.startsWith "TEMPEST_PLUGINS=") =
      p.assignments "TEMPEST_PLUGINS" p.testPluginList := by
    rw [hlocal, filter_layout "TEMPEST_PLUGINS" "TEMPEST_PLUGINS=" rfl (by decide)
      (fun l hl => (hpre l hl).2) hxs hnames, List.filter_append, apply_ite (List.filter _),
      apply_ite (List.filter _), List.filter_nil, (Params.filter_projectList p).2,
      (Params.filter_testPluginList p).2, ite_self, List.nil_append, Params.assignments_eq_append]
  refine ⟨hlibs, htest, ?_, ?_, ?_, xs, hxs, ⟨pre, _, hlocal.symm⟩, fun name v hv => ?_⟩
  · rw [hlibs]
    exact Params.assignments_length_le p _ (Params.projectList_length_le p)
  · rw [htest]
    exact Params.assignments_length_le p _ (Params.testPluginList_length_le p)
  · rw [hwarn, LocalConf.addOrderedVariables_warnings, hw₀, Params.find?_orderedVariables hxs,
      Option.map_map]
    rfl
  · have hmem : (name, v.display) ∈ xs.filter (·.1 == name) := by
      rw [Params.filter_orderedVariables hxs name, hv]
      simp
    exact List.mem_of_mem_filter hmem

/-- With the project list and the test plugins both set by the user, a required project and a
requested test plugin, the file keeps the user's two lines and warns once. -/
theorem user_settings_win_over_requests :
    ∃ c, LocalConf.build (fun _ => .ok Requirements.empty)
        { localrc := some { entries := [("LIBS_FROM_GIT", .str "oslo.db"),
            ("TEMPEST_PLUGINS", .str "someplugin")] }
          projects := some { entries := [("nova", { required := true, shortName := some "nova" })] }
          tempestPlugins := some ["heat-tempest-plugin"]
          baseDir := some "./test" } = .ok c ∧
      c.localrc.filter (·.startsWith "LIBS_FROM_GIT=") = ["LIBS_FROM_GIT=\"oslo.db\""] ∧
      c.localrc.filter (·.startsWith "TEMPEST_PLUGINS=") = ["TEMPEST_PLUGINS=\"someplugin\""] ∧
      c.warnings.length = 1 := by
  have hsome : (LocalConf.build (fun _ => .ok Requirements.empty)
      { localrc := some { entries := [("LIBS_FROM_GIT", .str "oslo.db"),
          ("TEMPEST_PLUGINS", .str "someplugin")] }
        projects := some { entries := [("nova", { required := true, shortName := some "nova" })] }
        tempestPlugins := some ["heat-tempest-plugin"]
        baseDir := some "./test" }).toOption.isSome := by
    -- the variables are listed through the recursive walk, which evaluates
    delta LocalConf.build LocalConf.addVariables Params.orderedVariables Catalog.ordered
      Catalog.emitWithDependencies
    rw [Graph.dependenciesByStack_eq_dependenciesOf_fun]
    decide +kernel
  have hc := eq_ok_of_toOption_eq_some (Option.some_get hsome).symm
  have hnames : ∀ d ∈ some ({ entries := [("LIBS_FROM_GIT", .str "oslo.db"),
      ("TEMPEST_PLUGINS", .str "someplugin")] } : Dict Scalar), ∀ n ∈ d.keys, '=' ∉ n.toList := by
    intro d hd
    cases hd
    decide
  obtain ⟨hlibs, htest, -, -, hwarn, -⟩ := user_settings_replace_generated hnames hc
  refine ⟨_, hc, ?_, ?_, ?_⟩
  · rw [hlibs]
    decide +kernel
  · rw [htest]
    decide +kernel
  · rw [hwarn]
    decide +kernel

end DevstackConf
