import DevstackConf.Render

/-!
# The configuration-file sections of a laid-out file

The sections after the shell variables are kept in an insertion-ordered dictionary keyed by
their heading `[[phase|file]]`. Laying out the plugins, services and shell variables adds no
such section (the `_metaSections` lemmas of `LocalConf`), so the sections of a laid-out file are
exactly the dictionary of the headings and lines of every phase and configuration file, taken in
input order (`build_metaSections`). A repeated heading keeps the place of its first pair and the
lines of its last.

When no two pairs share a heading, the file has one section per pair, in input order, and its
text lists all of them (`build_keeps_every_meta_section`). A heading is shared when a name holds
`|`: phase `a|b` with file `c` and phase `a` with file `b|c` are both headed `[[a|b|c]]`.
-/

namespace DevstackConf

/-- A sequenced computation succeeds exactly when each step succeeds in turn. -/
@[simp] theorem bind_eq_ok {ε α β : Type} {x : Except ε α} {f : α → Except ε β} {b : β} :
    x >>= f = .ok b ↔ ∃ a, x = .ok a ∧ f a = .ok b := by
  cases x <;> simp [bind, Except.bind]

namespace Dict

variable {α : Type}

theorem insert_of_not_mem {d : Dict α} {k : String} (v : α) (h : k ∉ d.keys) :
    (d.insert k v).entries = d.entries ++ [(k, v)] := by
  have hany : d.entries.any (·.1 == k) = false := by
    rw [List.any_eq_false]
    intro e he hek
    exact h (List.mem_map.mpr ⟨e, he, beq_iff_eq.mp hek⟩)
  simp only [insert, hany, Bool.false_eq_true, dite_false]

/-- Inserting entries whose keys are new and distinct appends them in order. -/
theorem foldl_insert_of_nodup (l : List (String × α)) (d : Dict α)
    (h : (d.keys ++ l.map Prod.fst).Nodup) :
    (l.foldl (fun d (k, v) => d.insert k v) d).entries = d.entries ++ l := by
  induction l generalizing d with
  | nil => simp
  | cons kv l ih =>
    obtain ⟨k, v⟩ := kv
    have hk : k ∉ d.keys := by
      intro hk
      exact (List.nodup_append.mp h).2.2 k hk k List.mem_cons_self rfl
    have hkeys : (d.insert k v).keys = d.keys ++ [k] := by
      simp [keys, insert_of_not_mem v hk]
    rw [List.foldl_cons, ih, insert_of_not_mem v hk, List.append_assoc, List.singleton_append]
    rwa [hkeys, List.append_assoc, List.singleton_append]

/-- A list of entries with distinct keys is its own dictionary. -/
theorem ofList_of_nodup {l : List (String × α)} (h : (l.map Prod.fst).Nodup) :
    (ofList l).entries = l := by
  unfold ofList
  rw [foldl_insert_of_nodup l empty h]
  rfl

end Dict

namespace LocalConf

@[simp] theorem push_metaSections (c : LocalConf) (line : String) :
    (c.push line).metaSections = c.metaSections := rfl

theorem foldl_metaSections {β : Type} (f : LocalConf → β → LocalConf)
    (hf : ∀ c x, (f c x).metaSections = c.metaSections) (xs : List β) (c : LocalConf) :
    (xs.foldl f c).metaSections = c.metaSections := by
  induction xs generalizing c with
  | nil => rfl
  | cons x xs ih => rw [List.foldl_cons, ih, hf]

theorem addPlugins_metaSections {c c' : LocalConf} {reqs : Requirements} {plugins : Dict Scalar}
    (h : c.addPlugins reqs plugins = .ok c') : c'.metaSections = c.metaSections := by
  unfold addPlugins at h
  split at h
  · cases h
  · split at h
    · cases h
    · cases h
      apply foldl_metaSections
      rintro c ⟨n, _ | s⟩
      · rfl
      · by_cases hs : s.isEmpty <;> simp [hs]

theorem addServices_metaSections (c : LocalConf) (base : List String) (services : Dict Scalar) :
    (c.addServices base services).metaSections = c.metaSections := by
  unfold addServices
  rw [foldl_metaSections]
  · split <;> split <;> rfl
  · rintro c ⟨n, v⟩
    dsimp only
    split <;> rfl

theorem addOrderedVariables_metaSections (c : LocalConf) (p : Params)
    (xs : List (String × String)) : (c.addOrderedVariables p xs).metaSections = c.metaSections := by
  have hvars : (xs.foldl (fun c x => c.push (x.1 ++ "=" ++ shellQuote x.2)) c).metaSections =
      c.metaSections := by
    apply foldl_metaSections
    intro c x
    rfl
  unfold addOrderedVariables
  dsimp only
  -- only lines and a warning follow the variables
  split
  · split <;> simp [hvars]
  · split <;> split <;> simp [hvars]

theorem addVariables_metaSections {c c' : LocalConf} {p : Params}
    (h : c.addVariables p = .ok c') : c'.metaSections = c.metaSections := by
  obtain ⟨xs, -, h⟩ := bind_eq_ok.mp h
  cases h
  exact addOrderedVariables_metaSections c p xs

/-- The heading of the section of a phase and a configuration file. -/
def heading (phase file : String) : String := "[[" ++ phase ++ "|" ++ file ++ "]]"

/-- The heading and lines of each phase and configuration file, in input order. -/
def metaEntries (m : MetaSections) : List (String × List String) :=
  m.entries.flatMap fun (phase, files) =>
    files.entries.map fun (file, sections) => (heading phase file, sectionLines sections)

theorem addMetaSections_metaSections (c : LocalConf) (m : MetaSections) :
    (c.addMetaSections m).metaSections =
      (metaEntries m).foldl (fun d (k, v) => d.insert k v) c.metaSections := by
  unfold addMetaSections metaEntries
  induction m.entries generalizing c with
  | nil => rfl
  | cons pf rest ih =>
    obtain ⟨phase, files⟩ := pf
    rw [List.foldl_cons, ih, List.flatMap_cons, List.foldl_append]
    congr 1
    clear ih
    dsimp only
    induction files.entries generalizing c with
    | nil => rfl
    | cons fs rest' ih' =>
      obtain ⟨file, sections⟩ := fs
      rw [List.foldl_cons, ih', List.map_cons, List.foldl_cons]
      rfl

end LocalConf

/-- The sections of a laid-out file are the dictionary of the headings and lines of its phases
and configuration files, in input order. -/
theorem build_metaSections {requirementsAt : String → Except DiscoveryError Requirements}
    {p : Params} {c : LocalConf}
    (h : LocalConf.build requirementsAt p = .ok c) :
    c.metaSections = match p.localConf with
      | some m => Dict.ofList (LocalConf.metaEntries m)
      | none => Dict.empty := by
  -- plugins, services and variables add no file sections, so these start from none
  have hvars : ∀ (b : Bool) base services (c₁ c₃ : LocalConf), c₁.metaSections = Dict.empty →
      (if b = true then c₁ else c₁.addServices base services).addVariables p = .ok c₃ →
      c₃.metaSections = Dict.empty := by
    intro b base services c₁ c₃ h₁ h₃
    rw [LocalConf.addVariables_metaSections h₃]
    split
    · exact h₁
    · rw [LocalConf.addServices_metaSections, h₁]
  have hfiles : ∀ c₃ : LocalConf, c₃.metaSections = Dict.empty →
      (match p.localConf with
        | some m => c₃.addMetaSections m
        | none => c₃).metaSections = match p.localConf with
          | some m => Dict.ofList (LocalConf.metaEntries m)
          | none => Dict.empty := by
    intro c₃ h₃
    cases p.localConf with
    | none => exact h₃
    | some m => rw [LocalConf.addMetaSections_metaSections, h₃]; rfl
  unfold LocalConf.build at h
  dsimp only at h
  split at h
  · obtain ⟨c₁, h₁, h⟩ := bind_eq_ok.mp h
    obtain ⟨c₃, h₃, h⟩ := bind_eq_ok.mp h
    rw [← Except.ok.inj h]
    exact hfiles c₃ (hvars _ _ _ c₁ c₃ (by rw [← Except.ok.inj h₁]) h₃)
  · -- the requirements are read first, then the plugins enabled
    obtain ⟨reqs, -, h⟩ := bind_eq_ok.mp h
    obtain ⟨c₁, h₁, h⟩ := bind_eq_ok.mp h
    obtain ⟨c₃, h₃, h⟩ := bind_eq_ok.mp h
    rw [← Except.ok.inj h]
    exact hfiles c₃ (hvars _ _ _ c₁ c₃ (LocalConf.addPlugins_metaSections h₁) h₃)

/-- When no two phase and file pairs share a heading, the laid-out file has one section for
each pair, in input order, holding that pair's lines, and its text lists every one of them. -/
theorem build_keeps_every_meta_section
    {requirementsAt : String → Except DiscoveryError Requirements} {p : Params}
    {c : LocalConf} {m : MetaSections} (h : LocalConf.build requirementsAt p = .ok c)
    (hm : p.localConf = some m) (hd : ((LocalConf.metaEntries m).map Prod.fst).Nodup) :
    c.metaSections.entries = LocalConf.metaEntries m ∧
      c.text = "[[local|localrc]]\n" ++ "\n".intercalate c.localrc ++ "\n\n" ++
        String.join ((LocalConf.metaEntries m).map fun e => e.1 ++ "\n" ++ "\n".intercalate e.2) := by
  have hentries : c.metaSections.entries = LocalConf.metaEntries m := by
    rw [build_metaSections h, hm]
    exact Dict.ofList_of_nodup hd
  refine ⟨hentries, ?_⟩
  unfold LocalConf.text
  rw [hentries]

example : (LocalConf.build (fun _ => .ok Requirements.empty)
    { localConf := some { entries := [
        ("a|b", { entries := [("c", { entries := [("s1", { entries := [("k", .str "1")] })] })] }),
        ("a", { entries := [("b|c", { entries := [("s2", { entries := [("k", .str "2")] })] })] })] }
    }).toOption.map
    (·.metaSections.entries) = some [("[[a|b|c]]", ["[s2]", "k = 2", ""])] := by
  decide +kernel

end DevstackConf
