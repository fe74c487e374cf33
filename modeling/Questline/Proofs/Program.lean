import Questline.Program
import Questline.Proofs.Config
import Questline.Proofs.Dispatch.Backends
import Questline.Proofs.Quest.Loading
import Questline.Proofs.Replay

/-!
How the replay program ends. It needs a configuration, a quest folder and a trace, and loads them in
that order: the first that cannot be loaded is the one that is named, and there is no report.
Otherwise the replay is made, and whatever its commands come to, the watched flags are reported.
-/

namespace Questline

/-! ### Seeds in memory -/

namespace MemoryFlags

lemma setAll_toList (flags : FlagMap) :
    (FlagStore.setAll ({} : MemoryFlags) flags.toList).val = ⟨flags⟩ := by
  have hentries : (∅ : FlagMap).writeAll flags.toList = flags := by
    refine Std.ExtTreeMap.ext_getElem? fun key => Option.ext fun value => ?_
    rw [FlagMap.getElem?_writeAll, Std.ExtTreeMap.getElem?_empty, Option.or_none,
      lastValue?_eq_some_iff_mem (Trace.nodup_flags flags),
      Std.ExtTreeMap.mem_toList_iff_getElem?_eq_some]
  exact congrArg mk ((entries_setAll _ _).trans hentries)

lemma value?_eq (s : MemoryFlags) (key : String) : FlagStore.value? s key = s.entries[key]? := by
  change (if s.entries.contains key = true then some ((s.entries[key]?).getD 0) else none) = _
  rw [Std.ExtTreeMap.contains_eq_isSome_getElem?]
  cases s.entries[key]? <;> rfl

end MemoryFlags

namespace Program

/-! ### What the arguments ask for -/

/-- An argument that is a path and no option. A lone dash is a path. -/
def Positional (arg : String) : Prop :=
  arg ≠ "" ∧ (arg.toList.head? = some '-' → arg.toList = ['-'])

instance : DecidablePred Positional := fun _ => inferInstanceAs (Decidable (_ ∧ _))

lemma requestFrom_cons {paths args : List String} {arg : String} (h : Positional arg)
    (hpaths : paths.length < 2) :
    requestFrom paths (arg :: args) = requestFrom (paths ++ [arg]) args := by
  have hadd : addPath? paths arg = some (paths ++ [arg]) :=
    if_neg (not_or.2 ⟨h.1, Nat.not_le.2 hpaths⟩)
  rw [requestFrom]
  split
  -- the first five are options
  case h_6 => rw [hadd]
  all_goals
    next hchars =>
      have hdash := h.2 (by rw [hchars]; rfl)
      rw [hchars] at hdash
      simp at hdash

lemma request_of_positional {trace : String} {config : Option String}
    (h : ∀ path ∈ trace :: config.toList, Positional path) :
    request (trace :: config.toList) = .replay trace config := by
  rw [request, requestFrom_cons (h trace List.mem_cons_self) (by decide)]
  cases config with
  | none => rfl
  | some path =>
    have hone : [trace].length < 2 := Nat.one_lt_two
    exact requestFrom_cons (h path (by simp)) hone

/-! ### Inputs -/

/-- The configuration of a run: the default one if no file is named, else that of the file. -/
inductive Configured (files : Files) : Option String → EngineConfig → Prop
  | default : Configured files none {}
  | inFile {path : String} {c : EngineConfig} :
      EngineConfig.InFile files path c → Configured files (some path) c

/-- A quest folder that can be loaded: it is missing, or everything in it can be listed. -/
def Loadable (files : Files) (folder : String) : Prop :=
  ∀ t, files folder = some t → t.Listable

structure Supplied (files : Files) (tracePath : String) (configPath : Option String)
    (c : EngineConfig) (t : Trace) : Prop where
  config : Configured files configPath c
  folder : Loadable files c.questFolder
  trace : files.Holds Trace.shape tracePath t

/-- What keeps a replay from being made, of the configuration, the quest folder and the trace the
first that is at fault. -/
inductive FirstFault (files : Files) (tracePath : String) (configPath : Option String) :
    LoadError → Prop
  | config {path : String} {e : LoadError} :
      configPath = some path → EngineConfig.Fault files path e →
        FirstFault files tracePath configPath e
  | folder {c : EngineConfig} {t : FileTree} {names : List String} {cause : ReadFault} :
      Configured files configPath c → files c.questFolder = some t → t.Unlistable names cause →
        FirstFault files tracePath configPath
          (.unreadable (names.foldl Path.join c.questFolder) cause)
  | trace {c : EngineConfig} {e : LoadError} :
      Configured files configPath c → Loadable files c.questFolder →
        files.Fault Trace.shape tracePath e → FirstFault files tracePath configPath e

/-- The catalog of a quest folder: empty for a missing one, else with the definitions in all of its
TOML files that have one. -/
inductive Stocked (files : Files) (folder : String) : QuestCatalog → Prop
  | missing : files folder = none → Stocked files folder .empty
  | found {t : FileTree} {found : List FileTree.Found} :
      files folder = some t → t.sortedTomlFiles = .ok found →
        (t.DistinctNames → t.Index found) →
        Stocked files folder (QuestCatalog.empty.insertAll (QuestCatalog.definitions found))

variable {files : Files} {tracePath folder : String} {configPath : Option String}
  {c : EngineConfig} {t : Trace} {e : LoadError}

lemma config_eq_ok_iff : (config files configPath).val = .ok c ↔ Configured files configPath c := by
  cases configPath with
  | none =>
    constructor
    · intro h
      cases h
      exact .default
    · intro h
      cases h
      rfl
  | some path =>
    rw [config, EngineConfig.load_eq_ok_iff]
    constructor
    · exact .inFile
    · intro h
      cases h with
      | inFile h => exact h

lemma config_eq_error_iff : (config files configPath).val = .error e ↔
    ∃ path, configPath = some path ∧ EngineConfig.Fault files path e := by
  cases configPath with
  | none => simp [config]
  | some path => simp [config, EngineConfig.load_eq_error_iff]

lemma trace_eq_ok_iff :
    Trace.load files tracePath = .ok t ↔ files.Holds Trace.shape tracePath t :=
  Files.read_eq_ok_iff

lemma trace_eq_error_iff :
    Trace.load files tracePath = .error e ↔ files.Fault Trace.shape tracePath e :=
  Files.read_eq_error_iff

lemma exists_stocked (h : Loadable files folder) : ∃ n catalog, Stocked files folder catalog ∧
    (QuestCatalog.empty.loadFolder files folder).val = (.ok n, catalog) := by
  rw [QuestCatalog.val_loadFolder]
  cases hf : files folder with
  | none => exact ⟨0, _, .missing hf, rfl⟩
  | some t =>
    obtain ⟨found, hfound⟩ := FileTree.exists_sortedTomlFiles (h t hf)
    have hindex (hn : t.DistinctNames) : t.Index found := by
      obtain ⟨found', hfound', hi⟩ := FileTree.sortedTomlFiles_of_listable (h t hf) hn
      cases hfound.symm.trans hfound'
      exact hi
    simp only [hfound]
    exact ⟨_, _, .found hf hfound hindex, rfl⟩

/-- The error about any other one names what cannot be listed. -/
lemma exists_unlistable (h : ¬ Loadable files folder) :
    ∃ t names cause, files folder = some t ∧ t.Unlistable names cause ∧
      (QuestCatalog.empty.loadFolder files folder).val.1 =
        .error (.unreadable (names.foldl Path.join folder) cause) := by
  rw [Loadable] at h
  push Not at h
  obtain ⟨t, hf, hl⟩ := h
  obtain ⟨e, he, hu⟩ := FileTree.sortedTomlFiles_of_not_listable hl
  refine ⟨t, e.names, e.cause, hf, hu, ?_⟩
  rw [QuestCatalog.val_loadFolder, hf]
  simp only [he]

lemma not_loadable_of_unlistable {t : FileTree} {names : List String} {cause : ReadFault}
    (hf : files folder = some t) (hu : t.Unlistable names cause) : ¬ Loadable files folder :=
  fun h => h t hf names cause hu

/-! ### The replay -/

/-- The engine that a replay starts with: over flags in memory that are the seeds of the trace, with
the keys of the configuration and the quests of the folder. -/
def opening (c : EngineConfig) (catalog : QuestCatalog) (t : Trace) :
    Engine MemoryFlags QuestCatalog :=
  (Engine.ofContext ⟨⟨t.flags⟩, catalog, c.keys⟩).val

/-- The engine that a replay ends with: all invocations of the trace were made in order. -/
def closing (clock : Nat → Instant) (c : EngineConfig) (catalog : QuestCatalog) (t : Trace) :
    Engine MemoryFlags QuestCatalog :=
  (opening c catalog t).run (Trace.calls clock t.invocations)

lemma seeded_eq_opening (c : EngineConfig) (catalog : QuestCatalog) (t : Trace) :
    (Engine.ofContext (⟨{}, catalog, c.keys⟩ : Context MemoryFlags QuestCatalog)).val.seeded
      t.flags = opening c catalog t := by
  rw [Engine.seeded, Engine.val_ofContext, opening, Engine.val_ofContext]
  exact congrArg (fun flags => Engine.mk _ ⟨flags, catalog, c.keys⟩) (MemoryFlags.setAll_toList _)

lemma val_replay (files : Files) (clock : Nat → Instant) (tracePath : String)
    (configPath : Option String) : (replay files clock tracePath configPath).val =
      (config files configPath).val >>= fun c =>
        let folder := (QuestCatalog.empty.loadFolder files c.questFolder).val
        folder.1 >>= fun _ => Trace.load files tracePath >>= fun t =>
          .ok (watchedJson (Trace.watched (closing clock c folder.2 t).context.flags t.watch)) := by
  rw [replay, Logged.val_bind]
  cases (config files configPath).val with
  | error e => rfl
  | ok c =>
    simp only [Logged.val_bind, ok_bind]
    rcases (QuestCatalog.empty.loadFolder files c.questFolder).val with ⟨e | n, catalog⟩
    · rfl
    · cases Trace.load files tracePath with
      | error e => rfl
      | ok t =>
        simp only [Logged.val_bind, Logged.val_pure, Trace.val_run, seeded_eq_opening, ok_bind]
        rfl

lemma replay_of_supplied (clock : Nat → Instant) (h : Supplied files tracePath configPath c t) :
    ∃ catalog, Stocked files c.questFolder catalog ∧
      (replay files clock tracePath configPath).val =
        .ok (watchedJson (Trace.watched (closing clock c catalog t).context.flags t.watch)) := by
  obtain ⟨n, catalog, hstocked, hfolder⟩ := exists_stocked h.folder
  refine ⟨catalog, hstocked, ?_⟩
  rw [val_replay, config_eq_ok_iff.2 h.config]
  simp only [hfolder, trace_eq_ok_iff.2 h.trace, ok_bind]

lemma replay_of_not_supplied (clock : Nat → Instant)
    (h : ¬ ∃ c t, Supplied files tracePath configPath c t) :
    ∃ cause, FirstFault files tracePath configPath cause ∧
      (replay files clock tracePath configPath).val = .error cause := by
  rw [val_replay]
  cases hc : (config files configPath).val with
  | error e =>
    obtain ⟨path, hpath, hfault⟩ := config_eq_error_iff.1 hc
    exact ⟨e, .config hpath hfault, rfl⟩
  | ok c =>
    have hconfigured := config_eq_ok_iff.1 hc
    by_cases hl : Loadable files c.questFolder
    · obtain ⟨n, catalog, -, hfolder⟩ := exists_stocked hl
      cases ht : Trace.load files tracePath with
      | error e =>
        refine ⟨e, .trace hconfigured hl (trace_eq_error_iff.1 ht), ?_⟩
        simp only [hfolder, ok_bind, error_bind]
      | ok t => exact absurd ⟨c, t, hconfigured, hl, trace_eq_ok_iff.1 ht⟩ h
    · obtain ⟨t, names, cause, hf, hu, hfolder⟩ := exists_unlistable hl
      refine ⟨_, .folder hconfigured hf hu, ?_⟩
      simp only [hfolder, ok_bind, error_bind]

lemma FirstFault.not_supplied {cause : LoadError}
    (h : FirstFault files tracePath configPath cause) (c : EngineConfig) (t : Trace) :
    ¬ Supplied files tracePath configPath c t := by
  intro hs
  have hunique {c' : EngineConfig} (hc : Configured files configPath c') : c' = c :=
    Except.ok.inj ((config_eq_ok_iff.2 hc).symm.trans (config_eq_ok_iff.2 hs.config))
  cases h with
  | config hpath hfault =>
    have herror := config_eq_error_iff.2 ⟨_, hpath, hfault⟩
    rw [config_eq_ok_iff.2 hs.config] at herror
    cases herror
  | folder hc hf hu =>
    cases hunique hc
    exact not_loadable_of_unlistable hf hu hs.folder
  | trace hc hl hfault =>
    have herror := trace_eq_error_iff.2 hfault
    rw [trace_eq_ok_iff.2 hs.trace] at herror
    cases herror

/-! ### The report -/

/-- What the members of a report say of a replay: there is one for each watched key, in ascending
order of the keys, with the value under it at the end, or null. That is the last value written to
the key, or its seed, and null if the key was neither seeded nor written. -/
structure Reports (t : Trace) (ws : List (String × Int32)) (last : Engine MemoryFlags QuestCatalog)
    (members : List (String × Json)) : Prop where
  ascending : members.Pairwise fun m m' => compare m.1 m'.1 = .lt
  mem_iff (key : String) (v : Json) : (key, v) ∈ members ↔ key ∈ t.watch ∧
    v = Json.ofOption (fun n => .int n.toInt) (FlagStore.value? last.context.flags key)
  value (key : String) :
    FlagStore.value? last.context.flags key = (lastValue? ws key).or t.flags[key]?
  null_iff (key : String) :
    (key, .null) ∈ members ↔ key ∈ t.watch ∧ key ∉ t.flags ∧ key ∉ ws.map Prod.fst

lemma ofOption_eq_null_iff {value : Option Int32} :
    .null = Json.ofOption (fun n => .int n.toInt) value ↔ value = none := by
  cases value <;> simp [Json.ofOption]

lemma reports_closing (clock : Nat → Instant) (c : EngineConfig) (catalog : QuestCatalog)
    (t : Trace) : ∃ members,
      watchedJson (Trace.watched (closing clock c catalog t).context.flags t.watch) = .obj members ∧
      Reports t ((opening c catalog t).written (Trace.calls clock t.invocations))
        (closing clock c catalog t) members := by
  have hmem (key : String) (v : Json) :
      (key, v) ∈ (Trace.watched (closing clock c catalog t).context.flags t.watch).toList.map
        (fun m => (m.1, Json.ofOption (fun n => .int n.toInt) m.2)) ↔
      key ∈ t.watch ∧ v = Json.ofOption (fun n => .int n.toInt)
        (FlagStore.value? (closing clock c catalog t).context.flags key) := by
    simp only [List.mem_map, Prod.exists, Prod.mk.injEq,
      Std.ExtTreeMap.mem_toList_iff_getElem?_eq_some, Trace.getElem?_watched]
    constructor
    · rintro ⟨key, value, hvalue, rfl, rfl⟩
      split_ifs at hvalue with hwatch
      exact ⟨hwatch, by rw [Option.some.inj hvalue]⟩
    · rintro ⟨hwatch, rfl⟩
      exact ⟨key, _, if_pos hwatch, rfl, rfl⟩
  have hvalue (key : String) :
      FlagStore.value? (closing clock c catalog t).context.flags key =
        (lastValue? ((opening c catalog t).written (Trace.calls clock t.invocations)) key).or
          t.flags[key]? := by
    rw [MemoryFlags.value?_eq, closing, opening, Engine.entries_run, FlagMap.getElem?_writeAll]
  refine ⟨_, rfl, List.pairwise_map.2 Std.ExtTreeMap.ordered_keys_toList, hmem, hvalue, ?_⟩
  intro key
  rw [hmem, ofOption_eq_null_iff, hvalue, Option.or_eq_none_iff, ← isSome_lastValue?_iff,
    Std.ExtTreeMap.mem_iff_isSome_getElem?, Option.not_isSome_iff_eq_none,
    Option.not_isSome_iff_eq_none, and_comm (b := t.flags[key]? = none)]

/-! ### How the program ends -/

section Ends

variable {args : List String} (hargs : request args = .replay tracePath configPath)

include hargs

lemma run_of_supplied (clock : Nat → Instant) (h : Supplied files tracePath configPath c t) :
    ∃ catalog members, Stocked files c.questFolder catalog ∧
      Reports t ((opening c catalog t).written (Trace.calls clock t.invocations))
        (closing clock c catalog t) members ∧
      (run files clock args).val = ⟨0, some (Json.obj members).pretty⟩ := by
  obtain ⟨catalog, hstocked, hreplay⟩ := replay_of_supplied clock h
  obtain ⟨members, hjson, hreports⟩ := reports_closing clock c catalog t
  refine ⟨catalog, members, hstocked, hreports, ?_⟩
  simp only [run, hargs, Logged.val_bind, hreplay, hjson]
  rfl

lemma run_of_not_supplied (clock : Nat → Instant)
    (h : ¬ ∃ c t, Supplied files tracePath configPath c t) :
    (run files clock args).val = ⟨1, none⟩ ∧ ∃ cause, FirstFault files tracePath configPath cause ∧
      (run files clock args).log.getLast? = some ⟨.replayRefused cause, none⟩ := by
  obtain ⟨cause, hfault, hreplay⟩ := replay_of_not_supplied clock h
  simp only [run, hargs, Logged.val_bind, Logged.log_bind, hreplay]
  exact ⟨rfl, cause, hfault, List.getLast?_concat⟩

end Ends

end Program

end Questline
