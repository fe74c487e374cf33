import Questline.Proofs.Files.Listing
import Questline.Proofs.Files.Reading
import Questline.Proofs.Quest.Table
import Questline.Quest.Folder

/-!
What loading a folder of quests does to a catalog: the definitions in the TOML files below it are
added in the order of their paths, and every file that holds no definition is named by a warning.
The order in which a file system has the entries of a folder makes no difference, and a folder that
cannot be listed, at any depth, leaves the catalog as it is.
-/

namespace Questline

def Event.warnedFile? (e : Event) : Option String :=
  match e.notice with
  | .questSkipped path _ => if e.notice.level = .warn then some path else none
  | _ => none

lemma Logged.log_forM {α : Type} (l : List α) (f : α → Logged Unit) :
    (l.forM f).log = l.flatMap fun a => (f a).log := by
  induction l with
  | nil => rfl
  | cons a l ih => rw [List.flatMap_cons, ← ih]; rfl

def FileTree.Found.path (folder : String) (f : FileTree.Found) : String :=
  f.names.foldl Path.join folder

/-- The definition that a file holds: its bytes are text, the text is a quest file, and the quest it
states has no defect. -/
def FileTree.definition? : FileTree → Option QuestDefinition
  | file bytes => do
    let text ← String.fromUTF8? bytes
    let members ← Toml.parse? text
    let quest ← StatedQuest.shape (.table members)
    (QuestDefinition.ofStated quest).toOption
  | _ => none

namespace QuestCatalog

open FileTree (Found)

def definitions (found : List Found) : List QuestDefinition :=
  found.filterMap fun f => f.node.definition?

/-- A successful load: the definitions in the files are added and counted, and the warnings about
files are one for each file without a definition. -/
structure Loads (c : QuestCatalog) (folder : String) (found : List Found)
    (r : Logged (Except LoadError Nat × QuestCatalog)) : Prop where
  val : r.val = (.ok (definitions found).length, c.insertAll (definitions found))
  warnings : r.log.filterMap Event.warnedFile? =
    (found.filter fun f => f.node.definition?.isNone).map (Found.path folder)

/-! ### One file -/

lemma toOption_ofText (path text : String) :
    (QuestDefinition.ofText path text).toOption =
      (Toml.parse? text).bind fun members =>
        (StatedQuest.shape (.table members)).bind fun quest =>
          (QuestDefinition.ofStated quest).toOption := by
  rw [QuestDefinition.ofText, toOption_bind, Toml.Shape.toOption_ofText, Option.bind_assoc]
  simp only [toOption_mapError]

lemma toOption_readFound (path : String) (node : FileTree) :
    (readFound path node).toOption = node.definition? := by
  cases node with
  | file bytes =>
    rw [readFound, FileTree.text, FileTree.definition?]
    cases String.fromUTF8? bytes with
    | none => rfl
    | some text => exact toOption_ofText path text
  | closedFile => rfl
  | folder entries => rfl
  | closedFolder => rfl

/-! ### The files in order -/

lemma warnedFile?_insert (c : QuestCatalog) (q : QuestDefinition) :
    (c.insert q).log.filterMap Event.warnedFile? = [] := by
  rw [insert]
  split <;> rfl

lemma warnedFile?_checkChains (c : QuestCatalog) :
    c.checkChains.log.filterMap Event.warnedFile? = [] := by
  rw [checkChains, Logged.log_forM, List.filterMap_eq_nil_iff]
  intro e he
  obtain ⟨q, -, he⟩ := List.mem_flatMap.1 he
  split at he
  · split at he
    · cases he
    · rw [List.mem_singleton.1 he]
      rfl
  · cases he

lemma val_loadFiles (c : QuestCatalog) (folder : String) (found : List Found) :
    (c.loadFiles (found.map fun f => (f.path folder, f.node))).val =
      ((definitions found).length, c.insertAll (definitions found)) := by
  induction found generalizing c with
  | nil => rfl
  | cons f found ih =>
    have hd := toOption_readFound (f.path folder) f.node
    rw [List.map_cons, loadFiles, definitions, List.filterMap_cons, ← hd]
    cases readFound (f.path folder) f.node with
    | error cause => exact ih c
    | ok q =>
      simp only [Logged.val_bind, Logged.val_pure, ih]
      rfl

lemma warnedFile?_loadFiles (c : QuestCatalog) (folder : String) (found : List Found) :
    (c.loadFiles (found.map fun f => (f.path folder, f.node))).log.filterMap Event.warnedFile? =
      (found.filter fun f => f.node.definition?.isNone).map (Found.path folder) := by
  induction found generalizing c with
  | nil => rfl
  | cons f found ih =>
    have hd := toOption_readFound (f.path folder) f.node
    rw [List.map_cons, loadFiles, List.filter_cons, ← hd]
    cases readFound (f.path folder) f.node with
    | error cause =>
      simp only [Logged.log_bind, List.filterMap_append, ih]
      rfl
    | ok q =>
      simp only [Logged.log_bind, List.filterMap_append, ih, warnedFile?_insert]
      simp [Except.toOption, Event.warnedFile?]

/-! ### A folder -/

/-- What a folder adds to a catalog, or the error that keeps it from being loaded. -/
lemma val_loadFolder (c : QuestCatalog) (files : Files) (folder : String) :
    (c.loadFolder files folder).val =
      match files folder with
      | none => (.ok 0, c)
      | some t =>
        match t.sortedTomlFiles with
        | .error e => (.error (.unreadable (e.names.foldl Path.join folder) e.cause), c)
        | .ok found => (.ok (definitions found).length, c.insertAll (definitions found)) := by
  rw [loadFolder]
  cases files folder with
  | none => rfl
  | some t =>
    cases ht : t.sortedTomlFiles with
    | error e => simp only [ht]; rfl
    | ok found =>
      have hv := c.val_loadFiles folder found
      simp only [ht, Logged.val_bind, Logged.val_pure]
      exact congrArg (fun r : Nat × QuestCatalog => (Except.ok r.1, r.2)) hv

lemma log_loadFolder {c : QuestCatalog} {files : Files} {folder : String} {t : FileTree}
    {found : List Found} (hf : files folder = some t) (ht : t.sortedTomlFiles = .ok found) :
    (c.loadFolder files folder).log =
      ⟨.questsLoading folder, none⟩ ::
        (c.loadFiles (found.map fun f => (f.path folder, f.node))).log ++
          (⟨.questsLoaded (definitions found).length, none⟩ ::
            (c.insertAll (definitions found)).checkChains.log) := by
  have hv := c.val_loadFiles folder found
  rw [loadFolder, hf]
  simp only [ht, Logged.log_bind, Logged.log_note, Logged.log_pure]
  simp only [Found.path] at hv ⊢
  rw [hv]
  simp

lemma loads_loadFolder {c : QuestCatalog} {files : Files} {folder : String} {t : FileTree}
    {found : List Found} (hf : files folder = some t) (ht : t.sortedTomlFiles = .ok found) :
    c.Loads folder found (c.loadFolder files folder) where
  val := by rw [val_loadFolder, hf]; simp only [ht]
  warnings := by
    rw [log_loadFolder hf ht, List.filterMap_append, List.filterMap_cons, List.filterMap_cons,
      warnedFile?_loadFiles, warnedFile?_checkChains]
    exact List.append_nil _

end QuestCatalog

end Questline
