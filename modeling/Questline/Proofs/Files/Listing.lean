import Mathlib.Data.List.Nodup
import Questline.Files.Tree

/-!
What the list of the TOML files below a folder holds, in terms of where names lead in the tree. It
is there exactly when every folder can be listed, it has every TOML file once, in ascending order,
and the order of the entries in a folder makes no difference to it.
-/

namespace Questline.FileTree

inductive Leads : FileTree → List String → FileTree → Prop
  | here (t : FileTree) : t.Leads [] t
  | into {name : String} {t node : FileTree} {entries : List (String × FileTree)}
      {names : List String} :
      (name, t) ∈ entries → t.Leads names node → (folder entries).Leads (name :: names) node

/-- A TOML file, and the names that lead to it. Whether it can be read is left open. -/
structure TomlAt (t : FileTree) (names : List String) (node : FileTree) : Prop where
  leads : t.Leads names node
  isFolder : node.isFolder = false
  extension : names.getLast?.bind Path.extension? = some "toml"

/-- Something that was to be listed and cannot be: a closed folder at any depth, or a tree that is
a plain file. -/
inductive Unlistable (t : FileTree) : List String → ReadFault → Prop
  | denied {names : List String} : t.Leads names closedFolder → t.Unlistable names .denied
  | notAFolder : t.isFolder = false → t.Unlistable [] .notAFolder

def Listable (t : FileTree) : Prop := ∀ names cause, ¬ t.Unlistable names cause

/-- No folder has two entries of one name, as in every file system. -/
def DistinctNames (t : FileTree) : Prop :=
  ∀ names entries, t.Leads names (folder entries) → (entries.map Prod.fst).Nodup

/-- One tree with the entries of its folders in other orders. -/
inductive Rearranged : FileTree → FileTree → Prop
  | refl (t : FileTree) : Rearranged t t
  | perm {entries entries' : List (String × FileTree)} :
      entries.Perm entries' → Rearranged (folder entries) (folder entries')
  | inside {name : String} {t t' : FileTree} {before after : List (String × FileTree)} :
      Rearranged t t' →
        Rearranged (folder (before ++ (name, t) :: after)) (folder (before ++ (name, t') :: after))
  | trans {t t' t'' : FileTree} : Rearranged t t' → Rearranged t' t'' → Rearranged t t''

variable {t t' node : FileTree} {name : String} {names above : List String} {cause : ReadFault}
  {entries entries' : List (String × FileTree)}

/-! ### Where names lead -/

@[simp] lemma leads_nil : t.Leads [] node ↔ t = node :=
  ⟨fun h => by cases h; rfl, fun h => h ▸ .here t⟩

@[simp] lemma leads_folder_cons :
    (folder entries).Leads (name :: names) node ↔
      ∃ t, (name, t) ∈ entries ∧ t.Leads names node := by
  constructor
  · rintro (_ | ⟨ht, h⟩)
    exact ⟨_, ht, h⟩
  · rintro ⟨t, ht, h⟩
    exact .into ht h

/-- Only folders have anything below them. -/
lemma eq_of_leads (ht : ∀ entries, t ≠ folder entries) (h : t.Leads names node) :
    names = [] ∧ node = t := by
  cases h with
  | here => exact ⟨rfl, rfl⟩
  | into => exact absurd rfl (ht _)

lemma leads_folder_append (hn : names ≠ []) :
    (folder (entries ++ entries')).Leads names node ↔
      (folder entries).Leads names node ∨ (folder entries').Leads names node := by
  obtain ⟨name, below, rfl⟩ := List.exists_cons_of_ne_nil hn
  simp only [leads_folder_cons, List.mem_append, or_and_right, exists_or]

lemma leads_folder_single (hn : names ≠ []) :
    (folder [(name, t)]).Leads names node ↔
      ∃ below, names = name :: below ∧ t.Leads below node := by
  obtain ⟨first, below, rfl⟩ := List.exists_cons_of_ne_nil hn
  simp only [leads_folder_cons, List.mem_singleton, Prod.mk.injEq, List.cons.injEq]
  constructor
  · rintro ⟨_, ⟨rfl, rfl⟩, h⟩
    exact ⟨below, ⟨rfl, rfl⟩, h⟩
  · rintro ⟨_, ⟨rfl, rfl⟩, h⟩
    exact ⟨t, ⟨rfl, rfl⟩, h⟩

/-! ### TOML files among the entries of a folder -/

lemma TomlAt.ne_nil (h : t.TomlAt names node) : names ≠ [] := by
  rintro rfl
  cases h.extension

lemma tomlAt_append :
    (folder (entries ++ entries')).TomlAt names node ↔
      (folder entries).TomlAt names node ∨ (folder entries').TomlAt names node := by
  constructor
  · intro h
    obtain he | he := (leads_folder_append h.ne_nil).1 h.leads
    · exact .inl ⟨he, h.isFolder, h.extension⟩
    · exact .inr ⟨he, h.isFolder, h.extension⟩
  · rintro (h | h)
    · exact ⟨(leads_folder_append h.ne_nil).2 (.inl h.leads), h.isFolder, h.extension⟩
    · exact ⟨(leads_folder_append h.ne_nil).2 (.inr h.leads), h.isFolder, h.extension⟩

lemma TomlAt.exists_head (h : (folder entries).TomlAt names node) :
    ∃ name below, names = name :: below ∧ name ∈ entries.map Prod.fst := by
  obtain ⟨name, below, rfl⟩ := List.exists_cons_of_ne_nil h.ne_nil
  obtain ⟨t, ht, -⟩ := leads_folder_cons.1 h.leads
  exact ⟨name, below, rfl, List.mem_map_of_mem ht⟩

lemma not_tomlAt_nil : ¬ (folder []).TomlAt names node := by
  intro h
  obtain ⟨name, below, -, hm⟩ := h.exists_head
  cases hm

lemma tomlAt_single_folder (ht : t.isFolder = true) :
    (folder [(name, t)]).TomlAt names node ↔
      ∃ below, names = name :: below ∧ t.TomlAt below node := by
  constructor
  · intro h
    obtain ⟨below, rfl, hl⟩ := (leads_folder_single h.ne_nil).1 h.leads
    have hb : below ≠ [] := by
      rintro rfl
      have hf := h.isFolder
      rw [← leads_nil.1 hl, ht] at hf
      cases hf
    refine ⟨below, rfl, hl, h.isFolder, ?_⟩
    rw [← List.getLast?_cons_of_ne_nil hb]
    exact h.extension
  · rintro ⟨below, rfl, h⟩
    refine ⟨(leads_folder_single (by simp)).2 ⟨below, rfl, h.leads⟩, h.isFolder, ?_⟩
    rw [List.getLast?_cons_of_ne_nil h.ne_nil]
    exact h.extension

lemma tomlAt_single_file (ht : t.isFolder = false) :
    (folder [(name, t)]).TomlAt names node ↔
      names = [name] ∧ node = t ∧ Path.extension? name = some "toml" := by
  constructor
  · intro h
    obtain ⟨below, rfl, hl⟩ := (leads_folder_single h.ne_nil).1 h.leads
    obtain ⟨rfl, rfl⟩ := eq_of_leads (fun entries he => by rw [he] at ht; cases ht) hl
    exact ⟨rfl, rfl, h.extension⟩
  · rintro ⟨rfl, rfl, hx⟩
    exact ⟨(leads_folder_single (by simp)).2 ⟨[], rfl, .here node⟩, ht, hx⟩

/-! ### Folders that cannot be listed -/

lemma unlistable_folder :
    (folder entries).Unlistable names cause ↔
      cause = .denied ∧ names ≠ [] ∧ (folder entries).Leads names closedFolder := by
  constructor
  · rintro (h | h)
    · refine ⟨rfl, ?_, h⟩
      rintro rfl
      cases leads_nil.1 h
    · cases h
  · rintro ⟨rfl, -, h⟩
    exact .denied h

lemma unlistable_append :
    (folder (entries ++ entries')).Unlistable names cause ↔
      (folder entries).Unlistable names cause ∨ (folder entries').Unlistable names cause := by
  simp only [unlistable_folder]
  constructor
  · rintro ⟨hc, hn, h⟩
    obtain h | h := (leads_folder_append hn).1 h
    · exact .inl ⟨hc, hn, h⟩
    · exact .inr ⟨hc, hn, h⟩
  · rintro (⟨hc, hn, h⟩ | ⟨hc, hn, h⟩)
    · exact ⟨hc, hn, (leads_folder_append hn).2 (.inl h)⟩
    · exact ⟨hc, hn, (leads_folder_append hn).2 (.inr h)⟩

lemma unlistable_single :
    (folder [(name, t)]).Unlistable names cause ↔
      t.isFolder = true ∧ ∃ below, names = name :: below ∧ t.Unlistable below cause := by
  rw [unlistable_folder]
  constructor
  · rintro ⟨rfl, hn, h⟩
    obtain ⟨below, rfl, hl⟩ := (leads_folder_single hn).1 h
    refine ⟨?_, below, rfl, .denied hl⟩
    cases hl <;> rfl
  · rintro ⟨ht, below, rfl, h | h⟩
    · exact ⟨rfl, by simp, (leads_folder_single (by simp)).2 ⟨below, rfl, h⟩⟩
    · rw [h] at ht
      cases ht

/-! ### Trees without two entries of one name in a folder -/

lemma distinctNames_folder :
    (folder entries).DistinctNames ↔
      (entries.map Prod.fst).Nodup ∧ ∀ p ∈ entries, p.2.DistinctNames := by
  constructor
  · intro h
    exact ⟨h [] entries (.here _), fun p hp names below hl => h (p.1 :: names) below (.into hp hl)⟩
  · rintro ⟨hn, hp⟩ names below hl
    cases hl with
    | here => exact hn
    | into hm hl => exact hp _ hm _ _ hl

lemma distinctNames_of_ne_folder (ht : ∀ entries, t ≠ folder entries) : t.DistinctNames :=
  fun _ entries hl => absurd (eq_of_leads ht hl).2.symm (ht entries)

lemma DistinctNames.append (h : (folder (entries ++ entries')).DistinctNames) :
    (folder entries).DistinctNames ∧ (folder entries').DistinctNames ∧
      (entries.map Prod.fst).Disjoint (entries'.map Prod.fst) := by
  obtain ⟨hn, hp⟩ := distinctNames_folder.1 h
  rw [List.map_append, List.nodup_append'] at hn
  obtain ⟨hn, hn', hdisj⟩ := hn
  exact ⟨distinctNames_folder.2 ⟨hn, fun p hm => hp p (List.mem_append_left _ hm)⟩,
    distinctNames_folder.2 ⟨hn', fun p hm => hp p (List.mem_append_right _ hm)⟩, hdisj⟩

lemma DistinctNames.single (h : (folder [(name, t)]).DistinctNames) : t.DistinctNames :=
  (distinctNames_folder.1 h).2 _ (List.mem_singleton.2 rfl)

/-! ### What a listing says about a tree -/

/-- What the files or the error of a listing say about a tree that some names lead to. -/
inductive Lists (above : List String) (t : FileTree) : Except Unlisted (List Found) → Prop
  | ok {found : List Found} :
      t.Listable →
      (∀ f, f ∈ found ↔ ∃ names, f.names = above ++ names ∧ t.TomlAt names f.node) →
      (t.DistinctNames → (found.map Found.names).Nodup) → Lists above t (.ok found)
  | error {e : Unlisted} {names : List String} :
      e.names = above ++ names → t.Unlistable names e.cause → Lists above t (.error e)

lemma lists_nil : Lists above (folder []) (.ok []) := by
  refine .ok (fun names cause h => ?_) (fun f => ?_) fun _ => List.nodup_nil
  · obtain ⟨-, hn, hl⟩ := unlistable_folder.1 h
    obtain ⟨name, below, rfl⟩ := List.exists_cons_of_ne_nil hn
    simp at hl
  · simp [not_tomlAt_nil]

lemma lists_not_folder (ht : t.isFolder = false) : Lists above t (.error ⟨above, .notAFolder⟩) :=
  .error (List.append_nil above).symm (.notAFolder ht)

lemma lists_closedFolder : Lists above closedFolder (.error ⟨above, .denied⟩) :=
  .error (List.append_nil above).symm (.denied (.here _))

lemma lists_single_folder {r : Except Unlisted (List Found)} (ht : t.isFolder = true)
    (h : Lists (above ++ [name]) t r) : Lists above (folder [(name, t)]) r := by
  cases h with
  | ok hl hm hd =>
    refine .ok (fun names cause hu => ?_) (fun f => ?_) fun hn => hd hn.single
    · obtain ⟨-, below, -, hu⟩ := unlistable_single.1 hu
      exact hl below cause hu
    · rw [hm f]
      constructor
      · rintro ⟨names, hf, hat⟩
        exact ⟨name :: names, by rw [hf, List.append_assoc]; rfl,
          (tomlAt_single_folder ht).2 ⟨names, rfl, hat⟩⟩
      · rintro ⟨names, hf, hat⟩
        obtain ⟨below, rfl, hb⟩ := (tomlAt_single_folder ht).1 hat
        exact ⟨below, by rw [hf, List.append_assoc]; rfl, hb⟩
  | error he hu =>
    exact .error (by rw [he, List.append_assoc]; rfl) (unlistable_single.2 ⟨ht, _, rfl, hu⟩)

lemma lists_single_file (ht : t.isFolder = false) :
    Lists above (folder [(name, t)])
      (.ok (if Path.extension? name = some "toml" then [⟨above ++ [name], t⟩] else [])) := by
  refine .ok (fun names cause hu => ?_) (fun f => ?_) fun _ => ?_
  · obtain ⟨hf, -⟩ := unlistable_single.1 hu
    rw [ht] at hf
    cases hf
  · have hm :
        f ∈ (if Path.extension? name = some "toml" then [Found.mk (above ++ [name]) t] else []) ↔
          f = ⟨above ++ [name], t⟩ ∧ Path.extension? name = some "toml" := by
      split <;> simp [*]
    rw [hm]
    constructor
    · rintro ⟨rfl, hx⟩
      exact ⟨[name], rfl, (tomlAt_single_file ht).2 ⟨rfl, rfl, hx⟩⟩
    · rintro ⟨names, hf, hat⟩
      obtain ⟨rfl, hnode, hx⟩ := (tomlAt_single_file ht).1 hat
      exact ⟨by rw [← hf, ← hnode], hx⟩
  · split <;> simp

/-- Listings of two parts of a folder make one of the folder. -/
lemma Lists.append {own others : List Found} (h : Lists above (folder entries) (.ok own))
    (h' : Lists above (folder entries') (.ok others)) :
    Lists above (folder (entries ++ entries')) (.ok (own ++ others)) := by
  cases h with
  | ok hl hm hd =>
    cases h' with
    | ok hl' hm' hd' =>
      refine .ok (fun names cause hu => ?_) (fun f => ?_) fun hn => ?_
      · obtain hu | hu := unlistable_append.1 hu
        · exact hl names cause hu
        · exact hl' names cause hu
      · rw [List.mem_append, hm, hm', ← exists_or]
        simp only [tomlAt_append, and_or_left]
      · obtain ⟨hn, hn', hne⟩ := hn.append
        rw [List.map_append, List.nodup_append]
        refine ⟨hd hn, hd' hn', ?_⟩
        rintro a ha b hb rfl
        obtain ⟨f, hf, rfl⟩ := List.mem_map.1 ha
        obtain ⟨f', hf', hff⟩ := List.mem_map.1 hb
        obtain ⟨names, hfn, hat⟩ := (hm f).1 hf
        obtain ⟨names', hfn', hat'⟩ := (hm' f').1 hf'
        have hnn : names' = names := List.append_cancel_left (hfn'.symm.trans (hff.trans hfn))
        obtain ⟨name, below, rfl, hin⟩ := hat.exists_head
        obtain ⟨_, _, hc, hin'⟩ := hat'.exists_head
        obtain ⟨rfl, -⟩ := List.cons.inj (hnn.symm.trans hc)
        exact hne hin hin'

/-- Listings of an entry and of the other entries make one of the folder; an error of the first
comes before one of the others. -/
lemma Lists.bind {own others : Except Unlisted (List Found)} (h : Lists above (folder entries) own)
    (h' : Lists above (folder entries') others) :
    Lists above (folder (entries ++ entries'))
      (own >>= fun a => others >>= fun b => pure (a ++ b)) := by
  cases own with
  | error e =>
    cases h with
    | error he hu => exact .error he (unlistable_append.2 (.inl hu))
  | ok own =>
    cases others with
    | error e =>
      cases h' with
      | error he hu => exact .error he (unlistable_append.2 (.inr hu))
    | ok others => exact h.append h'

mutual

theorem lists_tomlFiles (above : List String) :
    (t : FileTree) → Lists above t (t.tomlFiles above)
  | folder entries => by
    rw [tomlFiles]
    exact lists_tomlFilesAmong above entries
  | closedFolder => by
    rw [tomlFiles]
    exact lists_closedFolder
  | file bytes => by
    rw [tomlFiles]
    · exact lists_not_folder rfl
    · nofun
    · nofun
  | closedFile => by
    rw [tomlFiles]
    · exact lists_not_folder rfl
    · nofun
    · nofun

theorem lists_tomlFilesAmong (above : List String) :
    (entries : List (String × FileTree)) →
      Lists above (folder entries) (tomlFilesAmong above entries)
  | [] => by
    rw [tomlFilesAmong]
    exact lists_nil
  | (name, t) :: entries => by
    have others := lists_tomlFilesAmong above entries
    rw [tomlFilesAmong]
    split
    · next ht => exact (lists_single_folder ht (lists_tomlFiles (above ++ [name]) t)).bind others
    · next ht => exact (lists_single_file (Bool.eq_false_iff.2 ht)).bind others

end

/-- Whether everything can be listed is found out by listing it. -/
theorem listable_iff_isOk : t.Listable ↔ (t.tomlFiles []).isOk = true := by
  have hl := lists_tomlFiles [] t
  generalize t.tomlFiles [] = r at hl ⊢
  cases hl with
  | ok hl _ _ => exact iff_of_true hl rfl
  | error _ hu => exact iff_of_false (fun hl => hl _ _ hu) Bool.noConfusion

instance (t : FileTree) : Decidable t.Listable := decidable_of_iff _ listable_iff_isOk.symm

/-! ### The sorted list -/

/-- The path of one file comes before that of another, the first names that differ deciding. -/
def Found.Before (f f' : Found) : Prop := compare f.names f'.names = .lt

lemma Found.Before.irrefl (f : Found) : ¬ f.Before f := by
  have h : compare f.names f.names = .eq := Std.ReflOrd.compare_self
  rw [Before, h]
  exact Ordering.noConfusion

lemma Found.Before.trans {f g k : Found} (h : f.Before g) (h' : g.Before k) : f.Before k :=
  Std.TransCmp.lt_trans h h'

/-- The TOML files of a tree, each once, in ascending order of their paths. -/
structure Index (t : FileTree) (found : List Found) : Prop where
  ascending : found.Pairwise Found.Before
  mem_iff : ∀ f, f ∈ found ↔ t.TomlAt f.names f.node

lemma nodup_of_ascending {found : List Found} (h : found.Pairwise Found.Before) : found.Nodup := by
  refine h.imp fun {f g} hfg he => ?_
  rw [he] at hfg
  exact Found.Before.irrefl g hfg

lemma Index.eq {found found' : List Found} (h : t.Index found) (h' : t'.Index found')
    (ht : ∀ names node, t.TomlAt names node ↔ t'.TomlAt names node) : found = found' := by
  have hmem (f : Found) : f ∈ found ↔ f ∈ found' := by rw [h.mem_iff, h'.mem_iff, ht]
  have hperm : found.Perm found' :=
    (List.perm_ext_iff_of_nodup (nodup_of_ascending h.ascending)
      (nodup_of_ascending h'.ascending)).2 hmem
  refine List.Perm.eq_of_pairwise (fun f g _ _ hfg hgf => ?_) h.ascending h'.ascending hperm
  exact absurd (hfg.trans hgf) (Found.Before.irrefl f)

def Found.upTo (f f' : Found) : Bool := (List.compareLex compare f.names f'.names).isLE

lemma Found.upTo_trans (f g k : Found) (h : f.upTo g = true) (h' : g.upTo k = true) :
    f.upTo k = true :=
  Std.TransCmp.isLE_trans h h'

lemma Found.upTo_total (f g : Found) : (f.upTo g || g.upTo f) = true := by
  rw [Bool.or_eq_true]
  by_cases h : f.upTo g = true
  · exact .inl h
  · exact .inr (Ordering.isLE_of_eq_lt (Std.OrientedCmp.lt_of_not_isLE h))

lemma Found.before_of_upTo {f g : Found} (h : f.upTo g = true) (hne : f.names ≠ g.names) :
    f.Before g :=
  (Ordering.isLE_iff_eq_lt_or_eq_eq.1 h).resolve_right fun he =>
    hne (Std.LawfulEqCmp.eq_of_compare he)

/-- Sorting files with distinct names leaves no two in a tie. -/
lemma ascending_sort {found : List Found} (hn : (found.map Found.names).Nodup) :
    (found.mergeSort Found.upTo).Pairwise Found.Before := by
  have hperm := List.mergeSort_perm found Found.upTo
  have hne := List.pairwise_map.1 ((hperm.map Found.names).nodup_iff.2 hn)
  have hle := List.pairwise_mergeSort Found.upTo_trans Found.upTo_total found
  exact (hle.and hne).imp fun h => Found.before_of_upTo h.1 h.2

lemma index_of_perm {found found' : List Found} (h : t.tomlFiles [] = .ok found)
    (hp : found'.Perm found) (ha : found'.Pairwise Found.Before) : t.Index found' := by
  have hl := lists_tomlFiles [] t
  rw [h] at hl
  cases hl with
  | ok _ hm _ =>
    refine ⟨ha, fun f => ?_⟩
    rw [hp.mem_iff, hm]
    simp

lemma exists_sortedTomlFiles (h : t.Listable) : ∃ found, t.sortedTomlFiles = .ok found := by
  have hok := listable_iff_isOk.1 h
  rw [sortedTomlFiles]
  cases hr : t.tomlFiles [] with
  | error e => rw [hr] at hok; cases hok
  | ok found => exact ⟨_, rfl⟩

theorem sortedTomlFiles_of_listable (h : t.Listable) (hn : t.DistinctNames) :
    ∃ found, t.sortedTomlFiles = .ok found ∧ t.Index found := by
  have hl := lists_tomlFiles [] t
  cases hr : t.tomlFiles [] with
  | error e =>
    rw [hr] at hl
    cases hl with
    | error _ hu => exact absurd hu (h _ _)
  | ok found =>
    rw [hr] at hl
    cases hl with
    | ok _ _ hd =>
      refine ⟨found.mergeSort Found.upTo, by rw [sortedTomlFiles, hr]; rfl, ?_⟩
      exact index_of_perm hr (List.mergeSort_perm _ _) (ascending_sort (hd hn))

theorem sortedTomlFiles_of_not_listable (h : ¬ t.Listable) :
    ∃ e, t.sortedTomlFiles = .error e ∧ t.Unlistable e.names e.cause := by
  have hl := lists_tomlFiles [] t
  rw [sortedTomlFiles]
  generalize t.tomlFiles [] = r at hl
  cases hl with
  | ok hl _ _ => exact absurd hl h
  | error he hu =>
    refine ⟨_, rfl, ?_⟩
    rw [he]
    exact hu

/-! ### The order of the entries -/

namespace Rearranged

lemma symm (h : t.Rearranged t') : t'.Rearranged t := by
  induction h with
  | refl t => exact .refl t
  | perm h => exact .perm h.symm
  | inside _ ih => exact .inside ih
  | trans _ _ ih ih' => exact .trans ih' ih

lemma isFolder_eq (h : t.Rearranged t') : t'.isFolder = t.isFolder := by
  induction h with
  | refl => rfl
  | perm => rfl
  | inside => rfl
  | trans _ _ ih ih' => rw [ih', ih]

lemma eq_of_ne_folder (h : t.Rearranged t') (ht : ∀ entries, t ≠ folder entries) : t' = t := by
  induction h with
  | refl => rfl
  | perm => exact absurd rfl (ht _)
  | inside => exact absurd rfl (ht _)
  | trans _ _ ih ih' =>
    obtain rfl := ih ht
    exact ih' ht

lemma exists_entries (h : t.Rearranged t') (ht : t = folder entries) :
    ∃ entries', t' = folder entries' ∧ (entries.map Prod.fst).Perm (entries'.map Prod.fst) := by
  induction h generalizing entries with
  | refl => exact ⟨entries, ht, .refl _⟩
  | perm h =>
    cases ht
    exact ⟨_, rfl, h.map _⟩
  | inside =>
    cases ht
    exact ⟨_, rfl, .of_eq (by simp)⟩
  | trans _ _ ih ih' =>
    obtain ⟨between, hb, hp⟩ := ih ht
    obtain ⟨entries', he, hp'⟩ := ih' hb
    exact ⟨entries', he, hp.trans hp'⟩

end Rearranged

/-- In a rearranged tree the same names lead to the same, rearranged. -/
lemma Leads.rearranged (h : t.Rearranged t') (hl : t.Leads names node) :
    ∃ node', t'.Leads names node' ∧ node.Rearranged node' := by
  induction h generalizing names node with
  | refl => exact ⟨node, hl, .refl node⟩
  | perm hp =>
    cases hl with
    | here => exact ⟨_, .here _, .perm hp⟩
    | into hm hl => exact ⟨node, .into (hp.mem_iff.1 hm) hl, .refl node⟩
  | @inside name t t' before after hr ih =>
    cases hl with
    | here => exact ⟨_, .here _, .inside hr⟩
    | @into first child _ _ below hm hl =>
      rw [List.mem_append, List.mem_cons] at hm
      obtain hm | hm | hm := hm
      · exact ⟨node, .into (List.mem_append_left _ hm) hl, .refl node⟩
      · cases hm
        obtain ⟨node', hl', hr'⟩ := ih hl
        exact ⟨node', .into (List.mem_append_right _ List.mem_cons_self) hl', hr'⟩
      · exact ⟨node, .into (List.mem_append_right _ (List.mem_cons_of_mem _ hm)) hl, .refl node⟩
  | trans _ _ ih ih' =>
    obtain ⟨node', hl', hr⟩ := ih hl
    obtain ⟨node'', hl'', hr'⟩ := ih' hl'
    exact ⟨node'', hl'', hr.trans hr'⟩

namespace Rearranged

lemma leads (h : t.Rearranged t') (hnode : ∀ entries, node ≠ folder entries)
    (hl : t.Leads names node) : t'.Leads names node := by
  obtain ⟨node', hl', hr⟩ := hl.rearranged h
  rwa [hr.eq_of_ne_folder hnode] at hl'

lemma tomlAt (h : t.Rearranged t') (hat : t.TomlAt names node) : t'.TomlAt names node := by
  refine ⟨h.leads (fun entries he => ?_) hat.leads, hat.isFolder, hat.extension⟩
  have hf := hat.isFolder
  rw [he] at hf
  cases hf

lemma unlistable (h : t.Rearranged t') (hu : t.Unlistable names cause) :
    t'.Unlistable names cause := by
  cases hu with
  | denied hl => exact .denied (h.leads (fun _ => nofun) hl)
  | notAFolder hf => exact .notAFolder (h.isFolder_eq.trans hf)

lemma listable (h : t.Rearranged t') (hl : t.Listable) : t'.Listable :=
  fun names cause hu => hl names cause (h.symm.unlistable hu)

lemma distinctNames (h : t.Rearranged t') (hn : t.DistinctNames) : t'.DistinctNames := by
  intro names entries' hl'
  obtain ⟨node, hl, hr⟩ := hl'.rearranged h.symm
  obtain ⟨entries, rfl, hp⟩ := hr.exists_entries rfl
  exact hp.nodup_iff.2 (hn names entries hl)

/-- The order of the entries of a folder makes no difference to the sorted list. -/
theorem sortedTomlFiles_eq (h : t.Rearranged t') (hl : t.Listable) (hn : t.DistinctNames) :
    t'.sortedTomlFiles = t.sortedTomlFiles := by
  obtain ⟨found, hfound, hi⟩ := sortedTomlFiles_of_listable hl hn
  obtain ⟨found', hfound', hi'⟩ :=
    sortedTomlFiles_of_listable (h.listable hl) (h.distinctNames hn)
  rw [hfound, hfound', hi.eq hi' fun names node => ⟨h.tomlAt, h.symm.tomlAt⟩]

end Rearranged

end Questline.FileTree
