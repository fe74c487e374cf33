import Mathlib.Data.Finset.Card
import Mathlib.Data.List.Induction
import Questline.Jump
import Questline.Proofs.Text.Keyword

/-!
Tables of aliases, for every list of entries. The labels of a table are those of the last entry of
each alias, and its canonical aliases those of the first entry of each label. If no alias is listed
twice and all denote themselves, the two directions agree: a label is named by every spelling of its
canonical alias.
-/

namespace Questline.AliasTable

/-- The label of an alias by the last entry that has the alias. -/
def LastFor (aliases : List (String × JumpLabel)) (word : String) (label : JumpLabel) : Prop :=
  ∃ before after, aliases = before ++ (word, label) :: after ∧ ∀ e ∈ after, e.1 ≠ word

def FirstFor (aliases : List (String × JumpLabel)) (label : JumpLabel) (word : String) : Prop :=
  ∃ before after, aliases = before ++ (word, label) :: after ∧ ∀ e ∈ before, e.2 ≠ label

variable {aliases : List (String × JumpLabel)} {word : String} {label : JumpLabel}

lemma FirstFor.mem (h : FirstFor aliases label word) : (word, label) ∈ aliases := by
  obtain ⟨before, after, rfl, -⟩ := h
  exact List.mem_append_right _ List.mem_cons_self

lemma lastFor_of_mem (hnodup : (aliases.map Prod.fst).Nodup) (h : (word, label) ∈ aliases) :
    LastFor aliases word label := by
  obtain ⟨before, after, rfl⟩ := List.append_of_mem h
  rw [List.map_append, List.map_cons, List.nodup_middle, List.nodup_cons] at hnodup
  refine ⟨before, after, rfl, ?_⟩
  rintro e he rfl
  exact hnodup.1 (List.mem_append_right _ (List.mem_map.2 ⟨e, he, rfl⟩))

/-! ### One more entry -/

lemma ofList_concat (aliases : List (String × JumpLabel)) (e : String × JumpLabel) :
    ofList (aliases ++ [e]) = (ofList aliases).add e.1 e.2 := List.foldl_concat ..

lemma getElem?_labels_add (t : AliasTable) (new : String) (label : JumpLabel) (word : String) :
    (t.add new label).labels[word]? = if new = word then some label else t.labels[word]? := by
  simp only [add, Std.ExtTreeMap.getElem?_insert, Std.compare_eq_iff_eq]

lemma canonical?_add (t : AliasTable) (word : String) (new label : JumpLabel) :
    (t.add word new).canonical? label =
      (t.canonical? label).or (if new = label then some word else none) := by
  simp only [add, eq_comm (a := label)]
  cases t.canonical? label <;> split <;> rfl

/-! ### The table -/

/-- Later entries replace earlier ones, so the labels are found from the end of the list. -/
lemma getElem?_labels (aliases : List (String × JumpLabel)) (word : String) :
    (ofList aliases).labels[word]? =
      (aliases.reverse.find? (·.1 = word)).map Prod.snd := by
  induction aliases using List.reverseRecOn with
  | nil => exact Std.ExtTreeMap.getElem?_empty
  | append_singleton aliases e ih =>
    rw [ofList_concat, getElem?_labels_add, List.reverse_concat, List.find?_cons, ih]
    by_cases h : e.1 = word <;> simp [h]

/-- Earlier entries stay, so the canonical aliases are found from the start of the list. -/
lemma canonical?_eq (aliases : List (String × JumpLabel)) (label : JumpLabel) :
    (ofList aliases).canonical? label = (aliases.find? (·.2 = label)).map Prod.fst := by
  induction aliases using List.reverseRecOn with
  | nil => rfl
  | append_singleton aliases e ih =>
    rw [ofList_concat, canonical?_add, ih, List.find?_append, List.find?_singleton, Option.map_or]
    by_cases h : e.2 = label <;> simp [h]

lemma getElem?_labels_eq_some_iff :
    (ofList aliases).labels[word]? = some label ↔ LastFor aliases word label := by
  simp only [getElem?_labels, Option.map_eq_some_iff, List.find?_eq_some_iff_append,
    decide_eq_true_iff]
  constructor
  · rintro ⟨⟨w, l⟩, ⟨rfl, after, before, h, hafter⟩, rfl⟩
    refine ⟨before.reverse, after.reverse, ?_, fun e he => ?_⟩
    · rw [← List.reverse_reverse aliases, h]
      simp
    · simpa using hafter e (List.mem_reverse.1 he)
  · rintro ⟨before, after, rfl, hafter⟩
    refine ⟨(word, label), ⟨rfl, after.reverse, before.reverse, by simp, fun e he => ?_⟩, rfl⟩
    simpa using hafter e (List.mem_reverse.1 he)

lemma getElem?_labels_eq_none_iff :
    (ofList aliases).labels[word]? = none ↔ ∀ e ∈ aliases, e.1 ≠ word := by
  simp [getElem?_labels, List.find?_eq_none]

lemma canonical?_eq_some_iff :
    (ofList aliases).canonical? label = some word ↔ FirstFor aliases label word := by
  simp only [canonical?_eq, Option.map_eq_some_iff, List.find?_eq_some_iff_append,
    decide_eq_true_iff]
  constructor
  · rintro ⟨⟨w, l⟩, ⟨rfl, before, after, h, hbefore⟩, rfl⟩
    exact ⟨before, after, h, fun e he => by simpa using hbefore e he⟩
  · rintro ⟨before, after, h, hbefore⟩
    exact ⟨(word, label), ⟨rfl, before, after, h, fun e he => by simpa using hbefore e he⟩, rfl⟩

lemma canonical?_eq_none_iff :
    (ofList aliases).canonical? label = none ↔ ∀ e ∈ aliases, e.2 ≠ label := by
  simp [canonical?_eq, List.find?_eq_none]

/-! ### Lookups -/

lemma resolve_of_lastFor {text : String} (htext : Text.Denotes text word)
    (h : LastFor aliases word label) : (ofList aliases).resolve text = label := by
  rw [resolve, Text.keyword_eq_iff.2 htext, getElem?_labels_eq_some_iff.2 h, Option.getD_some]

lemma resolve_of_forall_ne {text : String} (htext : Text.Denotes text word)
    (h : ∀ e ∈ aliases, e.1 ≠ word) : (ofList aliases).resolve text = .none := by
  rw [resolve, Text.keyword_eq_iff.2 htext, getElem?_labels_eq_none_iff.2 h, Option.getD_none]

/-- **Resolving**: the last entry of the alias that a text denotes gives the label. -/
theorem resolve_cases (aliases : List (String × JumpLabel)) (text : String) :
    ∃ word, Text.Denotes text word ∧
      (LastFor aliases word ((ofList aliases).resolve text) ∨
        (∀ e ∈ aliases, e.1 ≠ word) ∧ (ofList aliases).resolve text = .none) := by
  have htext := Text.denotes_keyword text
  refine ⟨_, htext, ?_⟩
  cases h : (ofList aliases).labels[Text.keyword text]? with
  | some label =>
    have hlast := getElem?_labels_eq_some_iff.1 h
    exact .inl (resolve_of_lastFor htext hlast ▸ hlast)
  | none =>
    have hne := getElem?_labels_eq_none_iff.1 h
    exact .inr ⟨hne, resolve_of_forall_ne htext hne⟩

/-- **Reversing**: the first entry of a label gives its canonical alias. -/
theorem canonical_cases (aliases : List (String × JumpLabel)) (label : JumpLabel) :
    FirstFor aliases label ((ofList aliases).canonical label) ∨
      (∀ e ∈ aliases, e.2 ≠ label) ∧ (ofList aliases).canonical label = "none" := by
  rw [canonical]
  cases h : (ofList aliases).canonical? label with
  | some word => exact .inl (canonical?_eq_some_iff.1 h)
  | none => exact .inr ⟨canonical?_eq_none_iff.1 h, rfl⟩

/-- The canonical alias of a listed label is listed with it. -/
lemma canonical_mem (h : label ∈ aliases.map Prod.snd) :
    ((ofList aliases).canonical label, label) ∈ aliases := by
  obtain ⟨e, he, rfl⟩ := List.mem_map.1 h
  rcases canonical_cases aliases e.2 with hfirst | ⟨hne, -⟩
  · exact hfirst.mem
  · exact absurd rfl (hne e he)

/-! ### Size -/

lemma mem_labels_iff : word ∈ (ofList aliases).labels ↔ word ∈ aliases.map Prod.fst := by
  rw [Std.ExtTreeMap.mem_iff_isSome_getElem?, Option.isSome_iff_ne_none, Ne,
    getElem?_labels_eq_none_iff]
  simp

/-- A table holds every alias once, however often it is listed. -/
lemma size_ofList (aliases : List (String × JumpLabel)) :
    (ofList aliases).size = (aliases.map Prod.fst).toFinset.card := by
  induction aliases using List.reverseRecOn with
  | nil => rfl
  | append_singleton aliases e ih =>
    have hsize : (ofList (aliases ++ [e])).size =
        if e.1 ∈ (ofList aliases).labels then (ofList aliases).size
        else (ofList aliases).size + 1 := by
      rw [ofList_concat]
      exact Std.ExtTreeMap.size_insert
    have hset : ((aliases ++ [e]).map Prod.fst).toFinset =
        insert e.1 (aliases.map Prod.fst).toFinset := by
      ext word
      simp
    rw [hsize, hset, ih]
    split
    · next h => rw [Finset.insert_eq_of_mem (List.mem_toFinset.2 (mem_labels_iff.1 h))]
    · next h =>
      rw [Finset.card_insert_of_notMem fun hmem => h (mem_labels_iff.2 (List.mem_toFinset.1 hmem))]

/-! ### Both directions -/

/-- **Alias tables**, for every list of entries: a text is resolved by the last entry of the alias
that it denotes, a label is named by its first entry, and every alias counts once. If no alias is
listed twice and all denote themselves, then every spelling of the canonical alias of a listed label
resolves to the label, and every alias to the label it is listed with. -/
theorem lookups_of_entries (aliases : List (String × JumpLabel)) :
    (∀ text, ∃ word, Text.Denotes text word ∧
      (LastFor aliases word ((ofList aliases).resolve text) ∨
        (∀ e ∈ aliases, e.1 ≠ word) ∧ (ofList aliases).resolve text = .none)) ∧
    (∀ label, FirstFor aliases label ((ofList aliases).canonical label) ∨
      (∀ e ∈ aliases, e.2 ≠ label) ∧ (ofList aliases).canonical label = "none") ∧
    (ofList aliases).size = (aliases.map Prod.fst).toFinset.card ∧
    ((aliases.map Prod.fst).Nodup → (∀ e ∈ aliases, Text.Denotes e.1 e.1) →
      (∀ label ∈ aliases.map Prod.snd, ∀ text,
        Text.Spells text ((ofList aliases).canonical label) →
          (ofList aliases).resolve text = label) ∧
      ∀ e ∈ aliases, (ofList aliases).resolve e.1 = e.2) := by
  refine ⟨resolve_cases aliases, canonical_cases aliases, size_ofList aliases,
    fun hnodup hself => ⟨fun label hlabel text htext => ?_, fun e he => ?_⟩⟩
  · have hmem := canonical_mem hlabel
    exact resolve_of_lastFor (htext.denotes (hself _ hmem)) (lastFor_of_mem hnodup hmem)
  · exact resolve_of_lastFor (hself e he) (lastFor_of_mem hnodup he)

/-- Here the first act has two aliases: the second one resolves in capitals and between blanks, and
so does the canonical one. -/
theorem lookups_of_entries_act_one :
    let aliases := [("act_one", JumpLabel.storyAct1), ("chapter_one", .storyAct1), ("home", .none)]
    (aliases.map Prod.fst).Nodup ∧ (∀ e ∈ aliases, Text.Denotes e.1 e.1) ∧
      Text.Spells "\u3000Act_ONE\n" ((ofList aliases).canonical .storyAct1) ∧
      (ofList aliases).resolve "\u3000Act_ONE\n" = .storyAct1 ∧
      (ofList aliases).resolve "chapter_one" = .storyAct1 := by
  intro aliases
  have hnodup : (aliases.map Prod.fst).Nodup := by decide
  have hself : ∀ e ∈ aliases, Text.Denotes e.1 e.1 := by decide
  have hspells : Text.Spells "\u3000Act_ONE\n" ((ofList aliases).canonical .storyAct1) :=
    ⟨['\u3000'], "Act_ONE".toList, ['\n'], by decide, by decide, by decide, by decide⟩
  obtain ⟨hcanonical, hlisted⟩ := (lookups_of_entries aliases).2.2.2 hnodup hself
  exact ⟨hnodup, hself, hspells, hcanonical _ (by decide) _ hspells,
    hlisted ("chapter_one", .storyAct1) (by decide)⟩

end Questline.AliasTable
