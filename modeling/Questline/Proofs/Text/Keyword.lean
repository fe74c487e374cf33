import Mathlib.Data.List.Forall2
import Questline.Proofs.Text.Trimming
import Questline.Text.Keyword

/-!
Keywords as a statement on texts. A text denotes a word if blanks around it, with capitals for some
letters of the word, are all that tells it from the word. Every text denotes one word, and the words
that denote themselves are denoted by all their spellings.
-/

namespace Questline.Text

/-- A text denotes a word: between the blanks around it stands the word, before its capitals are
lowered. -/
def Denotes (text word : String) : Prop :=
  ∃ w core w', text.toList = w ++ core ++ w' ∧ Blanks w ∧ Tight core ∧ Blanks w' ∧
    word.toList = core.map Char.toLower

/-- Texts with the same characters up to the case of ASCII letters. -/
def CaseVariant : List Char → List Char → Prop :=
  List.Forall₂ fun c d => c = d ∨ c = d.toUpper ∨ c = d.toLower

instance (cs ds : List Char) : Decidable (CaseVariant cs ds) :=
  inferInstanceAs (Decidable (List.Forall₂ _ cs ds))

/-- A text spells a word: any blanks around the word, its letters in any case. -/
def Spells (text word : String) : Prop :=
  ∃ w core w', text.toList = w ++ core ++ w' ∧ Blanks w ∧ CaseVariant core word.toList ∧ Blanks w'

/-! ### Case -/

lemma toNat_toLower (c : Char) :
    c.toLower.toNat = if 65 ≤ c.toNat ∧ c.toNat ≤ 90 then c.toNat + 32 else c.toNat := by
  delta Char.toLower
  simp only [ge_iff_le, UInt32.le_iff_toNat_le]
  change (if h : 65 ≤ c.toNat ∧ c.toNat ≤ 90 then _ else c).toNat = _
  split
  · next h =>
    rw [← Char.toNat_val]
    simp only [Char.reduceVal, UInt32.reduceSub, UInt32.toNat_add, UInt32.reduceToNat,
      Char.toNat_val]
    omega
  · rfl

lemma toNat_toUpper (c : Char) :
    c.toUpper.toNat = if 97 ≤ c.toNat ∧ c.toNat ≤ 122 then c.toNat - 32 else c.toNat := by
  delta Char.toUpper
  simp only [UInt32.le_iff_toNat_le]
  change (if h : 97 ≤ c.toNat ∧ c.toNat ≤ 122 then _ else c).toNat = _
  split
  · next h =>
    rw [← Char.toNat_val]
    simp only [Char.reduceVal, UInt32.reduceSub, UInt32.toNat_add, UInt32.reduceToNat,
      Char.toNat_val]
    omega
  · rfl

lemma toLower_toLower (c : Char) : c.toLower.toLower = c.toLower := by
  refine Char.toNat_inj.1 ?_
  simp only [toNat_toLower]
  split_ifs <;> omega

lemma toLower_toUpper (c : Char) : c.toUpper.toLower = c.toLower := by
  refine Char.toNat_inj.1 ?_
  simp only [toNat_toLower, toNat_toUpper]
  split_ifs <;> omega

/-- Lowering changes letters only, and a letter is blank in neither case. -/
lemma isBlank_toLower (c : Char) : isBlank c.toLower = isBlank c := by
  have hlower := toNat_toLower c
  split_ifs at hlower with h
  · rw [isBlank_eq_false_of_ascii (c := c) (by omega) (by omega),
      isBlank_eq_false_of_ascii (by omega) (by omega)]
  · rw [Char.toNat_inj.1 hlower]

lemma tight_map_toLower {cs : List Char} : Tight (cs.map Char.toLower) ↔ Tight cs := by
  have hend : ∀ o : Option Char,
      (∀ c ∈ o.map Char.toLower, isBlank c = false) ↔ ∀ c ∈ o, isBlank c = false := by
    rintro (_ | c) <;> simp [isBlank_toLower]
  constructor
  · rintro ⟨hhead, hlast⟩
    rw [List.head?_map, hend] at hhead
    rw [List.getLast?_map, hend] at hlast
    exact ⟨hhead, hlast⟩
  · rintro ⟨hhead, hlast⟩
    refine ⟨?_, ?_⟩
    · rwa [List.head?_map, hend]
    · rwa [List.getLast?_map, hend]

lemma CaseVariant.map_toLower {cs ds : List Char} (h : CaseVariant cs ds) :
    cs.map Char.toLower = ds.map Char.toLower := by
  induction h with
  | nil => rfl
  | cons hcd _ ih =>
    rw [List.map_cons, List.map_cons, ih]
    rcases hcd with rfl | rfl | rfl
    · rfl
    · rw [toLower_toUpper]
    · rw [toLower_toLower]

/-! ### Words -/

/-- **Keywords**: the keyword of a text is the word that it denotes. -/
theorem keyword_eq_iff {text word : String} : keyword text = word ↔ Denotes text word := by
  rw [← String.toList_inj, toList_keyword]
  constructor
  · intro h
    obtain ⟨htight, w, w', hw, hw', htext⟩ := trim_eq_iff.1 (rfl : trim text.toList = _)
    exact ⟨w, trim text.toList, w', htext, hw, htight, hw', h.symm⟩
  · rintro ⟨w, core, w', htext, hw, htight, hw', hword⟩
    rw [trim_eq_iff.2 ⟨htight, w, w', hw, hw', htext⟩, hword]

lemma denotes_keyword (text : String) : Denotes text (keyword text) := keyword_eq_iff.1 rfl

instance (text word : String) : Decidable (Denotes text word) :=
  decidable_of_iff _ keyword_eq_iff

/-- The words that denote themselves. -/
lemma denotes_self_iff {word : String} :
    Denotes word word ↔ Tight word.toList ∧ word.toList.map Char.toLower = word.toList := by
  constructor
  · rintro ⟨w, core, w', htext, -, htight, -, hword⟩
    -- lowering keeps the length, so nothing stands around the core
    have hlength : (core.map Char.toLower).length = (w ++ core ++ w').length := by
      rw [← hword, htext]
    simp only [List.length_map, List.length_append] at hlength
    have hw : w = [] := List.length_eq_zero_iff.1 (by omega)
    have hw' : w' = [] := List.length_eq_zero_iff.1 (by omega)
    have hcore : word.toList = core := by rw [htext, hw, hw', List.nil_append, List.append_nil]
    rw [hcore] at hword ⊢
    exact ⟨htight, hword.symm⟩
  · rintro ⟨htight, hlower⟩
    exact ⟨[], word.toList, [], (List.append_nil _).symm, blanks_nil, htight, blanks_nil,
      hlower.symm⟩

/-- **Spellings**: a word that denotes itself is denoted by whatever spells it. -/
theorem Spells.denotes {text word : String} (h : Spells text word) (hself : Denotes word word) :
    Denotes text word := by
  obtain ⟨htight, hlower⟩ := denotes_self_iff.1 hself
  obtain ⟨w, core, w', htext, hw, hcore, hw'⟩ := h
  have hword : core.map Char.toLower = word.toList := hcore.map_toLower.trans hlower
  exact ⟨w, core, w', htext, hw, tight_map_toLower.1 (hword ▸ htight), hw', hword.symm⟩

end Questline.Text
