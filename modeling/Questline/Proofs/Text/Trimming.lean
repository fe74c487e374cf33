import Mathlib.Tactic.Lemma
import Questline.Text.Blank

/-!
Trimming as a statement on texts: what is left has no blank at either end, and what is taken off are
runs of blanks. No other text is left.
-/

namespace Questline.Text

/-- A run of blank characters, which may be empty. -/
def Blanks (cs : List Char) : Prop := ∀ c ∈ cs, isBlank c = true

structure Tight (cs : List Char) : Prop where
  head : ∀ c ∈ cs.head?, isBlank c = false
  last : ∀ c ∈ cs.getLast?, isBlank c = false

instance (cs : List Char) : Decidable (Blanks cs) := List.decidableBAll _ cs

lemma blanks_nil : Blanks [] := fun _ hc => absurd hc List.not_mem_nil

lemma blanks_reverse {cs : List Char} : Blanks cs.reverse ↔ Blanks cs := by
  simp only [Blanks, List.mem_reverse]

lemma isBlank_eq_false_of_ascii {c : Char} (hlo : 0x21 ≤ c.toNat) (hhi : c.toNat ≤ 0x7E) :
    isBlank c = false := by
  simp [isBlank]
  omega

/-! ### The start -/

lemma exists_blanks_trimStart (cs : List Char) : ∃ w, Blanks w ∧ cs = w ++ trimStart cs :=
  ⟨cs.takeWhile isBlank, fun c hc => List.all_eq_true.1 List.all_takeWhile c hc,
    List.takeWhile_append_dropWhile.symm⟩

lemma trimStart_append {w cs : List Char} (hw : Blanks w) : trimStart (w ++ cs) = trimStart cs :=
  List.dropWhile_append_of_pos hw

lemma trimStart_cons {c : Char} {cs : List Char} (h : isBlank c = false) :
    trimStart (c :: cs) = c :: cs :=
  List.dropWhile_cons_of_neg (Bool.eq_false_iff.1 h)

lemma isBlank_head_trimStart (cs : List Char) :
    ∀ c ∈ (trimStart cs).head?, isBlank c = false := by
  intro c hc
  have h := List.head?_dropWhile_not isBlank cs
  rw [Option.mem_def, trimStart] at hc
  rwa [hc] at h

lemma trimStart_of_head {cs : List Char} (h : ∀ c ∈ cs.head?, isBlank c = false) :
    trimStart cs = cs := by
  cases cs with
  | nil => rfl
  | cons c cs => exact trimStart_cons (h c rfl)

lemma trimStart_eq_iff {cs d : List Char} :
    trimStart cs = d ↔ (∀ c ∈ d.head?, isBlank c = false) ∧ ∃ w, Blanks w ∧ cs = w ++ d := by
  constructor
  · rintro rfl
    exact ⟨isBlank_head_trimStart cs, exists_blanks_trimStart cs⟩
  · rintro ⟨hd, w, hw, rfl⟩
    rw [trimStart_append hw, trimStart_of_head hd]

/-! ### The end -/

lemma trimEnd_eq_iff {cs d : List Char} :
    trimEnd cs = d ↔ (∀ c ∈ d.getLast?, isBlank c = false) ∧ ∃ w, Blanks w ∧ cs = d ++ w := by
  -- the end of a text is the start of its reverse
  have hreverse : trimEnd cs = d ↔ trimStart cs.reverse = d.reverse := by
    rw [trimEnd, ← trimStart, List.reverse_eq_iff]
  rw [hreverse, trimStart_eq_iff, List.head?_reverse]
  refine and_congr_right fun _ => ⟨?_, ?_⟩
  · rintro ⟨w, hw, hcs⟩
    refine ⟨w.reverse, blanks_reverse.2 hw, ?_⟩
    rw [← List.reverse_reverse cs, hcs, List.reverse_append, List.reverse_reverse]
  · rintro ⟨w, hw, rfl⟩
    exact ⟨w.reverse, blanks_reverse.2 hw, List.reverse_append⟩

/-! ### Both ends -/

/-- **Trimming** leaves the one text that has no blank at an end and that blanks around it complete
to the whole. -/
theorem trim_eq_iff {cs d : List Char} :
    trim cs = d ↔ Tight d ∧ ∃ w w', Blanks w ∧ Blanks w' ∧ cs = w ++ d ++ w' := by
  rw [trim, trimEnd_eq_iff]
  constructor
  · rintro ⟨hlast, w', hw', htrim⟩
    obtain ⟨w, hw, hcs⟩ := exists_blanks_trimStart cs
    refine ⟨⟨fun c hc => ?_, hlast⟩, w, w', hw, hw', ?_⟩
    · -- what is left begins like the text without its leading blanks
      refine isBlank_head_trimStart cs c ?_
      rw [htrim, Option.mem_def, List.head?_append, hc, Option.some_or]
    · rw [List.append_assoc, ← htrim]
      exact hcs
  · rintro ⟨hd, w, w', hw, hw', rfl⟩
    refine ⟨hd.last, ?_⟩
    cases d with
    | nil =>
      rw [List.append_nil, trimStart_append hw]
      obtain ⟨w₁, -, hw₁⟩ := exists_blanks_trimStart w'
      refine ⟨trimStart w', fun c hc => hw' c ?_, rfl⟩
      rw [hw₁]
      exact List.mem_append_right _ hc
    | cons c d =>
      refine ⟨w', hw', ?_⟩
      rw [List.append_assoc, trimStart_append hw, List.cons_append, trimStart_cons (hd.head c rfl)]

end Questline.Text
