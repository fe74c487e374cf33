import Mathlib.Data.List.Induction
import Questline.Proofs.Text.Trimming
import Questline.Text.Decimal

/-!
The texts that stand for numbers, as a grammar: digits after at most one sign, with any blanks
around them. The reader takes these texts and no others, each for the number it stands for, and the
printer writes such a text.
-/

namespace Questline.Text.Decimal

/-! ### Digits -/

/-- The number that a run of digits stands for, the last digit being the lowest. -/
inductive Digits : List Char → Nat → Prop where
  | digit {c : Char} : c.isDigit = true → Digits [c] (c.toNat - '0'.toNat)
  | snoc {cs : List Char} {n : Nat} {c : Char} :
    Digits cs n → c.isDigit = true → Digits (cs ++ [c]) (10 * n + (c.toNat - '0'.toNat))

/-- The integer that a text stands for: a run of digits after at most one sign. -/
inductive Numeral : List Char → Int → Prop where
  | unsigned {cs : List Char} {n : Nat} : Digits cs n → Numeral cs n
  | plus {cs : List Char} {n : Nat} : Digits cs n → Numeral ('+' :: cs) n
  | minus {cs : List Char} {n : Nat} : Digits cs n → Numeral ('-' :: cs) (-n)

lemma Digits.isDigit_of_mem {cs : List Char} {n : Nat} (h : Digits cs n) :
    ∀ c ∈ cs, c.isDigit = true := by
  induction h with
  | digit hc => simpa using hc
  | snoc _ hc ih =>
    intro c' hc'
    rcases List.mem_append.1 hc' with hc' | hc'
    · exact ih c' hc'
    · rwa [List.mem_singleton.1 hc']

lemma Digits.ne_nil {cs : List Char} {n : Nat} (h : Digits cs n) : cs ≠ [] := by
  cases h <;> simp

lemma ofDigitChars_concat (cs : List Char) (c : Char) :
    Nat.ofDigitChars 10 (cs ++ [c]) 0 = 10 * Nat.ofDigitChars 10 cs 0 + (c.toNat - '0'.toNat) := by
  rw [Nat.ofDigitChars_append, Nat.ofDigitChars_cons, Nat.ofDigitChars_nil]

lemma ofDigitChars_singleton (c : Char) : Nat.ofDigitChars 10 [c] 0 = c.toNat - '0'.toNat :=
  Nat.zero_add _

lemma Digits.value {cs : List Char} {n : Nat} (h : Digits cs n) :
    Nat.ofDigitChars 10 cs 0 = n := by
  induction h with
  | digit hc => exact ofDigitChars_singleton _
  | snoc _ hc ih => rw [ofDigitChars_concat, ih]

lemma digits_of_isDigit {cs : List Char} (hne : cs ≠ []) (h : ∀ c ∈ cs, c.isDigit = true) :
    Digits cs (Nat.ofDigitChars 10 cs 0) := by
  induction cs using List.reverseRecOn with
  | nil => exact absurd rfl hne
  | append_singleton cs c ih =>
    have hc : c.isDigit = true := h c (by simp)
    by_cases hcs : cs = []
    · subst hcs
      rw [List.nil_append, ofDigitChars_singleton]
      exact .digit hc
    · rw [ofDigitChars_concat]
      exact .snoc (ih hcs fun c hc => h c (List.mem_append_left _ hc)) hc

lemma nat?_eq_some_iff {cs : List Char} {n : Nat} : nat? cs = some n ↔ Digits cs n := by
  rw [nat?]
  constructor
  · intro h
    split at h
    · next hcs =>
      cases h
      exact digits_of_isDigit hcs.1 (List.all_eq_true.1 hcs.2)
    · cases h
  · intro h
    rw [if_pos ⟨h.ne_nil, List.all_eq_true.2 h.isDigit_of_mem⟩, h.value]

/-! ### Signs -/

lemma Numeral.sign_or_digit {cs : List Char} {i : Int} (h : Numeral cs i) :
    ∀ c ∈ cs, c = '+' ∨ c = '-' ∨ c.isDigit = true := by
  intro c hc
  cases h with
  | unsigned hd => exact .inr (.inr (hd.isDigit_of_mem c hc))
  | plus hd =>
    rcases List.mem_cons.1 hc with rfl | hc
    · exact .inl rfl
    · exact .inr (.inr (hd.isDigit_of_mem c hc))
  | minus hd =>
    rcases List.mem_cons.1 hc with rfl | hc
    · exact .inr (.inl rfl)
    · exact .inr (.inr (hd.isDigit_of_mem c hc))

lemma splitSign_of_isDigit {c : Char} {cs : List Char} (h : c.isDigit = true) :
    splitSign (c :: cs) = (false, c :: cs) := by
  rw [splitSign.eq_def]
  split
  · next heq => cases heq; cases h
  · next heq => cases heq; cases h
  · rfl

lemma int?_eq (cs : List Char) : int? cs =
    (nat? (splitSign cs).2).map fun n : Nat => if (splitSign cs).1 then -(n : Int) else n := by
  rw [int?]
  obtain ⟨negative, digits⟩ := splitSign cs
  cases h : nat? digits <;> simp only [h] <;> rfl

/-- **Reading integers**: the reader takes the numerals, each for the integer it stands for. -/
lemma int?_eq_some_iff {cs : List Char} {i : Int} : int? cs = some i ↔ Numeral cs i := by
  rw [int?_eq, Option.map_eq_some_iff]
  simp only [nat?_eq_some_iff]
  constructor
  · rintro ⟨n, hn, rfl⟩
    rw [splitSign.eq_def] at hn ⊢
    split at hn
    · exact .minus hn
    · exact .plus hn
    · exact .unsigned hn
  · intro h
    cases h with
    | minus hd => exact ⟨_, hd, rfl⟩
    | plus hd => exact ⟨_, hd, rfl⟩
    | @unsigned _ n hd =>
      obtain ⟨c, ds, rfl⟩ := List.exists_cons_of_ne_nil hd.ne_nil
      rw [splitSign_of_isDigit (hd.isDigit_of_mem c List.mem_cons_self)]
      exact ⟨n, hd, rfl⟩

lemma isBlank_eq_false_of_isDigit {c : Char} (h : c.isDigit = true) : isBlank c = false := by
  have hrange : 48 ≤ c.toNat ∧ c.toNat ≤ 57 := by
    simpa [Char.isDigit, UInt32.le_iff_toNat_le] using h
  exact isBlank_eq_false_of_ascii (by omega) (by omega)

lemma Numeral.tight {cs : List Char} {i : Int} (h : Numeral cs i) : Tight cs := by
  have hsolid : ∀ c ∈ cs, isBlank c = false := by
    intro c hc
    rcases h.sign_or_digit c hc with rfl | rfl | hd
    · rfl
    · rfl
    · exact isBlank_eq_false_of_isDigit hd
  exact ⟨fun c hc => hsolid c (List.mem_of_mem_head? hc),
    fun c hc => hsolid c (List.mem_of_mem_getLast? hc)⟩

/-! ### Values -/

lemma ofInt?_eq_some_iff {i : Int} {v : Int32} : ofInt? i = some v ↔ v.toInt = i :=
  ⟨toInt_of_ofInt?, fun h => h ▸ ofInt?_toInt v⟩

lemma parse?_eq_some_iff {cs : List Char} {v : Int32} :
    parse? cs = some v ↔ Numeral cs v.toInt := by
  rw [parse?, Option.bind_eq_some_iff]
  simp only [int?_eq_some_iff, ofInt?_eq_some_iff, exists_eq_right']

/-- **Reading values**: with blanks taken off, the reader takes the texts that put blanks around a
numeral within the range of a value. -/
theorem parse?_trim_eq_some_iff {cs : List Char} {v : Int32} :
    parse? (trim cs) = some v ↔
      ∃ w d w', Blanks w ∧ Numeral d v.toInt ∧ Blanks w' ∧ cs = w ++ d ++ w' := by
  rw [parse?_eq_some_iff]
  constructor
  · intro h
    obtain ⟨-, w, w', hw, hw', hcs⟩ := trim_eq_iff.1 (rfl : trim cs = trim cs)
    exact ⟨w, trim cs, w', hw, h, hw', hcs⟩
  · rintro ⟨w, d, w', hw, hd, hw', hcs⟩
    rwa [trim_eq_iff.2 ⟨hd.tight, w, w', hw, hw', hcs⟩]

/-! ### Printing -/

lemma digits_toDigits (n : Nat) : Digits (Nat.toDigits 10 n) n := by
  have h := digits_of_isDigit (Nat.toDigits_ne_nil)
    (fun c (hc : c ∈ Nat.toDigits 10 n) => Nat.isDigit_of_mem_toDigits (by decide) (by decide) hc)
  rwa [Nat.ofDigitChars_toDigits (by decide) (by decide)] at h

lemma numeral_ofInt (i : Int) : Numeral (ofInt i) i := by
  have hd : Digits (Nat.toDigits 10 i.natAbs) i.natAbs := digits_toDigits _
  rw [ofInt]
  split
  · next hneg =>
    have h : Numeral ('-' :: Nat.toDigits 10 i.natAbs) (-(i.natAbs : Int)) := .minus hd
    rwa [show -(i.natAbs : Int) = i by omega] at h
  · next hpos =>
    have h : Numeral (Nat.toDigits 10 i.natAbs) (i.natAbs : Int) := .unsigned hd
    rwa [show (i.natAbs : Int) = i by omega] at h

lemma numeral_print (v : Int32) : Numeral (print v).toList v.toInt := by
  rw [print, String.toList_ofList]
  exact numeral_ofInt _

end Questline.Text.Decimal
