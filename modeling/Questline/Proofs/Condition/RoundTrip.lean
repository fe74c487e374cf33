import Questline.Proofs.Condition.Grammar

/-!
Conditions written and read back. What is printed for a comparison spells it, so it is read as that
comparison again, also with blanks put in; the printed form stands for all texts that are read
alike.
-/

namespace Questline.Comparison

open Text (Blanks)

variable {c c' : Comparison}

lemma spelled_print_with (c : Comparison) {w₁ w₂ w₃ : String} (hw₁ : Blanks w₁.toList)
    (hw₂ : Blanks w₂.toList) (hw₃ : Blanks w₃.toList) :
    c.Spelled (w₁ ++ c.op.symbol ++ w₂ ++ Text.Decimal.print c.operand ++ w₃).toList := by
  refine ⟨w₁.toList, w₂.toList, (Text.Decimal.print c.operand).toList, w₃.toList, hw₁, hw₂, hw₃,
    Text.Decimal.numeral_print _, ?_⟩
  simp only [String.toList_append]

lemma spelled_print (c : Comparison) : c.Spelled c.print.toList := by
  have h : c.Spelled ("" ++ c.op.symbol ++ "" ++ Text.Decimal.print c.operand ++ "").toList :=
    spelled_print_with c Text.blanks_nil Text.blanks_nil Text.blanks_nil
  rwa [String.empty_append, String.append_empty, String.append_empty] at h

lemma parse_print (c : Comparison) : parse c.print = .ok c := parse_eq_ok_iff.2 (spelled_print c)

lemma print_inj : c.print = c'.print ↔ c = c' := by
  constructor
  · intro h
    have hc : parse c'.print = .ok c := h ▸ parse_print c
    exact Except.ok.inj (hc.symm.trans (parse_print c'))
  · rintro rfl
    rfl

/-- **Printing and reading**: what is printed for a comparison is read as that comparison, also with
blanks before the operator, before the operand and at the end. So a text that is read and the
printed form of what it says are read alike, and two such texts have one printed form exactly if
they say the same. -/
theorem parse_inverts_print :
    (∀ (c : Comparison) (w₁ w₂ w₃ : String),
      Blanks w₁.toList → Blanks w₂.toList → Blanks w₃.toList →
      parse (w₁ ++ c.op.symbol ++ w₂ ++ Text.Decimal.print c.operand ++ w₃) = .ok c) ∧
    (∀ c : Comparison, parse c.print = .ok c) ∧
    (∀ t c, parse t = .ok c → parse c.print = parse t) ∧
    ∀ t t' c c', parse t = .ok c → parse t' = .ok c' →
      (c.print = c'.print ↔ c.op = c'.op ∧ c.operand = c'.operand) := by
  refine ⟨fun c w₁ w₂ w₃ hw₁ hw₂ hw₃ => parse_eq_ok_iff.2 (spelled_print_with c hw₁ hw₂ hw₃),
    parse_print, fun t c h => (parse_print c).trans h.symm, fun t t' c c' _ _ => ?_⟩
  rw [print_inj]
  constructor
  · rintro rfl
    exact ⟨rfl, rfl⟩
  · obtain ⟨op, operand⟩ := c
    rintro ⟨rfl, rfl⟩
    rfl

/-- The least operand, whose sign follows a symbol of one character or of two. -/
theorem parse_inverts_print_least :
    let c : Comparison := ⟨.lt, -2147483648⟩
    let d : Comparison := ⟨.le, -2147483648⟩
    let t := "\u2009< -2147483648\n"
    let t' := " <=\t-0002147483648\u3000"
    parse t = .ok c ∧ parse t' = .ok d ∧ parse d.print = parse t' ∧ c.print ≠ d.print := by
  intro c d t t'
  obtain ⟨hblanks, -, hagain, hsame⟩ := parse_inverts_print
  have htext : "\u2009" ++ c.op.symbol ++ " " ++ Text.Decimal.print c.operand ++ "\n" = t := by
    decide +kernel
  have ht : parse t = .ok c :=
    htext ▸ hblanks c "\u2009" " " "\n" (by decide) (by decide) (by decide)
  have ht' : parse t' = .ok d := by decide +kernel
  refine ⟨ht, ht', hagain t' d ht', fun h => ?_⟩
  exact absurd ((hsame t t' c d ht ht').1 h).1 (by decide)

end Questline.Comparison
