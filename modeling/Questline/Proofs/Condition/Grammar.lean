import Questline.Condition
import Questline.Proofs.Text.Numeral

/-!
The grammar of conditions: the symbol of an operator and a numeral, with any blanks before, between
and after them. The reader takes the texts of this grammar and no others. It faults every other text
for the missing operator, or for what follows the longest symbol at its head.
-/

namespace Questline

open Text (Blanks trimStart)
open Text.Decimal (Numeral)

/-! ### Operators -/

namespace Operator

/-- An operator leads a text: of all symbols with which the text begins, its own is the longest. -/
structure Leads (op : Operator) (cs rest : List Char) : Prop where
  split : cs = op.symbol.toList ++ rest
  longest : ∀ op' : Operator, op'.symbol.toList <+: cs → op'.symbol.length ≤ op.symbol.length

/-- A symbol is one character, or two of which the second is an equals sign. -/
lemma symbol_cases (op : Operator) :
    ∃ c, op.symbol.toList = [c] ∧ op.symbol.length = 1 ∨
      op.symbol.toList = [c, '='] ∧ op.symbol.length = 2 := by
  cases op with
  | eq => exact ⟨'=', .inr ⟨rfl, rfl⟩⟩
  | ne => exact ⟨'!', .inr ⟨rfl, rfl⟩⟩
  | ge => exact ⟨'>', .inr ⟨rfl, rfl⟩⟩
  | le => exact ⟨'<', .inr ⟨rfl, rfl⟩⟩
  | gt => exact ⟨'>', .inl ⟨rfl, rfl⟩⟩
  | lt => exact ⟨'<', .inl ⟨rfl, rfl⟩⟩

/-- A symbol leads what follows it, unless an equals sign makes it a longer symbol. -/
lemma leads_append (op : Operator) {rest : List Char}
    (h : op.symbol.length = 2 ∨ rest.head? ≠ some '=') :
    op.Leads (op.symbol.toList ++ rest) rest where
  split := rfl
  longest op' hprefix := by
    obtain ⟨c, ⟨hop, hlen⟩ | ⟨-, hlen⟩⟩ := op.symbol_cases
    · obtain ⟨c', ⟨-, hlen'⟩ | ⟨hop', -⟩⟩ := op'.symbol_cases
      · omega
      · -- the longer symbol goes on with an equals sign
        rw [hop, hop', List.singleton_append, List.cons_prefix_cons] at hprefix
        obtain ⟨r, rfl⟩ := hprefix.2
        exact absurd rfl (h.resolve_left (by omega))
    · obtain ⟨c', ⟨-, hlen'⟩ | ⟨-, hlen'⟩⟩ := op'.symbol_cases <;> omega

lemma exists_leads {op : Operator} {cs : List Char} (h : op.symbol.toList <+: cs) :
    ∃ op' rest, Leads op' cs rest := by
  obtain ⟨rest, rfl⟩ := h
  by_cases hhead : rest.head? = some '='
  · obtain ⟨r, rfl⟩ := List.head?_eq_some_iff.1 hhead
    cases op with
    | eq => exact ⟨eq, _, leads_append eq (.inl rfl)⟩
    | ne => exact ⟨ne, _, leads_append ne (.inl rfl)⟩
    | ge => exact ⟨ge, _, leads_append ge (.inl rfl)⟩
    | le => exact ⟨le, _, leads_append le (.inl rfl)⟩
    | gt => exact ⟨ge, r, leads_append ge (.inl rfl)⟩
    | lt => exact ⟨le, r, leads_append le (.inl rfl)⟩
  · exact ⟨op, rest, leads_append op (.inr hhead)⟩

/-- **Scanning**: the operator that is found is the one that leads the text. -/
lemma scan?_eq_some_iff {cs rest : List Char} {op : Operator} :
    scan? cs = some (op, rest) ↔ op.Leads cs rest := by
  constructor
  · intro h
    rw [scan?.eq_def] at h
    split at h <;> cases h
    · exact leads_append eq (.inl rfl)
    · exact leads_append ne (.inl rfl)
    · exact leads_append ge (.inl rfl)
    · exact leads_append le (.inl rfl)
    · next hne =>
      refine leads_append gt (.inr fun hhead => ?_)
      obtain ⟨r, hr⟩ := List.head?_eq_some_iff.1 hhead
      exact hne r hr
    · next hne =>
      refine leads_append lt (.inr fun hhead => ?_)
      obtain ⟨r, hr⟩ := List.head?_eq_some_iff.1 hhead
      exact hne r hr
  · rintro ⟨rfl, hlongest⟩
    cases op with
    | eq | ne | ge | le => rfl
    | gt =>
      have hne : ∀ r, rest = '=' :: r → False := by
        rintro r rfl
        exact absurd (hlongest ge (List.prefix_append _ r)) (by decide)
      exact scan?.eq_5 rest hne
    | lt =>
      have hne : ∀ r, rest = '=' :: r → False := by
        rintro r rfl
        exact absurd (hlongest le (List.prefix_append _ r)) (by decide)
      exact scan?.eq_6 rest hne

lemma scan?_eq_none_iff {cs : List Char} :
    scan? cs = none ↔ ∀ op : Operator, ¬ op.symbol.toList <+: cs := by
  constructor
  · intro h op hprefix
    obtain ⟨op', rest, hleads⟩ := exists_leads hprefix
    rw [scan?_eq_some_iff.2 hleads] at h
    cases h
  · intro h
    cases hscan : scan? cs with
    | none => rfl
    | some found =>
      obtain ⟨op, rest⟩ := found
      have hleads : op.Leads cs rest := scan?_eq_some_iff.1 hscan
      exact absurd ⟨rest, hleads.split.symm⟩ (h op)

lemma split?_eq_some_iff {token rest : String} {op : Operator} :
    split? token = some (op, rest) ↔ op.Leads (trimStart token.toList) rest.toList := by
  rw [split?, ← scan?_eq_some_iff, Option.map_eq_some_iff]
  constructor
  · rintro ⟨⟨op', cs⟩, hscan, heq⟩
    cases heq
    rwa [String.toList_ofList]
  · intro h
    exact ⟨_, h, congrArg (Prod.mk op) String.ofList_toList⟩

lemma split?_eq_none_iff {token : String} :
    split? token = none ↔ ∀ op : Operator, ¬ op.symbol.toList <+: trimStart token.toList := by
  rw [split?, Option.map_eq_none_iff, scan?_eq_none_iff]

lemma trimStart_symbol_append (op : Operator) (cs : List Char) :
    trimStart (op.symbol.toList ++ cs) = op.symbol.toList ++ cs := by
  cases op <;> exact Text.trimStart_cons rfl

end Operator

/-! ### Comparisons -/

namespace Comparison

/-- A text spells a comparison: it is the symbol of the operator and a numeral for the operand, with
any blanks before, between and after them. -/
def Spelled (c : Comparison) (cs : List Char) : Prop :=
  ∃ w₁ w₂ d w₃, Blanks w₁ ∧ Blanks w₂ ∧ Blanks w₃ ∧ Numeral d c.operand.toInt ∧
    cs = w₁ ++ c.op.symbol.toList ++ w₂ ++ d ++ w₃

/-- What stands after the symbol: a numeral for the operand with any blanks around it. -/
def Operand (c : Comparison) (rest : List Char) : Prop :=
  ∃ w d w', Blanks w ∧ Numeral d c.operand.toInt ∧ Blanks w' ∧ rest = w ++ d ++ w'

variable {c : Comparison}

/-- No equals sign stands before a numeral, so none makes the symbol a longer one. -/
lemma Operand.head?_ne {rest : List Char} (h : c.Operand rest) : rest.head? ≠ some '=' := by
  obtain ⟨w, d, w', hw, hd, hw', rfl⟩ := h
  intro hhead
  have hmem : '=' ∈ w ++ d ++ w' := List.mem_of_mem_head? hhead
  rcases List.mem_append.1 hmem with hmem | hmem
  · rcases List.mem_append.1 hmem with hmem | hmem
    · exact absurd (hw _ hmem) (by decide)
    · exact absurd (hd.sign_or_digit _ hmem) (by decide)
  · exact absurd (hw' _ hmem) (by decide)

lemma spelled_iff {cs : List Char} :
    c.Spelled cs ↔ ∃ rest, c.op.Leads (trimStart cs) rest ∧ c.Operand rest := by
  constructor
  · rintro ⟨w₁, w₂, d, w₃, hw₁, hw₂, hw₃, hd, rfl⟩
    have hrest : c.Operand (w₂ ++ d ++ w₃) := ⟨w₂, d, w₃, hw₂, hd, hw₃, rfl⟩
    have htrim : trimStart (w₁ ++ c.op.symbol.toList ++ w₂ ++ d ++ w₃) =
        c.op.symbol.toList ++ (w₂ ++ d ++ w₃) := by
      simp only [List.append_assoc, Text.trimStart_append hw₁, Operator.trimStart_symbol_append]
    rw [htrim]
    exact ⟨_, Operator.leads_append _ (.inr hrest.head?_ne), hrest⟩
  · rintro ⟨rest, hleads, w₂, d, w₃, hw₂, hd, hw₃, rfl⟩
    obtain ⟨w₁, hw₁, hcs⟩ := Text.exists_blanks_trimStart cs
    refine ⟨w₁, w₂, d, w₃, hw₁, hw₂, hw₃, hd, ?_⟩
    rw [hcs, hleads.split]
    simp only [List.append_assoc]

/-- **What is accepted**: a text is read as the comparison that it spells. -/
lemma parse_eq_ok_iff {t : String} : parse t = .ok c ↔ c.Spelled t.toList := by
  have hread : parse t = .ok c ↔ ∃ rest : String, Operator.split? t = some (c.op, rest) ∧
      Text.Decimal.parse? (Text.trim rest.toList) = some c.operand := by
    obtain ⟨op', n'⟩ := c
    rw [parse]
    cases hsplit : Operator.split? t with
    | none => simp
    | some found =>
      obtain ⟨op, rest⟩ := found
      cases hn : Text.Decimal.parse? (Text.trim rest.toList) with
      | none => simp [hn]
      | some n => simp [hn]
  rw [hread, spelled_iff]
  simp only [Operator.split?_eq_some_iff, Text.Decimal.parse?_trim_eq_some_iff]
  constructor
  · rintro ⟨rest, hleads, hoperand⟩
    exact ⟨rest.toList, hleads, hoperand⟩
  · rintro ⟨rest, hleads, hoperand⟩
    rw [← String.toList_ofList (l := rest)] at hleads hoperand
    exact ⟨String.ofList rest, hleads, hoperand⟩

lemma Spelled.unique {c' : Comparison} {cs : List Char} (h : c.Spelled cs) (h' : c'.Spelled cs) :
    c = c' := by
  rw [← String.toList_ofList (l := cs), ← parse_eq_ok_iff] at h h'
  exact Except.ok.inj (h.symm.trans h')

lemma parse_eq_unknownOperator_iff {t text : String} :
    parse t = .error (.unknownOperator text) ↔
      text = t ∧ ∀ op : Operator, ¬ op.symbol.toList <+: trimStart t.toList := by
  rw [← Operator.split?_eq_none_iff, parse]
  cases hsplit : Operator.split? t with
  | none => simp [eq_comm]
  | some found =>
    obtain ⟨op, rest⟩ := found
    cases hn : Text.Decimal.parse? (Text.trim rest.toList) <;> simp [hn]

lemma parse_eq_badOperand_iff {t rest : String} {op : Operator} :
    parse t = .error (.badOperand op rest) ↔
      op.Leads (trimStart t.toList) rest.toList ∧ ∀ c : Comparison, ¬ c.Spelled t.toList := by
  simp only [← Operator.split?_eq_some_iff, ← parse_eq_ok_iff]
  rw [parse]
  cases hsplit : Operator.split? t with
  | none => simp
  | some found =>
    obtain ⟨op', rest'⟩ := found
    cases hn : Text.Decimal.parse? (Text.trim rest'.toList) <;> simp [hn]

/-- **The grammar of conditions**: a text is read as a comparison exactly if it spells it, and it
spells one at most. If no symbol stands at its head, leading blanks aside, then the operator is
missing. In all other cases the operand is bad: it is all that follows the longest symbol there. -/
theorem parse_by_grammar (t : String) :
    (∀ c, parse t = .ok c ↔ c.Spelled t.toList) ∧
    (∀ c c' : Comparison, c.Spelled t.toList → c'.Spelled t.toList → c = c') ∧
    (∀ text, parse t = .error (.unknownOperator text) ↔
      text = t ∧ ∀ op : Operator, ¬ op.symbol.toList <+: trimStart t.toList) ∧
    ∀ op rest, parse t = .error (.badOperand op rest) ↔
      op.Leads (trimStart t.toList) rest.toList ∧ ∀ c : Comparison, ¬ c.Spelled t.toList :=
  ⟨fun _ => parse_eq_ok_iff, fun _ _ h h' => h.unique h', fun _ => parse_eq_unknownOperator_iff,
    fun _ _ => parse_eq_badOperand_iff⟩

/-- A comparison with wide blanks, a sign and leading zeros is read; an equals sign alone is no
operator, and one more after `>=` belongs to the operand. -/
theorem parse_by_grammar_ge :
    let c : Comparison := ⟨.ge, 7⟩
    let t := "\u2003>= +007\u00a0"
    parse t = .ok c ∧ (∀ c' : Comparison, c'.Spelled t.toList → c' = c) ∧
      parse "=5" = .error (.unknownOperator "=5") ∧
      parse " >==1" = .error (.badOperand .ge "=1") ∧
      ∀ c : Comparison, ¬ c.Spelled " >==1".toList := by
  intro c t
  have hc : c.Spelled t.toList :=
    ⟨['\u2003'], [' '], "+007".toList, ['\u00a0'], by decide, by decide, by decide,
      Text.Decimal.int?_eq_some_iff.1 (by decide), by decide⟩
  obtain ⟨hok, hunique, -, -⟩ := parse_by_grammar t
  obtain ⟨-, -, hunknown, -⟩ := parse_by_grammar "=5"
  obtain ⟨-, -, -, hbad⟩ := parse_by_grammar " >==1"
  have h : parse " >==1" = .error (.badOperand .ge "=1") := by decide
  refine ⟨(hok c).2 hc, fun c' hc' => hunique c' c hc' hc, ?_, h, ((hbad _ _).1 h).2⟩
  exact (hunknown "=5").2 ⟨rfl, fun op => by cases op <;> decide⟩

end Comparison

end Questline
