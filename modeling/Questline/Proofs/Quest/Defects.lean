import Questline.Proofs.Quest.Requirements

/-!
Which stated quests are accepted, and what the others are rejected for. A quest is accepted if it
has an id that is not blank, a known type, and requirements whose conditions all parse; it is then
what was stated, requirement by requirement. Any other is rejected for its first defect, in that
order, and nothing that follows counts.
-/

namespace Questline

def StatedRequirement.Parses (r : StatedRequirement) : Prop :=
  ∃ test, Comparison.parse r.condition = .ok test

/-- The requirement at a position, from 0, is the first one that does not parse, for a cause. -/
def FirstBad (rs : List StatedRequirement) (i : Nat) (cause : ConditionError) : Prop :=
  (∃ r, rs[i]? = some r ∧ Comparison.parse r.condition = .error cause) ∧
    ∀ r ∈ rs.take i, r.Parses

namespace StatedQuest

def Named (s : StatedQuest) : Prop := ∃ c ∈ s.id.toList, Text.isBlank c = false

def Typed (s : StatedQuest) : Prop := ∃ type, QuestType.parse? s.type = some type

structure WellFormed (s : StatedQuest) : Prop where
  named : s.Named
  typed : s.Typed
  parses : ∀ r ∈ s.requires, r.Parses

/-- A defect of a quest that no other comes before, and its wording. A blank id comes before the
type and the type before the requirements, of which the first bad one counts, from 0. -/
inductive FirstDefect (s : StatedQuest) : Defect → String → Prop
  | blankId (hid : ¬ s.Named) :
      FirstDefect s (.blankQuestId s.name) ("quest '" ++ s.name ++ "' has an empty id")
  | unknownType (hid : s.Named) (htype : ¬ s.Typed) :
      FirstDefect s (.unknownQuestType s.id s.type)
        ("quest '" ++ s.id ++ "' has unknown type '" ++ s.type ++ "'")
  | badRequirement (hid : s.Named) (htype : s.Typed) {i : Nat} {cause : ConditionError}
      (hbad : FirstBad s.requires i cause) :
      FirstDefect s (.badRequirement s.id i cause)
        ("quest '" ++ s.id ++ "' requirement " ++ toString i ++ ": " ++ cause.message)

variable {s : StatedQuest}

lemma named_iff : s.Named ↔ ¬ s.id.toList.all Text.isBlank := by
  simp [Named]

lemma not_typed_iff : ¬ s.Typed ↔ QuestType.parse? s.type = none := by
  rw [Typed, Option.eq_none_iff_forall_ne_some, not_exists]

end StatedQuest

/-- A definition has what a quest states: all its texts as they are, the type that it names, and one
requirement for each that it states, in order. -/
structure QuestDefinition.Resolves (q : QuestDefinition) (s : StatedQuest) : Prop where
  id : q.id = s.id
  name : q.name = s.name
  description : q.description = s.description
  giver : q.giver = s.giver
  type : QuestType.parse? s.type = some q.type
  priority : q.priority = s.priority
  previous : q.previous = s.chain.bind QuestChain.previous
  requirements : List.Forall₂ StatedRequirement.Means s.requires q.requirements

/-! ### The first bad requirement -/

section FirstBad

variable {r : StatedRequirement} {rs : List StatedRequirement} {i : Nat} {cause c : ConditionError}

lemma firstBad_cons_of_error (hr : Comparison.parse r.condition = .error c) :
    FirstBad (r :: rs) i cause ↔ i = 0 ∧ cause = c := by
  cases i with
  | zero => simp [FirstBad, hr, eq_comm]
  | succ i => simp [FirstBad, StatedRequirement.Parses, hr]

lemma firstBad_cons_of_ok {test : Comparison} (hr : Comparison.parse r.condition = .ok test) :
    FirstBad (r :: rs) i cause ↔ ∃ j, i = j + 1 ∧ FirstBad rs j cause := by
  cases i with
  | zero => simp [FirstBad, hr]
  | succ i => simp [FirstBad, StatedRequirement.Parses, hr]

end FirstBad

namespace QuestDefinition

lemma requirementsOf_eq_error_iff (id : String) (k : Nat) {rs : List StatedRequirement}
    {d : Defect} : requirementsOf id k rs = .error d ↔
      ∃ i cause, FirstBad rs i cause ∧ d = .badRequirement id (k + i) cause := by
  induction rs generalizing k with
  | nil => simp [requirementsOf, FirstBad]
  | cons r rs ih =>
    rw [requirementsOf]
    cases hr : Comparison.parse r.condition with
    | error cause =>
      simp only [firstBad_cons_of_error hr]
      constructor
      · intro h
        cases h
        exact ⟨0, cause, ⟨rfl, rfl⟩, rfl⟩
      · rintro ⟨i, cause', ⟨rfl, rfl⟩, rfl⟩
        rfl
    | ok test =>
      have hrest : (requirementsOf id (k + 1) rs).map (⟨r.flag, test⟩ :: ·) = .error d ↔
          requirementsOf id (k + 1) rs = .error d := by
        cases requirementsOf id (k + 1) rs <;> simp [Except.map]
      simp only [hrest, ih, firstBad_cons_of_ok hr]
      constructor
      · rintro ⟨i, cause, hbad, rfl⟩
        exact ⟨i + 1, cause, ⟨i, rfl, hbad⟩, by rw [Nat.add_assoc, Nat.add_comm 1]⟩
      · rintro ⟨_, cause, ⟨i, rfl, hbad⟩, rfl⟩
        exact ⟨i, cause, hbad, by rw [Nat.add_assoc, Nat.add_comm 1]⟩

/-- **Acceptance**: what is accepted is what is well formed. -/
theorem exists_ofStated_iff {s : StatedQuest} :
    (∃ q, ofStated s = .ok q) ↔ s.WellFormed := by
  constructor
  · rintro ⟨q, hq⟩
    obtain ⟨hid, type, rs, htype, -, -⟩ := ofStated_eq_ok_iff.1 hq
    exact ⟨StatedQuest.named_iff.2 hid, ⟨type, htype⟩, fun r hr => exists_parse_of_eq_ok hq hr⟩
  · rintro ⟨hnamed, ⟨type, htype⟩, hparses⟩
    obtain ⟨rs, hrs⟩ := exists_requirementsOf s.id 0 hparses
    have hmeans := (requirementsOf_eq_ok_iff s.id 0).1 hrs
    exact ⟨s.definition type rs,
      ofStated_eq_ok_iff.2 ⟨StatedQuest.named_iff.1 hnamed, type, rs, htype, hmeans, rfl⟩⟩

/-- **Transfer**: the definition is the one that has what the quest states. -/
theorem ofStated_eq_ok_iff_resolves {s : StatedQuest} {q : QuestDefinition} :
    ofStated s = .ok q ↔ s.Named ∧ q.Resolves s := by
  rw [ofStated_eq_ok_iff, StatedQuest.named_iff]
  refine and_congr_right fun _ => ⟨?_, ?_⟩
  · rintro ⟨type, rs, htype, hrs, rfl⟩
    exact ⟨rfl, rfl, rfl, rfl, htype, rfl, rfl, hrs⟩
  · rintro ⟨hid, hname, hdescription, hgiver, htype, hpriority, hprevious, hrs⟩
    refine ⟨q.type, q.requirements, htype, hrs, ?_⟩
    cases q
    simp_all [StatedQuest.definition]

/-! ### The first defect -/

variable {s : StatedQuest} {d : Defect}

lemma ofStated_of_not_named (hid : ¬ s.Named) : ofStated s = .error (.blankQuestId s.name) := by
  have hblank : s.id.toList.all Text.isBlank := not_not.1 (mt StatedQuest.named_iff.2 hid)
  rw [ofStated, if_pos hblank]

lemma ofStated_of_not_typed (hid : s.Named) (htype : ¬ s.Typed) :
    ofStated s = .error (.unknownQuestType s.id s.type) := by
  rw [ofStated, if_neg (StatedQuest.named_iff.1 hid), StatedQuest.not_typed_iff.1 htype]

lemma ofStated_eq_error_iff_firstBad (hid : s.Named) (htype : s.Typed) :
    ofStated s = .error d ↔
      ∃ i cause, FirstBad s.requires i cause ∧ d = .badRequirement s.id i cause := by
  obtain ⟨type, htype⟩ := htype
  have hrequirements : ofStated s = .error d ↔ requirementsOf s.id 0 s.requires = .error d := by
    rw [ofStated, if_neg (StatedQuest.named_iff.1 hid), htype]
    cases requirementsOf s.id 0 s.requires <;> simp [Except.map]
  rw [hrequirements, requirementsOf_eq_error_iff]
  simp only [Nat.zero_add]

/-- **Rejection**: a quest is rejected for its first defect, with its wording. -/
theorem ofStated_eq_error_iff {text : String} :
    (ofStated s = .error d ∧ d.message = text) ↔ s.FirstDefect d text := by
  constructor
  · rintro ⟨hd, rfl⟩
    by_cases hid : s.Named
    · by_cases htype : s.Typed
      · obtain ⟨i, cause, hbad, rfl⟩ := (ofStated_eq_error_iff_firstBad hid htype).1 hd
        exact .badRequirement hid htype hbad
      · cases hd.symm.trans (ofStated_of_not_typed hid htype)
        exact .unknownType hid htype
    · cases hd.symm.trans (ofStated_of_not_named hid)
      exact .blankId hid
  · intro h
    cases h with
    | blankId hid => exact ⟨ofStated_of_not_named hid, rfl⟩
    | unknownType hid htype => exact ⟨ofStated_of_not_typed hid htype, rfl⟩
    | badRequirement hid htype hbad =>
      exact ⟨(ofStated_eq_error_iff_firstBad hid htype).2 ⟨_, _, hbad, rfl⟩, rfl⟩

/-- **Resolving a quest**: it succeeds exactly if the quest is well formed, the definition then has
what the quest states and nothing else, and any other quest is rejected for its first defect, in the
words of that defect, whatever comes after it. -/
theorem ofStated_outcome (s : StatedQuest) :
    ((∃ q, ofStated s = .ok q) ↔ s.WellFormed) ∧
    (∀ q, ofStated s = .ok q ↔ s.Named ∧ q.Resolves s) ∧
    ∀ d text, (ofStated s = .error d ∧ d.message = text) ↔ s.FirstDefect d text :=
  ⟨exists_ofStated_iff, fun _ => ofStated_eq_ok_iff_resolves, fun _ _ => ofStated_eq_error_iff⟩

/-- An id between blanks is kept as it is. Of two bad conditions the first is reported, with its
position, and an unknown type comes before both. -/
theorem ofStated_outcome_herbs :
    let s : StatedQuest :=
      { id := " herbs ", name := "Herbs", type := "Side", requires := [⟨"gold", " >= 5"⟩] }
    let bad : StatedQuest :=
      { s with requires := [⟨"gold", " >= 5"⟩, ⟨"iron", ">x"⟩, ⟨"wood", "=5"⟩] }
    let daily : StatedQuest := { bad with type := "daily" }
    (∃ q, ofStated s = .ok q ∧ q.id = " herbs ") ∧
      (∃ d, ofStated bad = .error d ∧
        d.message = "quest ' herbs ' requirement 1: operand 'x' after '>' is not an integer") ∧
      ∃ d, ofStated daily = .error d ∧ d.message = "quest ' herbs ' has unknown type 'daily'" := by
  intro s bad daily
  have hnamed : s.Named := ⟨'h', by decide, by decide⟩
  have htyped : s.Typed := ⟨.subQuest, by decide +kernel⟩
  have hgold : StatedRequirement.Parses ⟨"gold", " >= 5"⟩ := ⟨⟨.ge, 5⟩, by decide +kernel⟩
  have hiron : FirstBad bad.requires 1 (.badOperand .gt "x") :=
    ⟨⟨⟨"iron", ">x"⟩, rfl, by decide +kernel⟩, List.forall_mem_singleton.2 hgold⟩
  have hdaily : ¬ daily.Typed := StatedQuest.not_typed_iff.2 (by decide +kernel)
  obtain ⟨q, hq⟩ := (ofStated_outcome s).1.2 ⟨hnamed, htyped, List.forall_mem_singleton.2 hgold⟩
  have hid : q.id = " herbs " := (((ofStated_outcome s).2.1 q).1 hq).2.id
  have hbad : bad.FirstDefect _ _ :=
    .badRequirement (show bad.Named from hnamed) (show bad.Typed from htyped) hiron
  obtain ⟨hbadError, hbadText⟩ := ((ofStated_outcome bad).2.2 _ _).2 hbad
  have hunknown : daily.FirstDefect _ _ := .unknownType (show daily.Named from hnamed) hdaily
  obtain ⟨hdailyError, hdailyText⟩ := ((ofStated_outcome daily).2.2 _ _).2 hunknown
  exact ⟨⟨q, hq, hid⟩, ⟨_, hbadError, hbadText.trans (by decide +kernel)⟩,
    ⟨_, hdailyError, hdailyText.trans (by decide +kernel)⟩⟩

end QuestDefinition

end Questline
