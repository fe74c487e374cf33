import Questline.Proofs.Dispatch.Events
import Questline.Proofs.Quest.Catalog

/-!
What the requirements of a quest mean. A quest states them in the words of the command that tests a
flag, and both read these words alike: a quest is on offer if its bits, its predecessor and such
tests say so, and it is rejected for the words that the command warns about.
-/

namespace Questline

/-- What a stated requirement is resolved to: a test of the same flag, by its condition. -/
def StatedRequirement.Means (s : StatedRequirement) (r : Requirement) : Prop :=
  r.flag = s.flag ∧ Comparison.parse s.condition = .ok r.test

namespace StatedQuest

def without (s : StatedQuest) (condition : String) : StatedQuest :=
  { s with requires := s.requires.filter fun r => r.condition != condition }

def definition (s : StatedQuest) (type : QuestType) (requirements : List Requirement) :
    QuestDefinition where
  id := s.id
  name := s.name
  description := s.description
  giver := s.giver
  type := type
  priority := s.priority
  previous := s.chain.bind QuestChain.previous
  requirements := requirements

end StatedQuest

namespace Ledger

variable {l : Ledger} {id : String}

lemma isCompleted_iff : l.isCompleted id = true ↔ l.flags (l.keys.doneKey id) 0 = 1 := beq_iff_eq

lemma isCompleted_eq_false_iff :
    l.isCompleted id = false ↔ l.flags (l.keys.doneKey id) 0 ≠ 1 := beq_eq_false_iff_ne

lemma isActive_eq_false_iff :
    l.isActive id = false ↔ l.flags (l.keys.activeKey id) 0 ≠ 1 := beq_eq_false_iff_ne

end Ledger

/-! ### Resolving requirements -/

namespace QuestDefinition

lemma requirementsOf_eq_ok_iff (id : String) (i : Nat) {ss : List StatedRequirement}
    {rs : List Requirement} :
    requirementsOf id i ss = .ok rs ↔ List.Forall₂ StatedRequirement.Means ss rs := by
  induction ss generalizing i rs with
  | nil => cases rs <;> simp [requirementsOf]
  | cons s ss ih =>
    rw [requirementsOf]
    cases hs : Comparison.parse s.condition with
    | error cause => simp [List.forall₂_cons_left_iff, StatedRequirement.Means, hs]
    | ok test =>
      simp only [List.forall₂_cons_left_iff, ← ih (i + 1)]
      cases hss : requirementsOf id (i + 1) ss with
      | error d => simp [Except.map]
      | ok tests =>
        constructor
        · intro h
          cases h
          exact ⟨_, _, ⟨rfl, hs⟩, rfl, rfl⟩
        · rintro ⟨⟨flag, test'⟩, rs', ⟨hflag, htest⟩, hrs, rfl⟩
          cases hs.symm.trans htest
          cases hrs
          cases hflag
          rfl

lemma exists_requirementsOf (id : String) (i : Nat) {ss : List StatedRequirement}
    (h : ∀ s ∈ ss, ∃ test, Comparison.parse s.condition = .ok test) :
    ∃ rs, requirementsOf id i ss = .ok rs := by
  induction ss generalizing i with
  | nil => exact ⟨[], rfl⟩
  | cons s ss ih =>
    obtain ⟨test, hs⟩ := h s List.mem_cons_self
    obtain ⟨rs, hrs⟩ := ih (i + 1) fun s hs => h s (List.mem_cons_of_mem _ hs)
    exact ⟨⟨s.flag, test⟩ :: rs, by rw [requirementsOf, hs, hrs]; rfl⟩

/-- If one condition alone does not parse, its first requirement is the defect. -/
lemma requirementsOf_of_error (id : String) (i : Nat) {ss : List StatedRequirement}
    {condition : String} {cause : ConditionError}
    (hothers : ∀ s ∈ ss, s.condition ≠ condition → ∃ test, Comparison.parse s.condition = .ok test)
    (hcause : Comparison.parse condition = .error cause)
    (hmem : condition ∈ ss.map StatedRequirement.condition) :
    requirementsOf id i ss =
      .error (.badRequirement id (i + ss.findIdx fun s => s.condition == condition) cause) := by
  induction ss generalizing i with
  | nil => simp at hmem
  | cons s ss ih =>
    rw [requirementsOf, List.findIdx_cons]
    by_cases hs : s.condition = condition
    · rw [hs, hcause]
      simp
    · obtain ⟨test, htest⟩ := hothers s List.mem_cons_self hs
      have hmem' : condition ∈ ss.map StatedRequirement.condition := by
        simpa [Ne.symm hs] using hmem
      have hothers' := fun s hs => hothers s (List.mem_cons_of_mem _ hs)
      rw [htest]
      simp only [ih (i + 1) hothers' hmem', beq_eq_false_iff_ne.2 hs, cond_false, Except.map]
      rw [Nat.add_assoc, Nat.add_comm 1]

/-- **What is accepted**: a quest with an id and a known type whose conditions all parse. -/
lemma ofStated_eq_ok_iff {s : StatedQuest} {q : QuestDefinition} :
    ofStated s = .ok q ↔ ¬ s.id.toList.all Text.isBlank ∧ ∃ type rs,
      QuestType.parse? s.type = some type ∧ List.Forall₂ StatedRequirement.Means s.requires rs ∧
      q = s.definition type rs := by
  rw [ofStated]
  split_ifs with hid
  · simp [hid]
  · cases htype : QuestType.parse? s.type with
    | none => simp
    | some type =>
      simp only [← requirementsOf_eq_ok_iff s.id 0]
      cases requirementsOf s.id 0 s.requires <;>
        simp [Except.map, StatedQuest.definition, hid, eq_comm]

/-- **What is on offer**: a quest that is neither done nor active, whose predecessor is done, and
whose requirements are met. -/
lemma isEligible_iff {q : QuestDefinition} {l : Ledger} :
    q.isEligible l = true ↔ l.isCompleted q.id = false ∧ l.isActive q.id = false ∧
      (∀ previous ∈ q.previous, l.isCompleted previous = true) ∧
      ∀ r ∈ q.requirements, r.isMet l.flags = true := by
  simp only [isEligible, Bool.and_eq_true, Bool.not_eq_true', List.all_eq_true, and_assoc,
    Option.all_eq_true, Option.mem_def]

variable {s : StatedQuest} {q : QuestDefinition} {condition : String}

lemma exists_parse_of_eq_ok (hq : ofStated s = .ok q) {r : StatedRequirement}
    (hr : r ∈ s.requires) : ∃ test, Comparison.parse r.condition = .ok test := by
  obtain ⟨-, type, rs, -, hrs, -⟩ := ofStated_eq_ok_iff.1 hq
  obtain ⟨n, hn, rfl⟩ := List.getElem_of_mem hr
  have hn' : n < rs.length := hrs.length_eq ▸ hn
  exact ⟨rs[n].test, (hrs.get hn hn').2⟩

lemma exists_parse_of_without (hq : ofStated (s.without condition) = .ok q) :
    ∀ r ∈ s.requires, r.condition ≠ condition →
      ∃ test, Comparison.parse r.condition = .ok test :=
  fun _ hr hne => exists_parse_of_eq_ok hq (List.mem_filter.2 ⟨hr, bne_iff_ne.2 hne⟩)

lemma ofStated_of_ok (hq : ofStated (s.without condition) = .ok q) {test : Comparison}
    (h : Comparison.parse condition = .ok test) : ∃ q', ofStated s = .ok q' := by
  obtain ⟨hid, type, -, htype, -, -⟩ := ofStated_eq_ok_iff.1 hq
  have hall : ∀ r ∈ s.requires, ∃ test, Comparison.parse r.condition = .ok test := by
    intro r hr
    by_cases hc : r.condition = condition
    · exact ⟨test, hc ▸ h⟩
    · exact exists_parse_of_without hq r hr hc
  obtain ⟨rs, hrs⟩ := exists_requirementsOf s.id 0 hall
  exact ⟨_, ofStated_eq_ok_iff.2 ⟨hid, type, rs, htype, (requirementsOf_eq_ok_iff _ _).1 hrs, rfl⟩⟩

/-- A quest that is accepted without a condition is rejected for it if it does not parse. -/
lemma ofStated_of_error (hq : ofStated (s.without condition) = .ok q) {cause : ConditionError}
    (h : Comparison.parse condition = .error cause)
    (hmem : condition ∈ s.requires.map StatedRequirement.condition) :
    ofStated s = .error (.badRequirement s.id
      (s.requires.findIdx fun r => r.condition == condition) cause) := by
  obtain ⟨hid, type, -, htype, -, -⟩ := ofStated_eq_ok_iff.1 hq
  have hid' : ¬ s.id.toList.all Text.isBlank := hid
  have htype' : QuestType.parse? s.type = some type := htype
  have hrs := requirementsOf_of_error s.id 0 (exists_parse_of_without hq) h hmem
  rw [Nat.zero_add] at hrs
  rw [ofStated, if_neg hid', htype', hrs]
  rfl

end QuestDefinition

/-! ### Testing flags -/

namespace Branches

variable {μ : Type} (v : View μ) {call : Call} {key token : String} {rest : List String}

lemma ifFlag_of_ok (hargs : call.args = key :: token :: rest) {test : Comparison}
    (h : Comparison.parse token = .ok test) :
    ifFlag v call =
      .decide v [.note (.flagTested key (v.flags key 0) test (test.accepts (v.flags key 0)))]
        (.condition (test.accepts (v.flags key 0))) := by
  simp only [ifFlag, hargs, h]

lemma ifFlag_of_error (hargs : call.args = key :: token :: rest) {cause : ConditionError}
    (h : Comparison.parse token = .error cause) :
    ifFlag v call = .decide v [.note (.badCondition call.site cause)] (.condition false) := by
  simp only [ifFlag, hargs, h]

end Branches

namespace Engine

variable {σ μ : Type} [FlagStore σ] [QuestManager μ] {ctx : Context σ μ} {b : Builtin}
  {call : Call}

lemma invoke_of_noted {n : Notice} {d : Decision}
    (h : b.plan ctx.view call = .decide ctx.view [.note n] d) :
    ((ofContext ctx).val.invoke b.name call).val.1 = some d ∧
      ((ofContext ctx).val.invoke b.name call).log =
        [⟨n, some ⟨b.name, call.site⟩⟩, ⟨.finished d, some ⟨b.name, call.site⟩⟩] := by
  rw [val_invoke_name, log_invoke_name, h]
  exact ⟨rfl, rfl⟩

/-- An invocation of the command that tests a flag warns of a condition that does not parse. -/
def WarnsOf (e : Engine σ μ) (call : Call) (cause : ConditionError) : Prop :=
  ⟨.badCondition call.site cause, some ⟨Builtin.ifFlag.name, call.site⟩⟩ ∈
    (e.invoke Builtin.ifFlag.name call).log

variable {key token : String} {rest : List String}

lemma answer_ifFlag_of_ok (hargs : call.args = key :: token :: rest) {test : Comparison}
    (h : Comparison.parse token = .ok test) :
    ((ofContext ctx).val.invoke Builtin.ifFlag.name call).val.1 =
      some (.condition (test.accepts (FlagStore.get ctx.flags key 0))) :=
  (invoke_of_noted (b := .ifFlag) (Branches.ifFlag_of_ok ctx.view hargs h)).1

lemma answer_ifFlag_of_error (hargs : call.args = key :: token :: rest) {cause : ConditionError}
    (h : Comparison.parse token = .error cause) :
    ((ofContext ctx).val.invoke Builtin.ifFlag.name call).val.1 = some (.condition false) :=
  (invoke_of_noted (b := .ifFlag) (Branches.ifFlag_of_error ctx.view hargs h)).1

lemma warnsOf_iff (hargs : call.args = key :: token :: rest) {cause : ConditionError} :
    (ofContext ctx).val.WarnsOf call cause ↔ Comparison.parse token = .error cause := by
  rw [WarnsOf]
  cases h : Comparison.parse token with
  | ok test =>
    rw [(invoke_of_noted (b := .ifFlag) (Branches.ifFlag_of_ok ctx.view hargs h)).2]
    simp
  | error cause' =>
    rw [(invoke_of_noted (b := .ifFlag) (Branches.ifFlag_of_error ctx.view hargs h)).2]
    simp [eq_comm]

lemma isMet_iff (ctx : Context σ μ) {s : StatedRequirement} {r : Requirement} (h : s.Means r)
    (hargs : call.args = [s.flag, s.condition]) :
    r.isMet (FlagStore.get ctx.flags) = true ↔
      ((ofContext ctx).val.invoke Builtin.ifFlag.name call).val.1 = some (.condition true) := by
  rw [answer_ifFlag_of_ok hargs h.2, Requirement.isMet, h.1]
  simp

lemma all_isMet_iff {ss : List StatedRequirement} {rs : List Requirement}
    (h : List.Forall₂ StatedRequirement.Means ss rs) (site : CallSite) (time : Instant) :
    (∀ r ∈ rs, r.isMet (FlagStore.get ctx.flags) = true) ↔
      ∀ s ∈ ss, ((ofContext ctx).val.invoke Builtin.ifFlag.name
        ⟨[s.flag, s.condition], site, time⟩).val.1 = some (.condition true) := by
  induction h with
  | nil => simp
  | @cons s r ss rs hr _ ih =>
    let call : Call := ⟨[s.flag, s.condition], site, time⟩
    have hmet := isMet_iff ctx hr (show call.args = [s.flag, s.condition] from rfl)
    rw [List.forall_mem_cons, List.forall_mem_cons, hmet, ih]

/-- **Requirements are tests of flags**: in a context whose catalog has the definition of a stated
quest, the quest is on offer exactly if neither of its bits is set, its predecessor is done, and the
command that tests a flag answers yes for each stated requirement. A quest that is fine but for the
requirements of one condition is rejected exactly if the command warns of that condition; the defect
is what it warns of, and it then answers no whatever the flags are. -/
theorem requirements_are_tests {σ : Type} [FlagStore σ] :
    (∀ (s : StatedQuest) (q : QuestDefinition), QuestDefinition.ofStated s = .ok q →
      ∀ ctx : Context σ QuestCatalog, ctx.quests.find? s.id = some q → ∀ site time,
        (ctx.isAvailable s.id = true ↔
          FlagStore.get ctx.flags (ctx.keys.quests.doneKey s.id) 0 ≠ 1 ∧
          FlagStore.get ctx.flags (ctx.keys.quests.activeKey s.id) 0 ≠ 1 ∧
          (∀ previous ∈ s.chain.bind QuestChain.previous,
            FlagStore.get ctx.flags (ctx.keys.quests.doneKey previous) 0 = 1) ∧
          ∀ r ∈ s.requires, ((ofContext ctx).val.invoke Builtin.ifFlag.name
            ⟨[r.flag, r.condition], site, time⟩).val.1 = some (.condition true))) ∧
    ∀ (s : StatedQuest) (condition : String),
      condition ∈ s.requires.map StatedRequirement.condition →
      (∃ q, QuestDefinition.ofStated (s.without condition) = .ok q) →
      ∀ (ctx : Context σ QuestCatalog) (call : Call) (key : String) (rest : List String),
        call.args = key :: condition :: rest →
        ((∃ d, QuestDefinition.ofStated s = .error d) ↔
          ∃ cause, (ofContext ctx).val.WarnsOf call cause) ∧
        ∀ cause, (ofContext ctx).val.WarnsOf call cause →
          QuestDefinition.ofStated s = .error (.badRequirement s.id
            (s.requires.findIdx fun r => r.condition == condition) cause) ∧
          ∀ flags : σ, ((ofContext { ctx with flags }).val.invoke Builtin.ifFlag.name call).val.1 =
            some (.condition false) := by
  constructor
  · intro s q hq ctx hfind site time
    obtain ⟨-, type, rs, -, hrs, rfl⟩ := QuestDefinition.ofStated_eq_ok_iff.1 hq
    have havailable : ctx.isAvailable s.id = (s.definition type rs).isEligible ctx.ledger :=
      QuestCatalog.isAvailable_of_find? hfind
    rw [havailable, ← all_isMet_iff hrs site time, QuestDefinition.isEligible_iff,
      Ledger.isCompleted_eq_false_iff, Ledger.isActive_eq_false_iff]
    simp only [Ledger.isCompleted_iff]
    exact Iff.rfl
  · intro s condition hmem ⟨q, hq⟩ ctx call key rest hargs
    simp only [warnsOf_iff hargs]
    refine ⟨⟨fun ⟨d, hd⟩ => ?_, fun ⟨cause, hcause⟩ => ?_⟩,
      fun cause hcause => ⟨?_, fun flags => ?_⟩⟩
    · cases h : Comparison.parse condition with
      | ok test =>
        obtain ⟨q', hq'⟩ := QuestDefinition.ofStated_of_ok hq h
        cases hd.symm.trans hq'
      | error cause => exact ⟨cause, rfl⟩
    · exact ⟨_, QuestDefinition.ofStated_of_error hq hcause hmem⟩
    · exact QuestDefinition.ofStated_of_error hq hcause hmem
    · exact answer_ifFlag_of_error hargs hcause

/-- A quest that asks for a predecessor and some gold is on offer; with a requirement more whose
condition has no operator it is rejected. -/
theorem requirements_are_tests_herbs :
    let s : StatedQuest :=
      { id := "herbs", name := "Herbs", type := "Side", chain := some ⟨some "intro"⟩
        requires := [⟨"gold", " >= 5"⟩] }
    let bad : StatedQuest := { s with requires := [⟨"gold", " >= 5"⟩, ⟨"iron", "=5"⟩] }
    let q : QuestDefinition := s.definition .subQuest [⟨"gold", ⟨.ge, 5⟩⟩]
    let ctx : Context MemoryFlags QuestCatalog :=
      { flags := .ofList [("gold", 7), ("quest_done_intro", 1)], quests := .insertAll .empty [q] }
    ctx.isAvailable "herbs" = true ∧ QuestDefinition.ofStated bad =
      .error (.badRequirement "herbs" 1 (.unknownOperator "=5")) := by
  intro s bad q ctx
  obtain ⟨hoffer, hreject⟩ := requirements_are_tests (σ := MemoryFlags)
  have hq : QuestDefinition.ofStated s = .ok q := by decide +kernel
  have hwithout : QuestDefinition.ofStated (bad.without "=5") = .ok q := by decide +kernel
  have hwarn : (ofContext ctx).val.WarnsOf { args := ["iron", "=5"] } (.unknownOperator "=5") :=
    (warnsOf_iff rfl).2 (by decide +kernel)
  refine ⟨(hoffer s q hq ctx (by decide) {} default).2 ?_, ?_⟩
  · decide +kernel
  · exact ((hreject bad "=5" (by decide) ⟨q, hwithout⟩ ctx _ "iron" [] rfl).2 _ hwarn).1

end Engine

end Questline
