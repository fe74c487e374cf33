import Questline.Proofs.Quest.Record
import Questline.Proofs.Quest.Requirements

/-!
What a transition does to the offers. It changes the bits of one quest, so all that other quests
need stays as it was but for having that quest as a predecessor: a start takes the quest off the
list, and a completion also adds those that waited for nothing else.
-/

namespace Questline

/-! ### Changing the bits of one quest -/

/-- A ledger that differs from another in the bits of one quest at most. -/
structure Ledger.AgreesButFor (l : Ledger) (p : String) (l' : Ledger) : Prop where
  keys : l'.keys = l.keys
  flags (key : String) : key ∉ l.keys.bits p → l'.flags key 0 = l.flags key 0

namespace Ledger.AgreesButFor

variable {l l' : Ledger} {p id : String} (h : l.AgreesButFor p l')

include h

lemma isMet_eq {r : Requirement} (hr : r.flag ∉ l.keys.bits p) :
    r.isMet l'.flags = r.isMet l.flags := by
  rw [Requirement.isMet, h.flags _ hr, Requirement.isMet]

variable (hk : l.keys.Apart) (hne : id ≠ p)

include hk hne

lemma isCompleted_eq : l'.isCompleted id = l.isCompleted id := by
  have hkey : l.keys.doneKey id ∉ l.keys.bits p := hk.notMem_bits hne List.mem_cons_self
  simp only [isCompleted, Field.read, QuestKeys.done, Field.bool, h.keys, h.flags _ hkey]

lemma isActive_eq : l'.isActive id = l.isActive id := by
  have hkey : l.keys.activeKey id ∉ l.keys.bits p :=
    hk.notMem_bits hne (List.mem_cons_of_mem _ List.mem_cons_self)
  simp only [isActive, Field.read, QuestKeys.active, Field.bool, h.keys, h.flags _ hkey]

end Ledger.AgreesButFor

namespace QuestDefinition

variable {l l' : Ledger} {p : String} {q : QuestDefinition} (h : l.AgreesButFor p l')
  (hk : l.keys.Apart) (hreq : ∀ r ∈ q.requirements, r.flag ∉ l.keys.bits p)

include h hk hreq

/-- Of what an offer of another quest needs, at most its predecessor is concerned. -/
lemma isEligible_iff_of_ne (hne : q.id ≠ p) :
    q.isEligible l' = true ↔ l.isCompleted q.id = false ∧ l.isActive q.id = false ∧
      (∀ previous ∈ q.previous, l'.isCompleted previous = true) ∧
      ∀ r ∈ q.requirements, r.isMet l.flags = true := by
  rw [isEligible_iff, h.isCompleted_eq hk hne, h.isActive_eq hk hne]
  have hmet : (∀ r ∈ q.requirements, r.isMet l'.flags = true) ↔
      ∀ r ∈ q.requirements, r.isMet l.flags = true :=
    forall₂_congr fun r hr => by rw [h.isMet_eq (hreq r hr)]
  rw [hmet]

/-- A quest that becomes active goes off the list, and others stay on it or off it. -/
lemma isEligible_iff_of_isActive (hdone : l'.isCompleted p = l.isCompleted p)
    (hactive : l'.isActive p = true) :
    q.isEligible l' = true ↔ q.id ≠ p ∧ q.isEligible l = true := by
  by_cases hne : q.id = p
  · subst hne
    simp [isEligible_iff, hactive]
  · have hprevious (id : String) : l'.isCompleted id = l.isCompleted id := by
      by_cases hid : id = p
      · rw [hid, hdone]
      · exact h.isCompleted_eq hk hid
    simp only [isEligible_iff_of_ne h hk hreq hne, hprevious, isEligible_iff, hne, ne_eq,
      not_false_eq_true, true_and]

/-- A quest that gets done goes off the list, and those come on it that waited for it alone. -/
lemma isEligible_iff_of_isCompleted (hdone : l'.isCompleted p = true) :
    q.isEligible l' = true ↔ q.id ≠ p ∧ (q.isEligible l = true ∨
      q.previous = some p ∧ l.isCompleted q.id = false ∧ l.isActive q.id = false ∧
        ∀ r ∈ q.requirements, r.isMet l.flags = true) := by
  by_cases hne : q.id = p
  · subst hne
    simp [isEligible_iff, hdone]
  rw [isEligible_iff_of_ne h hk hreq hne, isEligible_iff]
  -- the only predecessor that makes a difference is the quest itself
  by_cases hp : q.previous = some p
  · simp only [hp, Option.mem_def, Option.some.injEq, forall_eq', hdone]
    tauto
  · have hprevious : ∀ previous ∈ q.previous, l'.isCompleted previous = l.isCompleted previous :=
      fun previous hq => h.isCompleted_eq hk fun heq => hp (heq ▸ hq)
    have hall : (∀ previous ∈ q.previous, l'.isCompleted previous = true) ↔
        ∀ previous ∈ q.previous, l.isCompleted previous = true :=
      forall₂_congr fun previous hq => by rw [hprevious previous hq]
    simp only [hall, hp, false_and, or_false, ne_eq, hne, not_false_eq_true, true_and]

end QuestDefinition

/-! ### Offers after a transition -/

namespace Context

section Lawful

variable {σ : Type} [FlagStore σ] [LawfulFlagStore σ] (ctx : Context σ QuestCatalog) (now : Instant)
  (p : String)

lemma agreesButFor_started : ctx.ledger.AgreesButFor p (ctx.started now p).ledger where
  keys := rfl
  flags key hkey := by
    have hne : key ≠ ctx.keys.quests.activeKey p := fun heq =>
      hkey (heq ▸ List.mem_cons_of_mem _ List.mem_cons_self)
    exact FlagStore.get_set_of_ne _ hne _ _

lemma agreesButFor_completed : ctx.ledger.AgreesButFor p (ctx.completed now p).ledger where
  keys := rfl
  flags key hkey := by
    have hdone : key ≠ ctx.keys.quests.doneKey p := fun heq => hkey (heq ▸ List.mem_cons_self)
    have hactive : key ≠ ctx.keys.quests.activeKey p := fun heq =>
      hkey (heq ▸ List.mem_cons_of_mem _ List.mem_cons_self)
    exact (FlagStore.get_set_of_ne _ hactive _ _).trans (FlagStore.get_set_of_ne _ hdone _ _)

end Lawful

variable {ctx : Context MemoryFlags QuestCatalog} {p : String} (hk : ctx.keys.quests.Apart)
  (hreq : ∀ q ∈ ctx.quests.quests, ∀ r ∈ q.requirements, r.flag ∉ ctx.keys.quests.bits p)
  (now : Instant)

include hk hreq

lemma available_started :
    (ctx.started now p).available = ctx.available.filter fun i => i.id ≠ p := by
  have heligible : ∀ q ∈ ctx.quests.quests,
      q.isEligible (ctx.started now p).ledger = (decide (q.id ≠ p) && q.isEligible ctx.ledger) := by
    intro q hq
    rw [Bool.eq_iff_iff, Bool.and_eq_true, decide_eq_true_iff]
    exact QuestDefinition.isEligible_iff_of_isActive (agreesButFor_started ctx now p) hk (hreq q hq)
      (isCompleted_started now hk.stems_ne) ((isActive_started_iff now).2 (.inl rfl))
  change (ctx.quests.quests.filter _).map _ = ((ctx.quests.quests.filter _).map _).filter _
  rw [List.filter_congr heligible, List.filter_map, List.filter_filter]
  rfl

/-- A completion leaves on the list of offers, or puts on it, what waits for nothing any more. -/
lemma available_completed :
    (ctx.completed now p).available =
      (ctx.quests.quests.filter fun q => q.id ≠ p ∧ (q.isEligible ctx.ledger = true ∨
        q.previous = some p ∧ ctx.ledger.isCompleted q.id = false ∧
          ctx.ledger.isActive q.id = false ∧
          ∀ r ∈ q.requirements, r.isMet ctx.ledger.flags = true)).map QuestDefinition.info := by
  refine congrArg (List.map _) (List.filter_congr fun q hq => ?_)
  rw [Bool.eq_iff_iff, decide_eq_true_iff]
  exact QuestDefinition.isEligible_iff_of_isCompleted (agreesButFor_completed ctx now p) hk
    (hreq q hq) ((isCompleted_completed_iff now hk.stems_ne).2 (.inl rfl))

end Context

namespace Engine

/-- **Transitions and offers**: over flags in memory, with stems of which neither begins the other
and no requirement on the bits of a quest, a start of the quest that is accepted takes it off the
list of offers and keeps all others in order. A completion that is accepted leaves in the order of
the catalog the other quests that were on offer before, or that lacked it as a predecessor and
nothing else. -/
theorem offers_after_transition {ctx : Context MemoryFlags QuestCatalog}
    (hk : ctx.keys.quests.Apart) {p : String} (hp : p ≠ "")
    (hreq : ∀ q ∈ ctx.quests.quests, ∀ r ∈ q.requirements, r.flag ∉ ctx.keys.quests.bits p)
    {call : Call} (hid : call.args.head? = some p) :
    let start := (ofContext ctx).val.invoke Builtin.startQuest.name call
    let complete := (ofContext ctx).val.invoke Builtin.completeQuest.name call
    (start.val.1 = some .none →
      start.val.2.context.available = ctx.available.filter fun i => i.id ≠ p) ∧
    (complete.val.1 = some .none → complete.val.2.context.available =
      (ctx.quests.quests.filter fun q => q.id ≠ p ∧ (q.isEligible ctx.ledger = true ∨
        q.previous = some p ∧ ctx.ledger.isCompleted q.id = false ∧
          ctx.ledger.isActive q.id = false ∧
          ∀ r ∈ q.requirements, r.isMet ctx.ledger.flags = true)).map QuestDefinition.info) := by
  intro start complete
  have hne : call.args ≠ [""] := Call.args_ne_of_head hid hp
  constructor
  · intro hanswer
    by_cases hq : ctx.quests.Startable ctx.ledger p
    · have hstart : start.val = (some .none, (ofContext (ctx.started call.time p)).val) :=
        invoke_start_accepted ctx call hid hne hq
      rw [hstart]
      exact Context.available_started hk hreq call.time
    · have hstart : start.val = (none, (ofContext ctx).val) :=
        invoke_start_refused ctx call hid hne hq
      rw [hstart] at hanswer
      cases hanswer
  · intro hanswer
    cases hq : ctx.quests.contains p with
    | true =>
      have hcomplete : complete.val = (some .none, (ofContext (ctx.completed call.time p)).val) :=
        invoke_complete_accepted ctx call hid hne hq
      rw [hcomplete]
      exact Context.available_completed hk hreq call.time
    | false =>
      have hcomplete : complete.val = (none, (ofContext ctx).val) :=
        invoke_complete_refused ctx call hid hne hq
      rw [hcomplete] at hanswer
      cases hanswer

/-- An introduction that two quests wait for, of which one also asks for more gold than there is. -/
theorem offers_after_transition_intro :
    let q (id : String) (previous : Option String) (requirements : List Requirement) :
        QuestDefinition :=
      { id, name := id, type := .subQuest, priority := 0, previous, requirements }
    let ctx : Context MemoryFlags QuestCatalog :=
      { flags := .ofList [("gold", 7)]
        quests := .insertAll .empty [q "hunt" (some "intro") [⟨"gold", ⟨.ge, 100⟩⟩],
          q "herbs" (some "intro") [⟨"gold", ⟨.ge, 5⟩⟩], q "intro" none [], q "duel" none []] }
    let call : Call := { args := ["intro"] }
    let start := (ofContext ctx).val.invoke Builtin.startQuest.name call
    let complete := (ofContext ctx).val.invoke Builtin.completeQuest.name call
    start.val.1 = some .none ∧ start.val.2.context.available.map QuestInfo.id = ["duel"] ∧
      complete.val.1 = some .none ∧
      complete.val.2.context.available.map QuestInfo.id = ["herbs", "duel"] := by
  intro q ctx call start complete
  have hreq : ∀ q ∈ ctx.quests.quests, ∀ r ∈ q.requirements,
      r.flag ∉ ctx.keys.quests.bits "intro" := by decide
  obtain ⟨hstarted, hcompleted⟩ :=
    offers_after_transition (by decide) (by decide) hreq (show call.args.head? = _ from rfl)
  have hstart : start.val.1 = some .none := by decide +kernel
  have hcomplete : complete.val.1 = some .none := by decide +kernel
  rw [hstarted hstart, hcompleted hcomplete]
  exact ⟨hstart, by decide +kernel, hcomplete, by decide +kernel⟩

end Engine

end Questline
