import Questline.Proofs.Dispatch.Answers
import Questline.Proofs.Quest.Transition

/-!
What invocations of the built-in commands answer, and when they do nothing. The rule has one gap: a
transition whose arguments begin with an empty id and go on takes the empty id for a quest.
-/

namespace Questline

/-! ### Transitions -/

/-- The arguments begin with an empty id and go on. -/
def BlankFirst (args : List String) : Prop := ∃ extra, extra ≠ [] ∧ args = "" :: extra

lemma blankFirst_iff {args : List String} :
    BlankFirst args ↔ args.head? = some "" ∧ args ≠ [""] := by
  constructor
  · rintro ⟨extra, hextra, rfl⟩
    exact ⟨rfl, by simpa using hextra⟩
  · rintro ⟨hid, hne⟩
    obtain ⟨extra, rfl⟩ := List.head?_eq_some_iff.1 hid
    exact ⟨extra, by simpa using hne, rfl⟩

namespace Transitions

lemma exists_fault_questId? (b : Builtin) {args : List String}
    (h : (args.head?.filter (· ≠ "")).isSome = false) :
    ∃ n : Notice, n.IsFault ∧ .note n ∈ (questId? b args).1 := by
  match args with
  | [] => exact ⟨_, .inr rfl, List.mem_singleton.2 rfl⟩
  | [id] =>
    have hid : id = "" := by simpa using h
    subst hid
    exact ⟨_, .inr rfl, List.mem_singleton.2 rfl⟩
  | _ :: _ :: _ => exact ⟨_, .inl rfl, List.mem_singleton.2 rfl⟩

variable {μ : Type} {v : View μ} {call : Call} {e : Effect}

lemma mem_conclude {notes es : List Effect} (h : e ∈ notes)
    (reply : Logged (Except QuestError μ)) : e ∈ (conclude v notes reply es).effects := by
  rw [conclude]
  split
  · exact List.mem_append_left _ h
  · exact List.mem_append_left _ (List.mem_append_left _ h)

variable [QuestManager μ]

lemma mem_startQuest (h : e ∈ (questId? .startQuest call.args).1) :
    e ∈ (startQuest v call).effects := by
  rw [startQuest]
  split
  · next notes hq => rw [hq] at h; exact h
  · next notes id hq =>
    rw [hq] at h
    split_ifs
    · exact h
    · exact mem_conclude h _

lemma mem_completeQuest (h : e ∈ (questId? .completeQuest call.args).1) :
    e ∈ (completeQuest v call).effects := by
  rw [completeQuest]
  split
  · next notes hq => rw [hq] at h; exact h
  · next notes id hq => rw [hq] at h; exact mem_conclude h _

end Transitions

/-- What keeps an invocation from being answered, by the rule: there is no such command, or it is a
transition of a quest that has an id and cannot make it. -/
inductive Context.Refuses {σ : Type} [FlagStore σ] (ctx : Context σ QuestCatalog) (name : String)
    (args : List String) : Prop
  | unknown (h : ∀ b, Builtin.name b ≠ name)
  | start (id : String) (hname : name = "start_quest") (hid : args.head? = some id) (hne : id ≠ "")
      (h : ctx.ledger.isCompleted id = true ∨ ctx.quests.contains id = false ∨
        ctx.quests.journal.isCompleted id = true)
  | complete (id : String) (hname : name = "complete_quest") (hid : args.head? = some id)
      (hne : id ≠ "") (h : ctx.quests.contains id = false)

namespace Engine

variable {σ : Type} [FlagStore σ]

/-- The rule of what an invocation answers, and of when it does nothing but report a fault. -/
structure AnswerLaw (e : Engine σ QuestCatalog) (name : String) (call : Call) : Prop where
  none_iff : (e.invoke name call).val.1 = none ↔ e.context.Refuses name call.args
  decision : ∀ b d, Builtin.name b = name → (e.invoke name call).val.1 = some d → b.Answers d
  fault : ((e.invoke name call).val.1 = none ∨
      ∃ b, Builtin.name b = name ∧ b.wellFormed call.args = false) →
    (e.invoke name call).val.2.context = e.context ∧ HasFault (e.invoke name call).log

/-- The rule does not depend on whether the registry has been used. -/
lemma answerLaw_mk_iff {r : Registry σ QuestCatalog} (hr : r.prepare.val = .standard)
    (ctx : Context σ QuestCatalog) (name : String) (call : Call) :
    (Engine.mk r ctx).AnswerLaw name call ↔ (ofContext ctx).val.AnswerLaw name call := by
  have hlog : ∀ log, HasFault (r.prepare.log ++ log) ↔ HasFault log := fun log => by
    rw [hasFault_append, or_iff_right (not_hasFault_prepare r)]
  have hval : ((Engine.mk r ctx).invoke name call).val =
      ((ofContext ctx).val.invoke name call).val := by rw [invoke_of_prepare hr]
  have hfault : HasFault ((Engine.mk r ctx).invoke name call).log ↔
      HasFault ((ofContext ctx).val.invoke name call).log := by
    rw [invoke_of_prepare hr]
    exact hlog _
  constructor
  · intro h
    refine ⟨?_, ?_, ?_⟩
    · rw [← hval]; exact h.none_iff
    · rw [← hval]; exact h.decision
    · rw [← hval, ← hfault]; exact h.fault
  · intro h
    refine ⟨?_, ?_, ?_⟩
    · rw [hval]; exact h.none_iff
    · rw [hval]; exact h.decision
    · rw [hval, hfault]; exact h.fault

variable {ctx : Context σ QuestCatalog} {b : Builtin} {call : Call}

lemma answerLaw_unknown {name : String} (h : Builtin.ofName? name = none) :
    (ofContext ctx).val.AnswerLaw name call := by
  have hname : ∀ b, Builtin.name b ≠ name := by
    rintro b rfl
    rw [Builtin.ofName?_name] at h
    cases h
  have hi := val_invoke_unknown ctx h call
  refine ⟨iff_of_true (by rw [hi]) (.unknown hname), fun b _ hb => absurd hb (hname b),
    fun _ => ⟨by rw [hi], hasFault_of_none ctx (by rw [hi])⟩⟩

lemma AnswerLaw.of_name
    (hnone : ((ofContext ctx).val.invoke b.name call).val.1 = none ↔ ctx.Refuses b.name call.args)
    (hdecision : ∀ d, ((ofContext ctx).val.invoke b.name call).val.1 = some d → b.Answers d)
    (hfault : ((ofContext ctx).val.invoke b.name call).val.1 = none ∨
        b.wellFormed call.args = false →
      ((ofContext ctx).val.invoke b.name call).val.2.context = ctx ∧
        HasFault ((ofContext ctx).val.invoke b.name call).log) :
    (ofContext ctx).val.AnswerLaw b.name call where
  none_iff := hnone
  decision b' d hb hd := by
    obtain rfl := Builtin.name_injective hb
    exact hdecision d hd
  fault h := hfault (h.imp_right fun ⟨b', hb, hw⟩ => by
    obtain rfl := Builtin.name_injective hb
    exact hw)

lemma answerLaw_other (hs : b ≠ .startQuest) (hc : b ≠ .completeQuest) :
    (ofContext ctx).val.AnswerLaw b.name call := by
  have hobeys := Builtin.plan_obeys hs hc ctx.view call
  obtain ⟨d, hd, hkind⟩ := hobeys.decides
  have hanswer : ((ofContext ctx).val.invoke b.name call).val.1 = some d := by
    rw [val_invoke_name, hd]
    rfl
  refine .of_name (iff_of_false (by simp [hanswer]) ?_) ?_ ?_
  · rintro (h | ⟨id, h, -⟩ | ⟨id, h, -⟩)
    · exact h b rfl
    · exact hs (Builtin.name_injective h)
    · exact hc (Builtin.name_injective h)
  · intro d' hd'
    obtain rfl := Option.some.inj (hanswer.symm.trans hd')
    exact hkind
  · intro hw
    obtain ⟨hwrites, n, hn, hmem⟩ := hobeys.fault (hw.resolve_left (by simp [hanswer]))
    have hquests := (Builtin.plan_within hs hc ctx.view call).quests
    refine ⟨?_, hasFault_of_report ctx hn hmem⟩
    rw [val_invoke_name]
    exact Context.after_of_does_nothing ⟨hquests, hwrites, rfl⟩

/-- How a transition ends: it does nothing without a quest id, makes the next context for a quest
that it admits, and refuses the others. -/
structure Transits (ctx : Context σ QuestCatalog) (b : Builtin) (call : Call)
    (admits : String → Prop) (next : String → Context σ QuestCatalog) : Prop where
  idle : call.args = [] ∨ call.args = [""] →
    ((ofContext ctx).val.invoke b.name call).val = (some .none, (ofContext ctx).val)
  accepted (id : String) : call.args.head? = some id → call.args ≠ [""] → admits id →
    ((ofContext ctx).val.invoke b.name call).val = (some .none, (ofContext (next id)).val)
  refused (id : String) : call.args.head? = some id → call.args ≠ [""] → ¬ admits id →
    ((ofContext ctx).val.invoke b.name call).val = (none, (ofContext ctx).val)
  answers : b.Answers .none
  wellFormed : b.wellFormed call.args = (call.args.head?.filter (· ≠ "")).isSome
  fault : b.wellFormed call.args = false → HasFault ((ofContext ctx).val.invoke b.name call).log
  refuses_iff : ctx.Refuses b.name call.args ↔
    ∃ id, call.args.head? = some id ∧ id ≠ "" ∧ ¬ admits id

lemma transits_start (ctx : Context σ QuestCatalog) (call : Call) :
    Transits ctx .startQuest call (ctx.quests.Startable ctx.ledger) (ctx.started call.time) where
  idle := invoke_start_idle ctx call
  accepted _ := invoke_start_accepted ctx call
  refused _ := invoke_start_refused ctx call
  answers := rfl
  wellFormed := rfl
  fault hw := by
    obtain ⟨n, hn, hmem⟩ := Transitions.exists_fault_questId? .startQuest hw
    exact hasFault_of_report ctx hn (Transitions.mem_startQuest hmem)
  refuses_iff := by
    constructor
    · rintro (h | ⟨id, -, hid, hne, h⟩ | ⟨id, h, -⟩)
      · exact absurd rfl (h .startQuest)
      · refine ⟨id, hid, hne, fun hq => ?_⟩
        rcases h with h | h | h
        · exact Bool.false_ne_true (hq.notDone.symm.trans h)
        · exact Bool.false_ne_true (h.symm.trans hq.known)
        · exact Bool.false_ne_true (hq.notRecorded.symm.trans h)
      · exact absurd h (by decide)
    · rintro ⟨id, hid, hne, hq⟩
      refine .start id rfl hid hne ?_
      refine Decidable.byContradiction fun h => hq ?_
      simp only [not_or, Bool.not_eq_true, Bool.not_eq_false] at h
      exact ⟨h.2.1, h.1, h.2.2⟩

lemma transits_complete (ctx : Context σ QuestCatalog) (call : Call) :
    Transits ctx .completeQuest call (fun id => ctx.quests.contains id = true)
      (ctx.completed call.time) where
  idle := invoke_complete_idle ctx call
  accepted _ := invoke_complete_accepted ctx call
  refused _ hid hne hq := invoke_complete_refused ctx call hid hne (by simpa using hq)
  answers := rfl
  wellFormed := rfl
  fault hw := by
    obtain ⟨n, hn, hmem⟩ := Transitions.exists_fault_questId? .completeQuest hw
    exact hasFault_of_report ctx hn (Transitions.mem_completeQuest hmem)
  refuses_iff := by
    constructor
    · rintro (h | ⟨id, h, -⟩ | ⟨id, -, hid, hne, h⟩)
      · exact absurd rfl (h .completeQuest)
      · exact absurd h (by decide)
      · exact ⟨id, hid, hne, by simp [h]⟩
    · rintro ⟨id, hid, hne, hq⟩
      exact .complete id rfl hid hne (by simpa using hq)

namespace Transits

variable {admits : String → Prop} {next : String → Context σ QuestCatalog}

/-- A transition that is answered keeps the rule if it was right to admit the quest, and changed
nothing about malformed arguments. -/
lemma answerLaw_of_answer (h : Transits ctx b call admits next) {ctx' : Context σ QuestCatalog}
    (hi : ((ofContext ctx).val.invoke b.name call).val = (some .none, (ofContext ctx').val))
    (hadmits : ∀ id, call.args.head? = some id → id ≠ "" → admits id)
    (hsame : b.wellFormed call.args = false → ctx' = ctx) :
    (ofContext ctx).val.AnswerLaw b.name call := by
  refine .of_name (iff_of_false (by simp [hi]) fun hr => ?_) ?_ ?_
  · obtain ⟨id, hid, hne, hn⟩ := h.refuses_iff.1 hr
    exact hn (hadmits id hid hne)
  · intro d hd
    rw [hi] at hd
    obtain rfl := Option.some.inj hd
    exact h.answers
  · intro hw
    have hw := hw.resolve_left (by simp [hi])
    exact ⟨by rw [hi]; exact hsame hw, h.fault hw⟩

lemma answerLaw_of_not_blankFirst (h : Transits ctx b call admits next)
    (hblank : ¬ BlankFirst call.args) : (ofContext ctx).val.AnswerLaw b.name call := by
  by_cases hidle : call.args = [] ∨ call.args = [""]
  · refine h.answerLaw_of_answer (h.idle hidle) (fun id hid hne => ?_) fun _ => rfl
    rcases hidle with hargs | hargs
    · rw [hargs] at hid
      cases hid
    · exact absurd hargs (Call.args_ne_of_head hid hne)
  rw [not_or] at hidle
  obtain ⟨id, hid⟩ := Option.ne_none_iff_exists'.1 (mt List.head?_eq_none_iff.1 hidle.1)
  have hne : id ≠ "" := by
    rintro rfl
    exact hblank (blankFirst_iff.2 ⟨hid, hidle.2⟩)
  by_cases hadmits : admits id
  · refine h.answerLaw_of_answer (h.accepted id hid hidle.2 hadmits) (fun id' hid' _ => ?_) ?_
    · rwa [← Option.some.inj (hid.symm.trans hid')]
    · intro hw
      simp [h.wellFormed, hid, hne] at hw
  · have hi := h.refused id hid hidle.2 hadmits
    refine .of_name (iff_of_true (by rw [hi]) (h.refuses_iff.2 ⟨id, hid, hne, hadmits⟩)) ?_ ?_
    · intro d hd
      rw [hi] at hd
      cases hd
    · exact fun _ => ⟨by rw [hi]; rfl, hasFault_of_none ctx (by rw [hi])⟩

/-- A transition keeps the rule unless its arguments begin with an empty id and go on: then the
catalog would have to admit a quest of that id, and the transition to change nothing. -/
lemma answerLaw_iff_blankFirst (h : Transits ctx b call admits next) :
    (ofContext ctx).val.AnswerLaw b.name call ↔
      (BlankFirst call.args → admits "" ∧ next "" = ctx) := by
  constructor
  · intro hlaw hblank
    obtain ⟨hid, hne⟩ := blankFirst_iff.1 hblank
    by_cases hadmits : admits ""
    · have hw : b.wellFormed call.args = false := by simp [h.wellFormed, hid]
      have hctx := (hlaw.fault (.inr ⟨b, rfl, hw⟩)).1
      rw [h.accepted "" hid hne hadmits] at hctx
      exact ⟨hadmits, hctx⟩
    · -- a refusal of the empty id is none that the rule knows
      have hrefuses := hlaw.none_iff.1 (by rw [h.refused "" hid hne hadmits])
      obtain ⟨id, hid', hne', -⟩ := h.refuses_iff.1 hrefuses
      exact absurd (Option.some.inj (hid'.symm.trans hid)) hne'
  · intro hsame
    by_cases hblank : BlankFirst call.args
    · obtain ⟨hid, hne⟩ := blankFirst_iff.1 hblank
      obtain ⟨hadmits, hnext⟩ := hsame hblank
      refine h.answerLaw_of_answer (h.accepted "" hid hne hadmits) (fun id hid' hne' => ?_)
        fun _ => hnext
      exact absurd (Option.some.inj (hid'.symm.trans hid)) hne'
    · exact h.answerLaw_of_not_blankFirst hblank

end Transits

/-- **When the answers keep the rule**: over any store and catalog, with the built-in commands
alone, an invocation keeps the rule unless it is a transition whose arguments begin with an empty id
and go on. Such a one keeps it only if the catalog admits a quest of the empty id and nothing
changes. -/
theorem answerLaw_iff {r : Registry σ QuestCatalog} (hr : r.prepare.val = .standard)
    (ctx : Context σ QuestCatalog) (name : String) (call : Call) :
    (Engine.mk r ctx).AnswerLaw name call ↔
      (BlankFirst call.args →
        (name = "start_quest" →
          ctx.quests.Startable ctx.ledger "" ∧ ctx.started call.time "" = ctx) ∧
        (name = "complete_quest" →
          ctx.quests.contains "" = true ∧ ctx.completed call.time "" = ctx)) := by
  rw [answerLaw_mk_iff hr]
  cases hb : Builtin.ofName? name with
  | none =>
    refine iff_of_true (answerLaw_unknown hb) fun _ => ⟨?_, ?_⟩
    · rintro rfl
      exact absurd hb (by decide)
    · rintro rfl
      exact absurd hb (by decide)
  | some b =>
    obtain rfl := Builtin.name_of_ofName? hb
    by_cases hs : b = .startQuest
    · subst hs
      rw [(transits_start ctx call).answerLaw_iff_blankFirst]
      refine imp_congr_right fun _ => ⟨fun h => ⟨fun _ => h, fun h => ?_⟩, fun h => h.1 rfl⟩
      exact absurd h (by decide)
    by_cases hc : b = .completeQuest
    · subst hc
      rw [(transits_complete ctx call).answerLaw_iff_blankFirst]
      refine imp_congr_right fun _ => ⟨fun h => ⟨fun h => ?_, fun _ => h⟩, fun h => h.2 rfl⟩
      exact absurd h (by decide)
    refine iff_of_true (answerLaw_other hs hc) fun _ => ⟨fun h => ?_, fun h => ?_⟩
    · exact absurd (Builtin.name_injective h) hs
    · exact absurd (Builtin.name_injective h) hc

/-- A registry on its first use, and a completion of a quest that the catalog does not know. -/
theorem answerLaw_iff_unused :
    let r : Registry MemoryFlags QuestCatalog := {}
    let e : Engine MemoryFlags QuestCatalog := ⟨r, { Context.inMemory with quests := .single "q1" }⟩
    let call : Call := { args := ["q2"] }
    r.prepare.val = .standard ∧ (e.invoke "complete_quest" call).val.1 = none ∧
      (e.invoke "complete_quest" call).val.2.context = e.context ∧
      HasFault (e.invoke "complete_quest" call).log := by
  intro r e call
  have hblank : ¬ BlankFirst call.args := by
    rintro ⟨extra, -, h⟩
    exact absurd (List.cons.inj h).1 (by decide)
  have hlaw := (answerLaw_iff (r := r) rfl e.context "complete_quest" call).2 (absurd · hblank)
  have hnone := hlaw.none_iff.2 (.complete "q2" rfl rfl (by decide) (by decide))
  exact ⟨rfl, hnone, hlaw.fault (.inl hnone)⟩

/-- An empty id before another argument is refused, where the rule has it ignored. -/
theorem not_answerLaw_blankFirst :
    let ctx : Context MemoryFlags QuestCatalog := { Context.inMemory with quests := .single "q1" }
    ¬ (ofContext ctx).val.AnswerLaw "start_quest" { args := ["", "q1"] } := by
  intro ctx h
  rcases h.none_iff.1 (by decide +kernel) with h | ⟨id, -, hid, hne, -⟩ | ⟨id, h, -⟩
  · exact h .startQuest rfl
  · exact hne (Option.some.inj hid).symm
  · exact absurd h (by decide)

end Engine

end Questline
