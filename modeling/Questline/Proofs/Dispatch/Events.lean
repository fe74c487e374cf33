import Questline.Proofs.Dispatch.Invocation

/-!
What invocations log. Every notice of a plan is in the log, and an invocation that answers nothing
logs a fault. A registry that has not been used yet first registers the built-in commands, and is
then like any other.
-/

namespace Questline

def Notice.IsFault (n : Notice) : Prop := n.level = .warn ∨ n.level = .error

def HasFault (log : List Event) : Prop := ∃ e ∈ log, e.notice.IsFault

lemma hasFault_append {xs ys : List Event} : HasFault (xs ++ ys) ↔ HasFault xs ∨ HasFault ys := by
  simp only [HasFault, List.mem_append, or_and_right, exists_or]

lemma hasFault_singleton {e : Event} : HasFault [e] ↔ e.notice.IsFault := by
  simp only [HasFault, List.mem_singleton, exists_eq_left]

lemma HasFault.mark {log : List Event} (h : HasFault log) (span : Span) :
    HasFault (log.map fun e => { e with span := some span }) := by
  obtain ⟨e, he, hf⟩ := h
  exact ⟨{ e with span := some span }, List.mem_map_of_mem he, hf⟩

/-- Every notice among some effects is logged. -/
lemma Effect.hasFault_applyAll {σ : Type} [FlagStore σ] (s : σ) {es : List Effect} {n : Notice}
    (hn : n.IsFault) (h : .note n ∈ es) : HasFault (applyAll s es).log := by
  induction es generalizing s with
  | nil => cases h
  | cons e es ih =>
    rw [applyAll_cons, Logged.log_bind, hasFault_append]
    rcases List.mem_cons.1 h with rfl | h
    · exact .inl (hasFault_singleton.2 hn)
    · exact .inr (ih _ h)

namespace Engine

variable {σ μ : Type} [FlagStore σ] [QuestManager μ]

/-- An invocation by the name of a built-in command logs what the plan logs and what its answer
comes to, all marked with the invocation. -/
theorem log_invoke_name (ctx : Context σ μ) (b : Builtin) (call : Call) :
    ((ofContext ctx).val.invoke b.name call).log =
      ((Effect.applyAll ctx.flags (b.plan ctx.view call).effects).log ++
        (Registry.settle b.name call.site (.ofAnswer (b.plan ctx.view call).answer)).log).map
        fun e => { e with span := some ⟨b.name, call.site⟩ } := by
  have hb : (Registry.standard : Registry σ μ).commands[b.name]? = some b.command := by
    rw [Registry.commands_standard, Builtin.ofName?_name]
    rfl
  simp only [val_ofContext, invoke, Registry.execute, Registry.prepare_standard, pure_bind, hb,
    Registry.invoke, Builtin.command, Logged.log_bind, Logged.log_pure, Logged.within,
    Context.perform, Logged.val_bind, Logged.val_pure, List.append_nil]

theorem log_invoke_unknown (ctx : Context σ μ) {name : String} (h : Builtin.ofName? name = none)
    (call : Call) : ((ofContext ctx).val.invoke name call).log =
      [⟨.unknownCommand name call.site, none⟩] := by
  have hb : (Registry.standard : Registry σ μ).commands[name]? = none := by
    rw [Registry.commands_standard, h]
    rfl
  simp only [val_ofContext, invoke, Registry.execute, Registry.prepare_standard, pure_bind, hb,
    Logged.log_bind, Logged.log_note, Logged.log_pure, List.append_nil]

lemma hasFault_of_report (ctx : Context σ μ) {b : Builtin} {call : Call} {n : Notice}
    (hn : n.IsFault) (h : .note n ∈ (b.plan ctx.view call).effects) :
    HasFault ((ofContext ctx).val.invoke b.name call).log := by
  rw [log_invoke_name]
  exact (hasFault_append.2 (.inl (Effect.hasFault_applyAll ctx.flags hn h))).mark _

/-- An invocation that answers nothing logs a fault. -/
theorem hasFault_of_none (ctx : Context σ μ) {name : String} {call : Call}
    (h : ((ofContext ctx).val.invoke name call).val.1 = none) :
    HasFault ((ofContext ctx).val.invoke name call).log := by
  cases hb : Builtin.ofName? name with
  | none =>
    rw [log_invoke_unknown ctx hb]
    exact hasFault_singleton.2 (.inl rfl)
  | some b =>
    obtain rfl := Builtin.name_of_ofName? hb
    rw [val_invoke_name] at h
    rw [log_invoke_name]
    cases ha : (b.plan ctx.view call).answer with
    | ok d => rw [ha] at h; cases h
    | error cause =>
      have hsettle : HasFault (Registry.settle b.name call.site (.ofAnswer (.error cause))).log :=
        hasFault_singleton.2 (.inr rfl)
      exact (hasFault_append.2 (.inr hsettle)).mark _

lemma not_hasFault_prepare (r : Registry σ μ) : ¬ HasFault r.prepare.log := by
  rw [Registry.prepare]
  split
  · rintro ⟨e, he, -⟩
    cases he
  · intro h
    rcases hasFault_singleton.1 h with h | h <;> cases h

/-- An engine whose registry comes to that of the built-in commands is like one that starts with it,
but for what getting there logs. -/
lemma invoke_of_prepare {r : Registry σ μ} (hr : r.prepare.val = .standard) (ctx : Context σ μ)
    (name : String) (call : Call) :
    (Engine.mk r ctx).invoke name call =
      ⟨((ofContext ctx).val.invoke name call).val,
        r.prepare.log ++ ((ofContext ctx).val.invoke name call).log⟩ := by
  have hexecute : r.execute name ctx call =
      ⟨(Registry.standard.execute name ctx call).val,
        r.prepare.log ++ (Registry.standard.execute name ctx call).log⟩ := by
    refine Logged.ext ?_ ?_
    · simp only [Registry.execute, Registry.prepare_standard, pure_bind, Logged.val_bind, hr]
    · simp only [Registry.execute, Registry.prepare_standard, pure_bind, Logged.log_bind, hr]
  refine Logged.ext ?_ ?_
  · simp only [invoke, hexecute, Logged.val_bind, val_ofContext]
  · simp only [invoke, hexecute, Logged.log_bind, val_ofContext, List.append_assoc]

end Engine

end Questline
