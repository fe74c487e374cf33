import Questline.Proofs.Dispatch.Invocation

/-!
Which command a registry runs under a name. Whatever a registry is asked for first, it begins by
registering the built-in commands, and later requests find that done. So a name is bound to the
command that was last registered under it, else to the built-in command of the name, and it makes no
difference when the built-in commands came.
-/

namespace Questline

namespace Outcome

def decision? : Outcome → Option Decision
  | decided decision => some decision
  | _ => none

lemma decision?_ofAnswer (answer : Except CommandError Decision) :
    (ofAnswer answer).decision? = answer.toOption := by
  cases answer <;> rfl

def notice (name : String) (site : CallSite) : Outcome → Notice
  | decided decision => .finished decision
  | failed cause => .failed name site cause
  | panicked text => .panicked name site (text.getD "unknown panic")

lemma level_notice (name : String) (site : CallSite) (o : Outcome) :
    (o.notice name site).level = if o.decision?.isSome then .debug else .error := by
  cases o <;> rfl

end Outcome

namespace Registry

variable {σ μ : Type}

/-- What a registry can be asked for. An execution brings the context to run on. -/
inductive Request (σ μ : Type) where
  | prepare
  | register (command : Command σ μ)
  | contains (name : String)
  | names
  | execute (name : String) (ctx : Context σ μ) (call : Call)

inductive Reply (σ μ : Type) where
  | done
  | contains (known : Bool)
  | names (names : List String)
  /-- The answer of an execution, and the context that it leaves. -/
  | executed (answer : Option Decision) (ctx : Context σ μ)

def Request.command? : Request σ μ → Option (Command σ μ)
  | register c => some c
  | _ => none

def registered (qs : List (Request σ μ)) : List (Command σ μ) := qs.filterMap Request.command?

lemma commands_foldl_register (cs : List (Command σ μ)) (r : Registry σ μ) (name : String) :
    (cs.foldl bind r).commands[name]? =
      (cs.reverse.find? fun c => c.name == name).or r.commands[name]? := by
  induction cs generalizing r with
  | nil => rfl
  | cons c cs ih =>
    rw [List.foldl_cons, ih, commands_bind, List.reverse_cons, List.find?_append, Option.or_assoc,
      List.find?_singleton]
    by_cases h : c.name = name <;> simp [h]

lemma ready_foldl_register (cs : List (Command σ μ)) (r : Registry σ μ) :
    (cs.foldl bind r).ready = r.ready := by
  induction cs generalizing r with
  | nil => rfl
  | cons c cs ih => rw [List.foldl_cons, ih]; rfl

variable [FlagStore σ] [QuestManager μ]

/-! ### The built-in commands come first, and once -/

lemma prepare_of_ready {r : Registry σ μ} (h : r.ready = true) : r.prepare = pure r := if_pos h

lemma ready_prepare (r : Registry σ μ) : r.prepare.val.ready = true := by
  by_cases h : r.ready = true
  · rw [prepare_of_ready h]
    exact h
  · rw [prepare, if_neg h]
    exact ready_foldl_bind _ _

@[simp] lemma prepare_prepare (r : Registry σ μ) : r.prepare.val.prepare = pure r.prepare.val :=
  prepare_of_ready r.ready_prepare

lemma level_of_mem_log_prepare (r : Registry σ μ) :
    ∀ e ∈ r.prepare.log, e.notice.level = .debug := by
  rw [prepare]
  split
  · intro e he
    cases he
  · intro e he
    rw [List.mem_singleton.1 he]
    rfl

/-! ### Requests -/

def meet (r : Registry σ μ) : Request σ μ → Logged (Reply σ μ × Registry σ μ)
  | .prepare => do
    let r ← r.prepare
    pure (.done, r)
  | .register c => do
    let r ← r.register c
    pure (.done, r)
  | .contains name => do
    let (known, r) ← r.contains name
    pure (.contains known, r)
  | .names => do
    let (names, r) ← r.names
    pure (.names names, r)
  | .execute name ctx call => do
    let (answer, r, ctx) ← r.execute name ctx call
    pure (.executed answer ctx, r)

def after (r : Registry σ μ) (qs : List (Request σ μ)) : Registry σ μ :=
  qs.foldl (fun r q => (r.meet q).val.2) r

def replies (r : Registry σ μ) : List (Request σ μ) → List (Reply σ μ)
  | [] => []
  | q :: qs => (r.meet q).val.1 :: (r.meet q).val.2.replies qs

@[simp] lemma after_nil (r : Registry σ μ) : r.after [] = r := rfl

@[simp] lemma after_cons (r : Registry σ μ) (q : Request σ μ) (qs : List (Request σ μ)) :
    r.after (q :: qs) = (r.meet q).val.2.after qs := rfl

@[simp] lemma replies_cons (r : Registry σ μ) (q : Request σ μ) (qs : List (Request σ μ)) :
    r.replies (q :: qs) = (r.meet q).val.1 :: (r.meet q).val.2.replies qs := rfl

/-- Every request finds the registry as if it had been prepared. -/
lemma meet_prepare (r : Registry σ μ) (q : Request σ μ) :
    (r.prepare.val.meet q).val = (r.meet q).val := by
  cases q with
  | prepare => simp only [meet, prepare_prepare, pure_bind, Logged.val_bind]
  | register c =>
    simp only [meet, register, prepare_prepare, pure_bind, Logged.val_bind, Logged.val_pure]
  | contains name =>
    simp only [meet, contains, prepare_prepare, pure_bind, Logged.val_bind, Logged.val_pure]
  | names =>
    simp only [meet, names, prepare_prepare, pure_bind, Logged.val_bind, Logged.val_pure]
  | execute name ctx call =>
    simp only [meet, execute, prepare_prepare, pure_bind, Logged.val_bind]

/-- **One request**: the registry is prepared, and then gets the command that the request
registers, if it does. -/
lemma registry_meet (r : Registry σ μ) (q : Request σ μ) :
    (r.meet q).val.2 = q.command?.toList.foldl bind r.prepare.val := by
  cases q with
  | prepare | register c | contains name | names => rfl
  | execute name ctx call =>
    simp only [meet, execute, Logged.val_bind]
    split <;> rfl

/-- **All requests**: a registry comes to what it was prepared to be, with the commands that the
requests register. -/
lemma prepare_after (r : Registry σ μ) (qs : List (Request σ μ)) :
    (r.after qs).prepare.val = (registered qs).foldl bind r.prepare.val := by
  induction qs generalizing r with
  | nil => rfl
  | cons q qs ih =>
    have hready : (r.meet q).val.2.ready = true := by
      rw [registry_meet, ready_foldl_register, ready_prepare]
    rw [after_cons, ih, prepare_of_ready hready, Logged.val_pure, registry_meet,
      ← List.foldl_append]
    cases q <;> rfl

lemma replies_congr {r r' : Registry σ μ} (h : r.prepare.val = r'.prepare.val)
    (qs : List (Request σ μ)) : r.replies qs = r'.replies qs := by
  cases qs with
  | nil => rfl
  | cons q qs => rw [replies_cons, replies_cons, ← meet_prepare r, ← meet_prepare r', h]

/-! ### Bindings -/

/-- The command of a name after some commands were registered in order: the last one of the name,
else the built-in command of the name. -/
def binding (cs : List (Command σ μ)) (name : String) : Option (Command σ μ) :=
  (cs.reverse.find? fun c => c.name == name).or ((Builtin.ofName? name).map Builtin.command)

lemma commands_prepare_after (qs : List (Request σ μ)) (name : String) :
    (after {} qs : Registry σ μ).prepare.val.commands[name]? = binding (registered qs) name := by
  have hstandard : ({} : Registry σ μ).prepare.val = standard := rfl
  rw [prepare_after, commands_foldl_register, hstandard, commands_standard, binding]

/-- All that a registry shows of the commands that it has under names. -/
structure Binds (r : Registry σ μ) (command? : String → Option (Command σ μ)) : Prop where
  ascending : r.names.val.1.Pairwise (· < ·)
  mem_names (name : String) : name ∈ r.names.val.1 ↔ (command? name).isSome = true
  contains_iff (name : String) : (r.contains name).val.1 = true ↔ name ∈ r.names.val.1
  /-- A name without a command answers nothing, and this is logged. -/
  unknown (name : String) (ctx : Context σ μ) (call : Call) : command? name = none →
    (r.execute name ctx call).val.1 = none ∧ (r.execute name ctx call).val.2.2 = ctx ∧
      (r.execute name ctx call).log = r.prepare.log ++ [⟨.unknownCommand name call.site, none⟩]
  /-- The command of a name runs on the context, which stays as the command leaves it, and the log
  gets its events and one about its end. -/
  runs (name : String) (ctx : Context σ μ) (call : Call) (c : Command σ μ) :
    command? name = some c →
    (r.execute name ctx call).val.1 = (c.execute ctx call).val.1.decision? ∧
      (r.execute name ctx call).val.2.2 = (c.execute ctx call).val.2 ∧
      (r.execute name ctx call).log = r.prepare.log ++
        ((c.execute ctx call).log.map fun e => { e with span := some ⟨name, call.site⟩ }) ++
        [⟨(c.execute ctx call).val.1.notice name call.site, some ⟨name, call.site⟩⟩]

lemma settle_eq (name : String) (site : CallSite) (o : Outcome) :
    settle name site o = ⟨o.decision?, [⟨o.notice name site, none⟩]⟩ := by
  cases o <;> rfl

lemma binds_of_commands {r : Registry σ μ} {command? : String → Option (Command σ μ)}
    (h : ∀ name, r.prepare.val.commands[name]? = command? name) : r.Binds command? where
  ascending := by
    have hkeys : r.names.val.1.Pairwise fun a b => compare a b = .lt :=
      Std.ExtTreeMap.ordered_keys
    exact hkeys.imp compareOfLessAndEq_eq_lt.1
  mem_names name := by
    rw [← h, Std.ExtTreeMap.isSome_getElem?_iff_mem]
    exact Std.ExtTreeMap.mem_keys
  contains_iff name := Std.ExtTreeMap.contains_iff_mem.trans Std.ExtTreeMap.mem_keys.symm
  unknown name ctx call hnone := by
    rw [← h] at hnone
    simp only [execute, hnone, Logged.val_bind, Logged.val_pure, Logged.log_bind, Logged.log_note,
      Logged.log_pure, List.append_nil, and_self]
  runs name ctx call c hsome := by
    rw [← h] at hsome
    simp only [execute, hsome, invoke, settle_eq, Logged.val_bind, Logged.val_pure, Logged.log_bind,
      Logged.log_pure, Logged.within, List.append_nil, List.map_append, List.append_assoc,
      List.map_cons, List.map_nil, and_self]

lemma binds_after (qs : List (Request σ μ)) :
    (after {} qs : Registry σ μ).Binds (binding (registered qs)) :=
  binds_of_commands (commands_prepare_after qs)

/-- **Bindings of a registry**: after any requests to a new registry, a name is bound to the last
command registered under it, else to the built-in command of the name. A request that registers
nothing changes no binding, requests that register the same lead to the same replies, and a registry
that is prepared beforehand replies as one that is not. The log tells an unknown name by a warning,
and a command that comes to no decision by an error. -/
theorem registry_binds_last (qs : List (Request σ μ)) :
    let r : Registry σ μ := after {} qs
    r.Binds (binding (registered qs)) ∧
      (∀ q, q.command? = none → (r.meet q).val.2.Binds (binding (registered qs))) ∧
      (∀ qs', registered qs' = registered qs →
        ∀ later, (after {} qs' : Registry σ μ).replies later = r.replies later) ∧
      (standard : Registry σ μ).replies qs = replies {} qs ∧
      (∀ e ∈ r.prepare.log, e.notice.level = .debug) ∧
      (∀ name site, (Notice.unknownCommand name site).level = .warn) ∧
      ∀ (o : Outcome) name site,
        (o.notice name site).level = if o.decision?.isSome then .debug else .error := by
  intro r
  refine ⟨binds_after qs, fun q hq => ?_, fun qs' h => replies_congr ?_, replies_congr ?_ qs,
    level_of_mem_log_prepare r, fun _ _ => rfl, fun o name site => o.level_notice name site⟩
  · have hregistered : registered (qs ++ [q]) = registered qs := by
      simp [registered, hq]
    have hafter : (after {} (qs ++ [q]) : Registry σ μ) = (r.meet q).val.2 := List.foldl_append
    rw [← hregistered, ← hafter]
    exact binds_after _
  · rw [prepare_after, prepare_after, h]
  · rw [prepare_standard]
    rfl

/-- A command that takes the place of a built-in one, writes a flag and then panics. It is still the
command of the name when it has done so once. -/
theorem registry_binds_last_panicking :
    let c : Command MemoryFlags QuestCatalog :=
      { name := "set_flag"
        execute := fun ctx _ => do
          let flags ← FlagStore.set ctx.flags "marker" 1
          pure (.panicked (some "boom"), { ctx with flags }) }
    let qs : List (Request MemoryFlags QuestCatalog) :=
      [.prepare, .register c, .execute "set_flag" .inMemory { args := ["gold", "5"] }]
    let again := (after {} qs).execute "set_flag" .inMemory { args := ["gold", "5"] }
    binding (registered qs) "set_flag" = some c ∧ again.val.1 = none ∧
      FlagStore.get again.val.2.2.flags "marker" 0 = 1 ∧
      FlagStore.has again.val.2.2.flags "gold" = false := by
  intro c qs again
  have hc : binding (registered qs) "set_flag" = some c := rfl
  obtain ⟨hanswer, hctx, -⟩ :=
    (registry_binds_last qs).1.runs "set_flag" .inMemory { args := ["gold", "5"] } c hc
  refine ⟨hc, hanswer, ?_⟩
  rw [hctx]
  decide +kernel

end Registry

namespace Engine

variable {σ μ : Type} [FlagStore σ] [QuestManager μ]

lemma val_invoke_of_bound {e : Engine σ μ} {name : String}
    {c : Command σ μ} (hc : e.registry.prepare.val.commands[name]? = some c) (call : Call) :
    (e.invoke name call).val = ((c.execute e.context call).val.1.decision?,
      ⟨e.registry.prepare.val, (c.execute e.context call).val.2⟩) := by
  simp only [invoke, Registry.execute, Registry.invoke, Registry.settle_eq, hc, Logged.val_bind,
    Logged.val_within, Logged.val_pure]

lemma val_invoke_of_unbound {e : Engine σ μ} {name : String}
    (hc : e.registry.prepare.val.commands[name]? = none) (call : Call) :
    (e.invoke name call).val = (none, ⟨e.registry.prepare.val, e.context⟩) := by
  simp only [invoke, Registry.execute, hc, Logged.val_bind, Logged.val_pure]

lemma registry_invoke (e : Engine σ μ) (name : String) (call : Call) :
    (e.invoke name call).val.2.registry = e.registry.prepare.val := by
  cases hc : e.registry.prepare.val.commands[name]? with
  | none => rw [val_invoke_of_unbound hc]
  | some c => rw [val_invoke_of_bound hc]

end Engine

end Questline
