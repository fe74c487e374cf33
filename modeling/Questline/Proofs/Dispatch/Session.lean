import Mathlib.Data.List.Induction
import Questline.Proofs.Dispatch.Locality
import Questline.Proofs.Flags.Fields

/-!
Dialogue sessions over flags in memory. A check looks for a quest to jump to, and the first one of a
session that finds something decides: until the session is cleared, no later check changes a flag.
-/

namespace Questline

/-- What a script does to the session: it checks for a quest, or clears the session. -/
inductive SessionMove where
  | check (call : Call)
  | clear (call : Call)

namespace SessionMove

def builtin : SessionMove → Builtin
  | check _ => .checkQuestAvailable
  | clear _ => .clearSession

def call : SessionMove → Call
  | check call => call
  | clear call => call

def invocation (m : SessionMove) : String × Call := (m.builtin.name, m.call)

def isCheck : SessionMove → Bool
  | check _ => true
  | clear _ => false

/-- A check among some moves, after `xs` and before `ys`, in the session that is open at the end:
none of the moves after it clears the session. -/
structure InSession (ms xs : List SessionMove) (call : Call) (ys : List SessionMove) : Prop where
  split : ms = xs ++ check call :: ys
  stays : ∀ m ∈ ys, m.isCheck = true

variable {ms xs ys : List SessionMove} {m : SessionMove} {call : Call}

lemma not_inSession_nil : ¬ InSession [] xs call ys := fun h => by simpa using h.split

/-- A check of the open session is the last move, or the last move is another check and the session
was open before it. -/
lemma inSession_concat : InSession (ms ++ [m]) xs call ys ↔
    (xs = ms ∧ m = check call ∧ ys = []) ∨
      ∃ zs, ys = zs ++ [m] ∧ m.isCheck = true ∧ InSession ms xs call zs := by
  constructor
  · rintro ⟨hsplit, hstays⟩
    rcases List.eq_nil_or_concat ys with rfl | ⟨zs, m', rfl⟩
    · obtain ⟨hms, hm⟩ := List.append_inj' hsplit rfl
      exact .inl ⟨hms.symm, List.singleton_inj.1 hm, rfl⟩
    · have hsplit' : ms ++ [m] = (xs ++ check call :: zs) ++ [m'] := by simpa using hsplit
      obtain ⟨hms, hm⟩ := List.append_inj' hsplit' rfl
      obtain rfl := List.singleton_inj.1 hm
      exact .inr ⟨zs, by simp, hstays m (by simp), hms, fun a ha => hstays a (by simp [ha])⟩
  · rintro (⟨rfl, rfl, rfl⟩ | ⟨zs, rfl, hm, hsplit, hstays⟩)
    · exact ⟨rfl, by simp⟩
    · refine ⟨by simp [hsplit], fun a ha => ?_⟩
      rcases List.mem_append.1 ha with ha | ha
      · exact hstays a ha
      · rw [List.mem_singleton.1 ha, hm]

end SessionMove

/-! ### One move -/

/-- A check that finds a quest: it names one that is on offer, and a label. -/
structure View.Finds {μ : Type} [QuestManager μ] (v : View μ) (call : Call) (label : String) :
    Prop where
  offered : ∃ id rest, call.args = id :: label :: rest ∧ id ≠ "" ∧
    QuestManager.isAvailable v.quests v.ledger id = true
  label_ne : label ≠ ""

namespace Offers

variable {μ : Type} [QuestManager μ] {v : View μ} {call : Call}

lemma writes_check_of_found (h : Session.questFound.read v.flags = true) :
    (checkQuestAvailable v call).writes = [] := by
  rw [checkQuestAvailable]
  split
  · rfl
  · simp [h]

lemma writes_check_of_finds (hfound : Session.questFound.read v.flags = false) {label : String}
    (h : v.Finds call label) : (checkQuestAvailable v call).writes =
      [Session.questFound.write true, Session.jumpTarget.write (JumpLabel.ofAlias label)] := by
  obtain ⟨⟨id, rest, hargs, hid, havailable⟩, hlabel⟩ := h
  have hhead : call.args.head?.filter (· ≠ "") = some id := by simp [hargs, hid]
  have hsecond : call.args[1]?.getD "" = label := by simp [hargs]
  simp only [checkQuestAvailable, hhead, hsecond, hfound, havailable, hlabel]
  -- the notice about an unknown label writes nothing
  split_ifs <;> simp_all [List.filterMap_cons]

lemma writes_check_of_not_finds (h : ∀ label, ¬ v.Finds call label) :
    (checkQuestAvailable v call).writes = [] := by
  rw [checkQuestAvailable]
  split
  · rfl
  · next id hid =>
    dsimp only
    split_ifs with hfound havailable hlabel hdoubt
    · rfl
    · rfl
    · rfl
    -- all conditions of a find are met
    all_goals
      refine absurd ⟨⟨id, call.args.drop 2, ?_⟩, hlabel⟩ (h (call.args[1]?.getD ""))
      obtain ⟨hhead, hne⟩ := Option.filter_eq_some_iff.1 hid
      refine ⟨?_, by simpa using hne, by simpa using havailable⟩
      rcases hargs : call.args with _ | ⟨a, _ | ⟨b, rest⟩⟩
      · simp [hargs] at hhead
      · simp [hargs] at hlabel
      · simpa [hargs] using hhead

end Offers

namespace Context

variable {μ : Type} [QuestManager μ] {ctx : Context MemoryFlags μ} {call : Call}

lemma after_check_of_writes_nil (h : (Offers.checkQuestAvailable ctx.view call).writes = []) :
    ctx.after .checkQuestAvailable call = ctx := by
  have hwrites : (Builtin.plan .checkQuestAvailable ctx.view call).writes = [] := h
  have hquests : (Builtin.plan .checkQuestAvailable ctx.view call).quests = ctx.quests :=
    (Offers.checkQuestAvailable_within ctx.view call).quests
  simp only [after, hwrites, hquests]
  rfl

lemma after_check_of_found (h : Session.questFound.get ctx.flags = true) :
    ctx.after .checkQuestAvailable call = ctx :=
  after_check_of_writes_nil (Offers.writes_check_of_found h)

lemma after_check_of_not_finds (h : ∀ label, ¬ ctx.view.Finds call label) :
    ctx.after .checkQuestAvailable call = ctx :=
  after_check_of_writes_nil (Offers.writes_check_of_not_finds h)

/-- The first check that finds a quest says so, and keeps what its label names. -/
lemma slots_after_check (hfound : Session.questFound.get ctx.flags = false) {label : String}
    (h : ctx.view.Finds call label) :
    Session.questFound.get (ctx.after .checkQuestAvailable call).flags = true ∧
      Session.jumpTarget.get (ctx.after .checkQuestAvailable call).flags =
        JumpLabel.ofAlias label := by
  have hfound' : Session.questFound.read ctx.view.flags = false := hfound
  have hwrites : (Builtin.plan .checkQuestAvailable ctx.view call).writes = _ :=
    Offers.writes_check_of_finds hfound' h
  rw [Field.get, Field.get, get_after, hwrites, FlagReader.writeAll_cons, FlagReader.writeAll_cons,
    FlagReader.writeAll_nil]
  constructor
  · rw [Field.read_write_of_ne _ _ (by decide), Field.read_write]
    rfl
  · rw [Field.read_write, Session.jumpTarget, Field.decode_encode_coded]

structure Fresh (ctx : Context MemoryFlags μ) : Prop where
  questFound : Session.questFound.get ctx.flags = false
  jumpTarget : Session.jumpTarget.get ctx.flags = .none
  autoDialogNpc : Session.autoDialogNpc.get ctx.flags = 0
  arenaResult : Session.arenaResult.get ctx.flags = .none

lemma fresh_after_clear (ctx : Context MemoryFlags μ) (call : Call) :
    (ctx.after .clearSession call).Fresh := by
  have hwrites : (Builtin.plan .clearSession ctx.view call).writes = Session.cleared := rfl
  -- all writes are of zero
  have hread {α : Type} (f : Field α) (hf : f.key ∈ Session.keys) :
      f.get (ctx.after .clearSession call).flags = f.decode 0 := by
    rw [Field.get, get_after, hwrites]
    exact congrArg f.decode (FlagReader.writeAll_of_forall_eq _ (by decide) hf 0)
  exact ⟨(hread Session.questFound (by decide)).trans rfl,
    (hread Session.jumpTarget (by decide)).trans rfl,
    (hread Session.autoDialogNpc (by decide)).trans rfl,
    (hread Session.arenaResult (by decide)).trans rfl⟩

/-! ### Runs -/

def turns (ctx : Context MemoryFlags μ) (ms : List SessionMove) : Context MemoryFlags μ :=
  ((Engine.ofContext ctx).val.run (ms.map SessionMove.invocation)).context

@[simp] lemma turns_nil (ctx : Context MemoryFlags μ) : ctx.turns [] = ctx := rfl

lemma turns_concat (ctx : Context MemoryFlags μ) (ms : List SessionMove) (m : SessionMove) :
    ctx.turns (ms ++ [m]) = (ctx.turns ms).after m.builtin m.call := by
  obtain ⟨ctx', hrun⟩ := Engine.exists_context_run ctx (ms.map SessionMove.invocation)
  rw [turns, turns, List.map_append, Engine.run_append, hrun, List.map_singleton, Engine.run_cons,
    Engine.run_nil, SessionMove.invocation, Engine.val_invoke_name]
  rfl

lemma turns_check (ctx : Context MemoryFlags μ) (ms : List SessionMove) (call : Call) :
    ctx.turns (ms ++ [.check call]) = (ctx.turns ms).after .checkQuestAvailable call :=
  turns_concat ctx ms (.check call)

lemma turns_clear (ctx : Context MemoryFlags μ) (ms : List SessionMove) (call : Call) :
    ctx.turns (ms ++ [.clear call]) = (ctx.turns ms).after .clearSession call :=
  turns_concat ctx ms (.clear call)

/-- Once a session has found a quest, nothing changes until it is cleared. -/
lemma turns_of_found {ms ys : List SessionMove}
    (h : Session.questFound.get (ctx.turns ms).flags = true) (hys : ∀ m ∈ ys, m.isCheck = true) :
    ctx.turns (ms ++ ys) = ctx.turns ms := by
  induction ys using List.reverseRecOn with
  | nil => rw [List.append_nil]
  | append_singleton ys m ih =>
    have ih := ih fun a ha => hys a (List.mem_append_left _ ha)
    cases m with
    | clear c => simpa [SessionMove.isCheck] using hys (.clear c) (by simp)
    | check c => rw [← List.append_assoc, turns_check, ih, after_check_of_found h]

/-- **Found or not**: from a session that has found nothing, a run ends in one that has found a
quest exactly if a check of the open session finds one when it is made. -/
lemma questFound_turns_iff (h0 : Session.questFound.get ctx.flags = false) (ms : List SessionMove) :
    Session.questFound.get (ctx.turns ms).flags = true ↔ ∃ xs call ys label,
      SessionMove.InSession ms xs call ys ∧ (ctx.turns xs).view.Finds call label := by
  induction ms using List.reverseRecOn with
  | nil =>
    refine iff_of_false (by simp [h0]) ?_
    rintro ⟨xs, call, ys, label, h, -⟩
    exact SessionMove.not_inSession_nil h
  | append_singleton ms m ih =>
    simp only [SessionMove.inSession_concat]
    cases m with
    | clear c =>
      refine iff_of_false (by simp [turns_clear, (fresh_after_clear _ c).questFound]) ?_
      rintro ⟨xs, call, ys, label, ⟨-, hm, -⟩ | ⟨zs, -, hm, -⟩, -⟩ <;> cases hm
    | check c =>
      rw [turns_check]
      cases hfound : Session.questFound.get (ctx.turns ms).flags with
      | true =>
        rw [after_check_of_found hfound]
        obtain ⟨xs, call, ys, label, hsplit, hfinds⟩ := ih.1 hfound
        refine iff_of_true hfound ⟨xs, call, _, label, .inr ⟨ys, rfl, rfl, hsplit⟩, hfinds⟩
      | false =>
        have hnone : ¬ ∃ xs call ys label,
            SessionMove.InSession ms xs call ys ∧ (ctx.turns xs).view.Finds call label := by
          rw [← ih, hfound]
          exact Bool.false_ne_true
        by_cases hfinds : ∃ label, (ctx.turns ms).view.Finds c label
        · obtain ⟨label, hfinds⟩ := hfinds
          exact iff_of_true (slots_after_check hfound hfinds).1
            ⟨ms, c, [], label, .inl ⟨rfl, rfl, rfl⟩, hfinds⟩
        · rw [after_check_of_not_finds (not_exists.1 hfinds), hfound]
          refine iff_of_false Bool.false_ne_true ?_
          rintro ⟨xs, call, ys, label, ⟨rfl, hm, -⟩ | ⟨zs, -, -, hsplit⟩, hlabel⟩
          · cases hm
            exact hfinds ⟨label, hlabel⟩
          · exact hnone ⟨xs, call, zs, label, hsplit, hlabel⟩

/-- The check of the open session that found its quest: none before it in the session finds one. -/
structure FirstFind (ctx : Context MemoryFlags μ) (ms xs : List SessionMove) (call : Call)
    (ys : List SessionMove) (label : String) : Prop where
  inSession : SessionMove.InSession ms xs call ys
  finds : (ctx.turns xs).view.Finds call label
  first : ∀ xs' call' ys' label', SessionMove.InSession xs xs' call' ys' →
    ¬ (ctx.turns xs').view.Finds call' label'

lemma exists_firstFind (h0 : Session.questFound.get ctx.flags = false) {ms : List SessionMove}
    (h : Session.questFound.get (ctx.turns ms).flags = true) :
    ∃ xs call ys label, ctx.FirstFind ms xs call ys label := by
  induction ms using List.reverseRecOn with
  | nil => simp [h0] at h
  | append_singleton ms m ih =>
    cases hfound : Session.questFound.get (ctx.turns ms).flags with
    | true =>
      obtain ⟨xs, call, ys, label, hsplit, hfinds, hfirst⟩ := ih hfound
      cases m with
      | clear c => simp [turns_clear, (fresh_after_clear _ c).questFound] at h
      | check c =>
        have hsplit' : SessionMove.InSession (ms ++ [.check c]) xs call (ys ++ [.check c]) :=
          SessionMove.inSession_concat.2 (.inr ⟨ys, rfl, rfl, hsplit⟩)
        exact ⟨xs, call, _, label, hsplit', hfinds, hfirst⟩
    | false =>
      -- the last move is the one that finds
      obtain ⟨xs, call, ys, label, hsplit, hfinds⟩ := (questFound_turns_iff h0 _).1 h
      have hnone : ∀ xs' call' ys' label', SessionMove.InSession ms xs' call' ys' →
          ¬ (ctx.turns xs').view.Finds call' label' := by
        intro xs' call' ys' label' hsplit' hfinds'
        have := (questFound_turns_iff h0 ms).2 ⟨xs', call', ys', label', hsplit', hfinds'⟩
        simp [hfound] at this
      rcases SessionMove.inSession_concat.1 hsplit with ⟨rfl, -, -⟩ | ⟨zs, -, -, hsplit'⟩
      · exact ⟨xs, call, ys, label, hsplit, hfinds, hnone⟩
      · exact absurd hfinds (hnone _ _ _ _ hsplit')

namespace FirstFind

variable {ms xs ys : List SessionMove} {label : String}

/-- The first check that finds a quest keeps its label. -/
lemma slots (h0 : Session.questFound.get ctx.flags = false)
    (h : ctx.FirstFind ms xs call ys label) :
    Session.questFound.get (ctx.turns (xs ++ [.check call])).flags = true ∧
      Session.jumpTarget.get (ctx.turns (xs ++ [.check call])).flags = JumpLabel.ofAlias label := by
  have hfound : Session.questFound.get (ctx.turns xs).flags = false := by
    rw [← Bool.not_eq_true, questFound_turns_iff h0]
    rintro ⟨xs', call', ys', label', hsplit, hfinds⟩
    exact h.first xs' call' ys' label' hsplit hfinds
  rw [turns_check]
  exact slots_after_check hfound h.finds

/-- All later checks of the session leave the context as the first find left it. -/
lemma turns_eq (h0 : Session.questFound.get ctx.flags = false)
    (h : ctx.FirstFind ms xs call ys label) {zs ws : List SessionMove} (hys : ys = zs ++ ws) :
    ctx.turns (xs ++ .check call :: zs) = ctx.turns (xs ++ [.check call]) := by
  have hzs : ∀ m ∈ zs, m.isCheck = true := fun m hm =>
    h.inSession.stays m (hys ▸ List.mem_append_left _ hm)
  rw [← turns_of_found (h.slots h0).1 hzs, List.append_assoc, List.singleton_append]

end FirstFind

end Context

namespace Engine

variable {μ : Type} [QuestManager μ]

/-- **The first match wins**: over flags in memory, in a run of checks and clearings from a session
that has found nothing, the session that is open at the end has found a quest exactly if one of its
checks names a quest that is on offer at the time, and a label. Then the jump target is what the
label of the first such check names, and no later check of the session changes the flags. Whenever
the session is cleared, all its slots read as at the start. -/
theorem first_match_wins {ctx : Context MemoryFlags μ}
    (h0 : Session.questFound.get ctx.flags = false) (ms : List SessionMove) :
    (Session.questFound.get (ctx.turns ms).flags = true ↔ ∃ xs call ys label,
      SessionMove.InSession ms xs call ys ∧ (ctx.turns xs).view.Finds call label) ∧
    (Session.questFound.get (ctx.turns ms).flags = true → ∃ xs call ys label,
      ctx.FirstFind ms xs call ys label ∧
      Session.jumpTarget.get (ctx.turns ms).flags = JumpLabel.ofAlias label ∧
      ∀ zs c ws, ys = zs ++ .check c :: ws →
        (ctx.turns (xs ++ .check call :: (zs ++ [.check c]))).flags =
          (ctx.turns (xs ++ .check call :: zs)).flags) ∧
    ∀ xs c ys, ms = xs ++ .clear c :: ys → (ctx.turns (xs ++ [.clear c])).Fresh := by
  refine ⟨Context.questFound_turns_iff h0 ms, fun hfound => ?_, fun xs c ys _ => ?_⟩
  · obtain ⟨xs, call, ys, label, h⟩ := Context.exists_firstFind h0 hfound
    have hms : ctx.turns ms = ctx.turns (xs ++ [.check call]) := by
      rw [h.inSession.split]
      exact h.turns_eq h0 (List.append_nil ys).symm
    refine ⟨xs, call, ys, label, h, ?_, fun zs c ws hys => ?_⟩
    · rw [hms, (h.slots h0).2]
    · have hys' : ys = (zs ++ [.check c]) ++ ws := by simpa using hys
      rw [h.turns_eq h0 hys, h.turns_eq h0 hys']
  · rw [Context.turns_clear]
    exact Context.fresh_after_clear _ c

/-- A check without a label and one of an unknown quest find nothing, so the next one decides, and
the last one does not. -/
theorem first_match_wins_herbs :
    let ctx : Context MemoryFlags QuestCatalog := { flags := {}, quests := .single "herbs" }
    let check (args : List String) : SessionMove := .check { args }
    let ms : List SessionMove := [check ["herbs"], .clear {}, check ["ghost", "story_act2"],
      check ["herbs", " Start_Rank_F "], check ["herbs", "story_act3"]]
    Session.questFound.get (ctx.turns ms).flags = true ∧
      Session.jumpTarget.get (ctx.turns ms).flags = .startRankF ∧
      (∃ xs call ys label, ctx.FirstFind ms xs call ys label ∧
        Session.jumpTarget.get (ctx.turns ms).flags = JumpLabel.ofAlias label) ∧
      (ctx.turns (ms.take 2)).Fresh := by
  intro ctx check ms
  have h0 : Session.questFound.get ctx.flags = false := by decide +kernel
  obtain ⟨hiff, hfirst, hclear⟩ := first_match_wins h0 ms
  have hfinds : (ctx.turns (ms.take 3)).view.Finds { args := ["herbs", " Start_Rank_F "] }
      " Start_Rank_F " :=
    ⟨⟨"herbs", [], rfl, by decide, by decide +kernel⟩, by decide⟩
  have hfound : Session.questFound.get (ctx.turns ms).flags = true :=
    hiff.2 ⟨ms.take 3, _, ms.drop 4, _, ⟨rfl, by decide⟩, hfinds⟩
  obtain ⟨xs, call, ys, label, hff, htarget, -⟩ := hfirst hfound
  exact ⟨hfound, by decide +kernel, ⟨xs, call, ys, label, hff, htarget⟩,
    hclear (ms.take 1) {} (ms.drop 2) rfl⟩

end Engine

end Questline
