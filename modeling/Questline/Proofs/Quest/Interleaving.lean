import Questline.Proofs.Dispatch.Timing
import Questline.Proofs.Flags.Mirror
import Questline.Proofs.Quest.Record

/-!
Transitions of different quests, made in any order. A transition reads and writes the bits and the
journal entry of its quest alone, so it commutes with those of other quests, and two sequences of
transitions that share no quest come to the same in every interleaving.
-/

namespace Questline

/-! ### Interleavings -/

/-- Two sequences in one order, each element marked with the side it is from. -/
abbrev Interleaving (α : Type) := List (α ⊕ α)

namespace Interleaving

variable {α β : Type}

def merged (zs : Interleaving α) : List α := zs.map (Sum.elim id id)

def left (zs : Interleaving α) : List α := zs.filterMap Sum.getLeft?

def right (zs : Interleaving α) : List α := zs.filterMap Sum.getRight?

/-- Of the results for the elements in order, those of the left side. -/
def resultsLeft (zs : Interleaving α) (bs : List β) : List β :=
  (zs.zip bs).filterMap fun p => if p.1.isLeft then some p.2 else none

def resultsRight (zs : Interleaving α) (bs : List β) : List β :=
  (zs.zip bs).filterMap fun p => if p.1.isRight then some p.2 else none

variable (zs : Interleaving α) (a : α) (b : β) (bs : List β)

@[simp] lemma merged_inl : merged (.inl a :: zs) = a :: zs.merged := rfl

@[simp] lemma merged_inr : merged (.inr a :: zs) = a :: zs.merged := rfl

@[simp] lemma left_inl : left (.inl a :: zs) = a :: zs.left := rfl

@[simp] lemma left_inr : left (.inr a :: zs) = zs.left := rfl

@[simp] lemma right_inl : right (.inl a :: zs) = zs.right := rfl

@[simp] lemma right_inr : right (.inr a :: zs) = a :: zs.right := rfl

@[simp] lemma resultsLeft_inl : resultsLeft (.inl a :: zs) (b :: bs) = b :: zs.resultsLeft bs := rfl

@[simp] lemma resultsLeft_inr : resultsLeft (.inr a :: zs) (b :: bs) = zs.resultsLeft bs := rfl

@[simp] lemma resultsRight_inl : resultsRight (.inl a :: zs) (b :: bs) = zs.resultsRight bs := rfl

@[simp] lemma resultsRight_inr :
    resultsRight (.inr a :: zs) (b :: bs) = b :: zs.resultsRight bs := rfl

end Interleaving

/-! ### Moves -/

structure QuestMove where
  kind : Transition
  call : Call

namespace QuestMove

def invocation (m : QuestMove) : String × Call := (m.kind.builtin.name, m.call)

/-- The quest that a move is about; without an id, or with a single empty one, there is none. -/
def quest? (m : QuestMove) : Option String :=
  if m.call.args = [""] then none else m.call.args.head?

def untimed (m : QuestMove) : QuestMove := { m with call := { m.call with time := default } }

def Unrelated (m m' : QuestMove) : Prop := ∀ id ∈ m.quest?, id ∉ m'.quest?

instance (m m' : QuestMove) : Decidable (m.Unrelated m') :=
  inferInstanceAs (Decidable (∀ id ∈ m.quest?, id ∉ m'.quest?))

lemma quest?_eq_none {m : QuestMove} (h : m.quest? = none) :
    m.call.args = [] ∨ m.call.args = [""] := by
  rw [quest?] at h
  split_ifs at h with hargs
  · exact .inr hargs
  · exact .inl (List.head?_eq_none_iff.1 h)

lemma quest?_eq_some {m : QuestMove} {id : String} (h : m.quest? = some id) :
    m.call.args.head? = some id ∧ m.call.args ≠ [""] := by
  rw [quest?] at h
  split_ifs at h with hargs
  exact ⟨h, hargs⟩

end QuestMove

namespace Context

variable (ctx : Context MemoryFlags QuestCatalog)

def accepts (id : String) : Transition → Bool
  | .start => ctx.quests.contains id && !ctx.ledger.isCompleted id &&
      !ctx.quests.journal.isCompleted id
  | .complete => ctx.quests.contains id

def carried (t : Transition) (now : Instant) (id : String) : Context MemoryFlags QuestCatalog :=
  { ctx with
    flags := (FlagStore.setAll ctx.flags (t.writes ctx.keys.quests id)).val
    quests := { ctx.quests with journal := t.recorded ctx.quests.journal now id } }

def moved (m : QuestMove) : Context MemoryFlags QuestCatalog :=
  match m.quest? with
  | none => ctx
  | some id => if ctx.accepts id m.kind then ctx.carried m.kind m.call.time id else ctx

def answer (m : QuestMove) : Option Decision :=
  match m.quest? with
  | none => some .none
  | some id => if ctx.accepts id m.kind then some .none else none

def movedAll (ms : List QuestMove) : Context MemoryFlags QuestCatalog := ms.foldl moved ctx

def answersTo (ctx : Context MemoryFlags QuestCatalog) : List QuestMove → List (Option Decision)
  | [] => []
  | m :: ms => ctx.answer m :: (ctx.moved m).answersTo ms

lemma accepts_start_iff {id : String} :
    ctx.accepts id .start = true ↔ ctx.quests.Startable ctx.ledger id := by
  simp only [accepts, Bool.and_eq_true, Bool.not_eq_true']
  exact ⟨fun h => ⟨h.1.1, h.1.2, h.2⟩, fun h => ⟨⟨h.known, h.notDone⟩, h.notRecorded⟩⟩

@[simp] lemma movedAll_nil : ctx.movedAll [] = ctx := rfl

@[simp] lemma movedAll_cons (m : QuestMove) (ms : List QuestMove) :
    ctx.movedAll (m :: ms) = (ctx.moved m).movedAll ms := rfl

lemma movedAll_append (ms ms' : List QuestMove) :
    ctx.movedAll (ms ++ ms') = (ctx.movedAll ms).movedAll ms' := List.foldl_append

@[simp] lemma answersTo_nil : ctx.answersTo [] = [] := rfl

@[simp] lemma answersTo_cons (m : QuestMove) (ms : List QuestMove) :
    ctx.answersTo (m :: ms) = ctx.answer m :: (ctx.moved m).answersTo ms := rfl

lemma answersTo_append (ms ms' : List QuestMove) :
    ctx.answersTo (ms ++ ms') = ctx.answersTo ms ++ (ctx.movedAll ms).answersTo ms' := by
  induction ms generalizing ctx with
  | nil => rfl
  | cons m ms ih =>
    rw [List.cons_append, answersTo_cons, ih, answersTo_cons, movedAll_cons, List.cons_append]

end Context

namespace Engine

variable (ctx : Context MemoryFlags QuestCatalog)

/-- A move is what the engine makes of its invocation. -/
lemma val_invoke_move (m : QuestMove) :
    ((ofContext ctx).val.invoke m.invocation.1 m.invocation.2).val =
      (ctx.answer m, (ofContext (ctx.moved m)).val) := by
  obtain ⟨kind, call⟩ := m
  cases hq : QuestMove.quest? ⟨kind, call⟩ with
  | none =>
    have hidle := QuestMove.quest?_eq_none hq
    simp only [Context.answer, Context.moved, hq]
    cases kind with
    | start => exact invoke_start_idle ctx call hidle
    | complete => exact invoke_complete_idle ctx call hidle
  | some id =>
    obtain ⟨hid, hne⟩ := QuestMove.quest?_eq_some hq
    simp only [Context.answer, Context.moved, hq]
    cases kind with
    | start =>
      split_ifs with ha <;> rw [Context.accepts_start_iff] at ha
      · exact invoke_start_accepted ctx call hid hne ha
      · exact invoke_start_refused ctx call hid hne ha
    | complete =>
      split_ifs with ha
      · exact invoke_complete_accepted ctx call hid hne ha
      · exact invoke_complete_refused ctx call hid hne (Bool.eq_false_iff.2 ha)

lemma answers_moves (ms : List QuestMove) :
    (ofContext ctx).val.answers (ms.map QuestMove.invocation) = ctx.answersTo ms := by
  induction ms generalizing ctx with
  | nil => rfl
  | cons m ms ih => rw [List.map_cons, answers_cons, val_invoke_move, ih, Context.answersTo_cons]

lemma run_moves (ms : List QuestMove) :
    (ofContext ctx).val.run (ms.map QuestMove.invocation) = (ofContext (ctx.movedAll ms)).val := by
  induction ms generalizing ctx with
  | nil => rfl
  | cons m ms ih => rw [List.map_cons, run_cons, val_invoke_move, ih, Context.movedAll_cons]

end Engine

/-! ### Moves of different quests commute -/

namespace Transition

lemma mem_bits_of_mem_writes {keys : QuestKeys} {t : Transition} {id key : String}
    (h : key ∈ (t.writes keys id).map Prod.fst) : key ∈ keys.bits id := by
  cases t <;> simp_all [writes, QuestKeys.bits]

lemma recorded_comm (t t' : Transition) (j : Journal) (now now' : Instant) {a b : String}
    (hab : a ≠ b) :
    t'.recorded (t.recorded j now a) now' b = t.recorded (t'.recorded j now' b) now a := by
  refine Journal.ext_get? fun id => ?_
  simp only [get?_recorded, if_neg hab, if_neg hab.symm]
  split_ifs with hb ha
  · exact absurd (ha.trans hb.symm) hab
  · rfl
  · rfl
  · rfl

end Transition

namespace Context

variable {ctx : Context MemoryFlags QuestCatalog} {a b : String}

lemma accepts_carried_of_ne (hk : ctx.keys.quests.Apart) (hab : a ≠ b) (t t' : Transition)
    (now : Instant) : (ctx.carried t now a).accepts b t' = ctx.accepts b t' := by
  have hdone : (ctx.carried t now a).ledger.isCompleted b = ctx.ledger.isCompleted b := by
    have hkey : ctx.keys.quests.doneKey b ∉ (t.writes ctx.keys.quests a).map Prod.fst :=
      fun h => hk.notMem_bits hab (Transition.mem_bits_of_mem_writes h) List.mem_cons_self
    simp only [isCompleted_eq, carried, FlagStore.get_setAll_of_notMem ctx.flags hkey]
  have hentry : (ctx.carried t now a).quests.journal.isCompleted b =
      ctx.quests.journal.isCompleted b := by
    simp only [carried, Journal.isCompleted, Transition.get?_recorded, if_neg hab]
  cases t' with
  | start => simp only [accepts, hdone, hentry]; rfl
  | complete => rfl

lemma carried_comm (hk : ctx.keys.quests.Apart) (hab : a ≠ b) (t t' : Transition)
    (now now' : Instant) :
    (ctx.carried t now a).carried t' now' b = (ctx.carried t' now' b).carried t now a := by
  have hflags := ctx.flags.setAll_comm (t.writes ctx.keys.quests a) (t'.writes ctx.keys.quests b)
    fun key h h' => hk.notMem_bits hab (Transition.mem_bits_of_mem_writes h)
      (Transition.mem_bits_of_mem_writes h')
  simp only [carried, hflags, t.recorded_comm t' ctx.quests.journal now now' hab]

@[simp] lemma keys_moved (ctx : Context MemoryFlags QuestCatalog) (m : QuestMove) :
    (ctx.moved m).keys = ctx.keys := by
  rw [moved]
  split
  · rfl
  · split_ifs <;> rfl

/-- A move does not bear on whether a transition of another quest is accepted. -/
lemma accepts_moved (hk : ctx.keys.quests.Apart) {m : QuestMove} (h : m.quest? ≠ some b)
    (t : Transition) : (ctx.moved m).accepts b t = ctx.accepts b t := by
  rw [moved]
  split
  · rfl
  · next a hq =>
    have hab : a ≠ b := fun heq => h (hq.trans (congrArg some heq))
    split_ifs
    · exact accepts_carried_of_ne hk hab _ _ _
    · rfl

lemma answer_moved (hk : ctx.keys.quests.Apart) {m m' : QuestMove} (h : m.Unrelated m') :
    (ctx.moved m).answer m' = ctx.answer m' := by
  rw [answer, answer]
  split
  · rfl
  · next b hq => rw [accepts_moved hk fun hm => h b hm hq]

/-- **Moves of different quests commute.** -/
lemma moved_comm (hk : ctx.keys.quests.Apart) {m m' : QuestMove} (h : m.Unrelated m') :
    (ctx.moved m).moved m' = (ctx.moved m').moved m := by
  cases hq : m.quest? with
  | none => simp only [moved, hq]
  | some a =>
    cases hq' : m'.quest? with
    | none => simp only [moved, hq']
    | some b =>
      have hab : a ≠ b := fun heq => h a hq (heq ▸ hq')
      simp only [moved, hq, hq']
      by_cases ha : ctx.accepts a m.kind = true <;> by_cases hb : ctx.accepts b m'.kind = true <;>
        simp only [ha, hb, if_true, if_false, accepts_carried_of_ne hk hab,
          accepts_carried_of_ne hk hab.symm, carried_comm hk hab, Bool.false_eq_true]

lemma moved_comm_all (hk : ctx.keys.quests.Apart) {m : QuestMove} {ms : List QuestMove}
    (h : ∀ a ∈ ms, a.Unrelated m) :
    (ctx.moved m).movedAll ms = (ctx.movedAll ms).moved m ∧
      (ctx.moved m).answersTo ms = ctx.answersTo ms ∧
      (ctx.movedAll ms).answer m = ctx.answer m := by
  induction ms generalizing ctx with
  | nil => exact ⟨rfl, rfl, rfl⟩
  | cons a ms ih =>
    have ha : a.Unrelated m := h a List.mem_cons_self
    have hm : m.Unrelated a := fun id hid hid' => ha id hid' hid
    have hk' : (ctx.moved a).keys.quests.Apart := by rwa [keys_moved]
    obtain ⟨hctx, hanswers, hanswer⟩ := ih hk' fun a' ha' => h a' (List.mem_cons_of_mem _ ha')
    refine ⟨?_, ?_, ?_⟩
    · rw [movedAll_cons, moved_comm hk hm, hctx, movedAll_cons]
    · rw [answersTo_cons, moved_comm hk hm, hanswers, answer_moved hk hm, answersTo_cons]
    · rw [movedAll_cons, hanswer, answer_moved hk ha]

/-- **An interleaving is as good as one side after the other**: it ends in the same context, and
gives the same answers to both sides. -/
lemma movedAll_merged (hk : ctx.keys.quests.Apart) {zs : Interleaving QuestMove}
    (h : ∀ a ∈ zs.left, ∀ b ∈ zs.right, a.Unrelated b) :
    ctx.movedAll zs.merged = (ctx.movedAll zs.left).movedAll zs.right ∧
      zs.resultsLeft (ctx.answersTo zs.merged) = ctx.answersTo zs.left ∧
      zs.resultsRight (ctx.answersTo zs.merged) = (ctx.movedAll zs.left).answersTo zs.right := by
  induction zs generalizing ctx with
  | nil => exact ⟨rfl, rfl, rfl⟩
  | cons z zs ih =>
    cases z with
    | inl a =>
      have hk' : (ctx.moved a).keys.quests.Apart := by rwa [keys_moved]
      obtain ⟨hctx, hleft, hright⟩ := ih hk' fun a' ha' => h a' (List.mem_cons_of_mem _ ha')
      exact ⟨hctx, congrArg _ hleft, hright⟩
    | inr b =>
      have hk' : (ctx.moved b).keys.quests.Apart := by rwa [keys_moved]
      obtain ⟨hctx, hleft, hright⟩ :=
        ih hk' fun a ha b' hb' => h a ha b' (List.mem_cons_of_mem _ hb')
      -- the whole left side commutes with the move that came first
      have hb : ∀ a ∈ Interleaving.left zs, a.Unrelated b :=
        fun a ha => h a ha b List.mem_cons_self
      obtain ⟨hcomm, hanswers, hanswer⟩ := moved_comm_all hk hb
      simp only [Interleaving.merged_inr, Interleaving.left_inr, Interleaving.right_inr,
        movedAll_cons, answersTo_cons, Interleaving.resultsLeft_inr,
        Interleaving.resultsRight_inr]
      rw [hctx, hleft, hright, hcomm, hanswers, hanswer]
      exact ⟨rfl, rfl, rfl⟩

end Context

namespace Engine

/-- **Lifecycle calls on different quests do not interfere**: with stems of which neither begins the
other, an interleaving of two sequences of transitions that share no quest answers each call as one
sequence after the other does, whatever the times of the calls, and ends with the same flags and the
same journal but for times. -/
theorem interleaving_immaterial {ctx : Context MemoryFlags QuestCatalog}
    (hk : ctx.keys.quests.Apart) {zs : Interleaving QuestMove}
    (hzs : ∀ a ∈ zs.left, ∀ b ∈ zs.right, a.Unrelated b) {ms : List QuestMove}
    (hms : ms.map QuestMove.untimed = (zs.left ++ zs.right).map QuestMove.untimed) :
    let mixed := zs.merged.map QuestMove.invocation
    let apart := ms.map QuestMove.invocation
    let e := (ofContext ctx).val
    zs.resultsLeft (e.answers mixed) ++ zs.resultsRight (e.answers mixed) = e.answers apart ∧
      (e.run mixed).context.SameButTimes (e.run apart).context := by
  intro mixed apart e
  obtain ⟨hctx, hleft, hright⟩ := Context.movedAll_merged hk hzs
  -- the moves one side after the other, at the times of the interleaving and at their own
  let ordered := (zs.left ++ zs.right).map QuestMove.invocation
  have huntimed (ms : List QuestMove) : (ms.map QuestMove.invocation).map untimed =
      (ms.map QuestMove.untimed).map fun m => untimed m.invocation := by
    rw [List.map_map, List.map_map]
    rfl
  have hcalls : apart.map untimed = ordered.map untimed := by
    simp only [apart, ordered, huntimed, hms]
  obtain ⟨hanswers, hrun⟩ := SameButTimes.run (timeless_ofContext ctx) (.refl e) hcalls
  have hmixed : e.run mixed = e.run ordered := by
    simp only [mixed, ordered, e, run_moves, Context.movedAll_append, hctx]
  refine ⟨?_, hmixed ▸ hrun.context⟩
  rw [hanswers]
  simp only [mixed, ordered, e, answers_moves, hleft, hright, Context.answersTo_append]

/-- Two quests that are started and completed in turns, with a call for one that there is not. -/
theorem interleaving_immaterial_turns :
    let q (id : String) : QuestDefinition :=
      { id := id, name := id, type := .subQuest, priority := 0 }
    let ctx : Context MemoryFlags QuestCatalog :=
      { flags := {}, quests := .insertAll .empty [q "herbs", q "duel"] }
    let move (kind : Transition) (id : String) (second : Int) : QuestMove :=
      ⟨kind, { args := [id], time := ⟨second, 0⟩ }⟩
    let zs : Interleaving QuestMove :=
      [.inr (move .start "duel" 1), .inl (move .start "herbs" 2), .inr (move .complete "duel" 3),
        .inl (move .start "ghost" 4), .inl (move .complete "herbs" 5)]
    let ms : List QuestMove :=
      [move .start "herbs" 1, move .start "ghost" 2, move .complete "herbs" 3,
        move .start "duel" 4, move .complete "duel" 5]
    let e := (ofContext ctx).val
    zs.resultsLeft (e.answers (zs.merged.map QuestMove.invocation)) =
        [some .none, none, some .none] ∧
      (e.run (zs.merged.map QuestMove.invocation)).context.SameButTimes
        (e.run (ms.map QuestMove.invocation)).context := by
  intro q ctx move zs ms e
  have hk : ctx.keys.quests.Apart := by decide
  have hzs : ∀ a ∈ zs.left, ∀ b ∈ zs.right, a.Unrelated b := by decide
  have hms : ms.map QuestMove.untimed = (zs.left ++ zs.right).map QuestMove.untimed := rfl
  exact ⟨by decide +kernel, (interleaving_immaterial hk hzs hms).2⟩

end Engine

end Questline
