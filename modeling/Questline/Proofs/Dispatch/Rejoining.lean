import Questline.Proofs.Dispatch.Invocation
import Questline.Proofs.Flags.Fields
import Questline.Proofs.Flags.Frame
import Questline.Proofs.Text.Keyword

/-!
Who returns for the final battle. The stored integers decide, legal or not, as they are at the
moment of the question: a flag that is written past the commands counts at once, and what does not
touch the flags of a companion does not change the answer.
-/

namespace Questline

namespace Companion

def word : Companion → String
  | rival => "rival"
  | mentor => "mentor"
  | captain => "captain"

def Named (c : Companion) (args : List String) : Prop :=
  ∃ text, args.head? = some text ∧ Text.Denotes text c.word

def keys : Companion → List String
  | rival => ["player_met_rival", "player_rival_fate", "player_karma"]
  | mentor => ["player_mentor_choice", "player_contribution"]
  | captain => ["player_alliance", "player_rank"]

/-- The stored integers under which a companion returns. -/
def Returns (flags : FlagReader) : Companion → Prop
  | rival => flags "player_met_rival" 0 = 1 ∧ flags "player_rival_fate" 0 = 1 ∧
      0 ≤ (flags "player_karma" 0).toInt
  | mentor => flags "player_mentor_choice" 0 ≠ 1 ∨ 500 ≤ (flags "player_contribution" 0).toInt
  | captain => flags "player_alliance" 0 = 2 ∧
      (flags "player_rank" 0 = 5 ∨ flags "player_rank" 0 = 6 ∨ flags "player_rank" 0 = 7)

instance (flags : FlagReader) : DecidablePred (Returns flags)
  | rival => inferInstanceAs (Decidable (_ ∧ _ ∧ _))
  | mentor => inferInstanceAs (Decidable (_ ∨ _))
  | captain => inferInstanceAs (Decidable (_ ∧ (_ ∨ _ ∨ _)))

lemma returns_congr {c : Companion} {flags flags' : FlagReader}
    (h : ∀ key ∈ c.keys, flags' key 0 = flags key 0) : c.Returns flags' ↔ c.Returns flags := by
  cases c <;> simp_all [keys, Returns]

/-! ### Names -/

lemma parse?_eq_some_iff {text : String} {c : Companion} :
    parse? text = some c ↔ Text.Denotes text c.word := by
  rw [← Text.keyword_eq_iff, parse?]
  constructor
  · intro h
    split at h <;> cases h <;> assumption
  · intro h
    cases c <;> rw [h] <;> rfl

lemma named_iff {c : Companion} {args : List String} :
    args.head?.bind parse? = some c ↔ c.Named args := by
  simp only [Option.bind_eq_some_iff, parse?_eq_some_iff, Named]

end Companion

/-! ### The decision -/

namespace Player

/-- The choice is between staying and leaving, so whatever is no leave is a stay. -/
lemma decode_eq_stay_iff {v : Int32} : Coded.decode v = MentorChoice.stay ↔ v ≠ 1 := by
  have hleave : Coded.decode v = MentorChoice.leave ↔ v = 1 := Coded.decode_eq_iff (by decide)
  rw [ne_eq, ← hleave]
  cases (Coded.decode v : MentorChoice) <;> decide

/-- No integer outside of the codes stands for a high rank. -/
lemma code_b_le_iff {v : Int32} :
    Coded.code Rank.b ≤ Coded.code (Coded.decode v : Rank) ↔ v = 5 ∨ v = 6 ∨ v = 7 := by
  have hb : Coded.decode v = Rank.b ↔ v = 5 := Coded.decode_eq_iff (by decide)
  have ha : Coded.decode v = Rank.a ↔ v = 6 := Coded.decode_eq_iff (by decide)
  have hs : Coded.decode v = Rank.s ↔ v = 7 := Coded.decode_eq_iff (by decide)
  rw [← hb, ← ha, ← hs]
  cases (Coded.decode v : Rank) <;> decide

/-- **Who returns**: the typed fields say what the stored integers say. -/
theorem canRejoin_iff {flags : FlagReader} {c : Companion} :
    canRejoin flags c = true ↔ c.Returns flags := by
  cases c with
  | rival =>
    have hmet : metRival.read flags = true ↔ flags "player_met_rival" 0 = 1 := beq_iff_eq
    have hfate : rivalFate.read flags = .spared ↔ flags "player_rival_fate" 0 = 1 :=
      Coded.decode_eq_iff (by decide)
    have hkarma : 0 ≤ karma.read flags ↔ 0 ≤ (flags "player_karma" 0).toInt :=
      Field.le_clamp_iff (by decide) (by decide)
    simp [canRejoin, Companion.Returns, hmet, hfate, hkarma, and_assoc]
  | mentor =>
    have hcontribution : 500 ≤ contribution.read flags ↔
        500 ≤ (flags "player_contribution" 0).toInt := Field.le_clamp_iff (by decide) (by decide)
    have hchoice : mentorChoice.read flags = .stay ↔ flags "player_mentor_choice" 0 ≠ 1 :=
      decode_eq_stay_iff
    simp [canRejoin, Companion.Returns, hcontribution, hchoice]
  | captain =>
    have halliance : alliance.read flags = .knights ↔ flags "player_alliance" 0 = 2 :=
      Coded.decode_eq_iff (by decide)
    have hrank : Coded.code Rank.b ≤ Coded.code (rank.read flags) ↔
        flags "player_rank" 0 = 5 ∨ flags "player_rank" 0 = 6 ∨ flags "player_rank" 0 = 7 :=
      code_b_le_iff
    simp [canRejoin, Companion.Returns, halliance, hrank]

end Player

namespace Branches

variable {μ : Type} (v : View μ) {call : Call} {c : Companion}

lemma answer_canRejoin_of_named (h : c.Named call.args) :
    (canRejoin v call).answer = .ok (.condition (decide (c.Returns v.flags))) := by
  have hholds : Player.canRejoin v.flags c = decide (c.Returns v.flags) :=
    Bool.eq_iff_iff.2 (Player.canRejoin_iff.trans decide_eq_true_iff.symm)
  rw [canRejoin, Companion.named_iff.2 h, ← hholds]
  rfl

lemma answer_canRejoin_of_unnamed (h : ∀ c : Companion, ¬ c.Named call.args) :
    (canRejoin v call).answer = .ok (.condition false) := by
  have hnone : call.args.head?.bind Companion.parse? = none :=
    Option.eq_none_iff_forall_ne_some.2 fun c hc => h c (Companion.named_iff.1 hc)
  rw [canRejoin, hnone]
  rfl

end Branches

/-! ### Moves -/

/-- What may happen between two questions: a flag is written past the commands, or a command is
invoked. -/
inductive StoryMove where
  | write (key : String) (value : Int32)
  | invoke (name : String) (call : Call)

def StoryMove.writes {μ : Type} [QuestManager μ] (v : View μ) : StoryMove → List (String × Int32)
  | write key value => [(key, value)]
  | invoke name call => (Builtin.ofName? name).elim [] fun b => (b.plan v call).writes

namespace Context

variable {σ μ : Type} [FlagStore σ] [QuestManager μ]

def played (ctx : Context σ μ) : StoryMove → Context σ μ
  | .write key value => { ctx with flags := (FlagStore.set ctx.flags key value).val }
  | .invoke name call => (Builtin.ofName? name).elim ctx fun b => ctx.after b call

def playedAll (ctx : Context σ μ) (ms : List StoryMove) : Context σ μ := ms.foldl played ctx

def writes (ctx : Context σ μ) : List StoryMove → List (String × Int32)
  | [] => []
  | m :: ms => m.writes ctx.view ++ (ctx.played m).writes ms

variable (ctx : Context σ μ)

lemma flags_played (m : StoryMove) :
    (ctx.played m).flags = (FlagStore.setAll ctx.flags (m.writes ctx.view)).val := by
  cases m with
  | write key value => rfl
  | invoke name call =>
    rw [played, StoryMove.writes]
    cases Builtin.ofName? name <;> rfl

/-- Moves bear on the flags by their writes alone. -/
lemma flags_playedAll (ms : List StoryMove) :
    (ctx.playedAll ms).flags = (FlagStore.setAll ctx.flags (ctx.writes ms)).val := by
  induction ms generalizing ctx with
  | nil => rfl
  | cons m ms ih =>
    rw [writes, FlagStore.setAll_append, Logged.val_bind, ← flags_played]
    exact ih (ctx.played m)

end Context

namespace Engine

variable {σ μ : Type} [FlagStore σ] [QuestManager μ]

def move (e : Engine σ μ) : StoryMove → Engine σ μ
  | .write key value =>
    { e with context := { e.context with flags := (FlagStore.set e.context.flags key value).val } }
  | .invoke name call => (e.invoke name call).val.2

def play (e : Engine σ μ) (ms : List StoryMove) : Engine σ μ :=
  ms.foldl move e

lemma move_ofContext (ctx : Context σ μ) (m : StoryMove) :
    (ofContext ctx).val.move m = (ofContext (ctx.played m)).val := by
  cases m with
  | write key value => rfl
  | invoke name call =>
    rw [move, Context.played]
    cases hb : Builtin.ofName? name with
    | none =>
      rw [val_invoke_unknown ctx hb]
      rfl
    | some b =>
      obtain rfl := Builtin.name_of_ofName? hb
      rw [val_invoke_name]
      rfl

lemma play_ofContext (ctx : Context σ μ) (ms : List StoryMove) :
    (ofContext ctx).val.play ms = (ofContext (ctx.playedAll ms)).val := by
  induction ms generalizing ctx with
  | nil => rfl
  | cons m ms ih =>
    rw [play, List.foldl_cons, move_ofContext]
    exact ih (ctx.played m)

/-! ### The question -/

def rejoinAnswer (e : Engine σ μ) (call : Call) : Option Decision :=
  (e.invoke Builtin.canRejoin.name call).val.1

/-- An engine tells by the flags that it has at the moment who returns. -/
structure TellsRejoining (e : Engine σ μ) (call : Call) : Prop where
  named (c : Companion) : c.Named call.args →
    e.rejoinAnswer call = some (.condition (decide (c.Returns (FlagStore.get e.context.flags))))
  other : (∀ c : Companion, ¬ c.Named call.args) → e.rejoinAnswer call = some (.condition false)
  /-- A write past the commands counts at once, if the store keeps it. -/
  written [LawfulFlagStore σ] (c : Companion) (key : String) (value : Int32) :
    c.Named call.args → FlagStore.keeps e.context.flags (key, value) = true →
    (e.move (.write key value)).rejoinAnswer call = some (.condition (decide
      (c.Returns ((FlagStore.get e.context.flags).write (key, value)))))
  /-- Moves that write no flag which bears on a companion do not change the answer about it. -/
  spared [FramedFlagStore σ] (c : Companion) (ms : List StoryMove) :
    c.Named call.args → (∀ w ∈ e.context.writes ms, w.1 ∉ c.keys) →
    (e.play ms).rejoinAnswer call = e.rejoinAnswer call

variable (ctx : Context σ μ) {call : Call} {c : Companion}

lemma rejoinAnswer_ofContext : (ofContext ctx).val.rejoinAnswer call =
    (Branches.canRejoin ctx.view call).answer.toOption := by
  rw [rejoinAnswer, val_invoke_name]
  rfl

lemma rejoinAnswer_of_named (hc : c.Named call.args) : (ofContext ctx).val.rejoinAnswer call =
    some (.condition (decide (c.Returns (FlagStore.get ctx.flags)))) := by
  rw [rejoinAnswer_ofContext, Branches.answer_canRejoin_of_named _ hc]
  rfl

lemma tellsRejoining_ofContext (call : Call) : (ofContext ctx).val.TellsRejoining call where
  named c hc := rejoinAnswer_of_named ctx hc
  other h := by
    rw [rejoinAnswer_ofContext, Branches.answer_canRejoin_of_unnamed _ h]
    rfl
  written c key value hc hkeeps := by
    rw [move_ofContext, rejoinAnswer_of_named _ hc]
    have hread : FlagStore.get (ctx.played (.write key value)).flags =
        (FlagStore.get ctx.flags).write (key, value) :=
      LawfulFlagStore.get_set_of_keeps ctx.flags (key, value) hkeeps
    rw [hread]
    rfl
  spared c ms hc hms := by
    have hflags : c.Returns (FlagStore.get (ctx.playedAll ms).flags) ↔
        c.Returns (FlagStore.get ctx.flags) := by
      refine Companion.returns_congr fun key hkey => ?_
      rw [ctx.flags_playedAll]
      exact FlagStore.get_setAll_of_outside ctx.flags hms hkey 0
    rw [play_ofContext, rejoinAnswer_of_named _ hc, rejoinAnswer_of_named _ hc,
      decide_eq_decide.2 hflags]

/-- **Who returns is told by the stored integers**: after any moves, over any store, a question
about a companion is answered by the flags as they are then. A write that the store keeps counts at
once, and writes to flags that do not bear on the companion never do. -/
theorem rejoining_told_by_flags (ctx : Context σ μ) (ms : List StoryMove)
    (call : Call) : ((ofContext ctx).val.play ms).TellsRejoining call := by
  rw [play_ofContext]
  exact tellsRejoining_ofContext _ call

/-- No rank has the code 8, so the captain stays away until the flag is overwritten by that of a
high one; karma and phase do not matter then. The mentor was asked to leave, but returns for a
contribution beyond its bound. -/
theorem rejoining_told_by_flags_captain :
    let ctx : Context MemoryFlags QuestCatalog :=
      { flags := .ofList [("player_alliance", 2), ("player_mentor_choice", 1)], quests := .empty }
    let ms : List StoryMove := [.write "player_contribution" 5000, .write "player_rank" 8]
    let more : List StoryMove :=
      [.write "player_karma" (-3), .invoke "set_phase" { args := ["act2"] }]
    let e := (ofContext ctx).val.play ms
    let promoted := e.move (.write "player_rank" 7)
    let captain : Call := { args := [" Captain"] }
    e.rejoinAnswer { args := ["mentor"] } = some (.condition true) ∧
      e.rejoinAnswer {} = some (.condition false) ∧
      e.rejoinAnswer captain = some (.condition false) ∧
      promoted.rejoinAnswer captain = some (.condition true) ∧
      (promoted.play more).rejoinAnswer captain = some (.condition true) := by
  intro ctx ms more e promoted captain
  have hnamed : Companion.captain.Named captain.args := ⟨" Captain", rfl, by decide +kernel⟩
  have hmentor := (rejoining_told_by_flags ctx ms { args := ["mentor"] }).named .mentor
    ⟨"mentor", rfl, by decide +kernel⟩
  have hnobody := (rejoining_told_by_flags ctx ms {}).other (by rintro c ⟨text, ⟨⟩, -⟩)
  have hbefore := (rejoining_told_by_flags ctx ms captain).named .captain hnamed
  have hafter := (rejoining_told_by_flags ctx ms captain).written .captain "player_rank" 7 hnamed
    rfl
  have hlater := (rejoining_told_by_flags ctx (ms ++ [.write "player_rank" 7]) captain).spared
    .captain more hnamed (by decide +kernel)
  have htrue : promoted.rejoinAnswer captain = some (.condition true) :=
    hafter.trans (by decide +kernel)
  exact ⟨hmentor.trans (by decide +kernel), hnobody, hbefore.trans (by decide +kernel), htrue,
    hlater.trans htrue⟩

end Engine

end Questline
