import Mathlib.Logic.Function.Basic
import Questline.Proofs.Dispatch.Locality
import Questline.Proofs.Flags.Fields
import Questline.Proofs.Text.Numeral

/-!
The commands that add to a flag. In whatever way the amount is spelled and whatever integer was
stored, a call stores the exact sum of the integers, brought within its bounds at the end. So a run
of such calls, also one that adds to the karma or the contribution as to a plain flag, comes to what
exact bookkeeping comes to.
-/

namespace Questline

/-! ### Amounts -/

/-- A text spells a value: it is a numeral for it, with any blanks around. -/
def Text.Decimal.Spells (text : String) (value : Int32) : Prop :=
  ∃ w d w', Blanks w ∧ Numeral d value.toInt ∧ Blanks w' ∧ text.toList = w ++ d ++ w'

open Text.Decimal (Spells)

lemma Writes.number?_eq_some_iff {text : String} {value : Int32} :
    number? text = some value ↔ Spells text value := Text.Decimal.parse?_trim_eq_some_iff

/-! ### Accounts -/

/-- What a command adds to: the karma, the contribution, or a flag that the caller names, which may
be the flag of one of the two. -/
inductive Account where
  | karma | contribution
  | flag (key : String)

namespace Account

def builtin : Account → Builtin
  | karma => .addKarma
  | contribution => .addContribution
  | flag _ => .addFlag

def key : Account → String
  | karma => Player.karma.key
  | contribution => Player.contribution.key
  | flag key => key

/-- The arguments that name an account, before the amount. -/
def names : Account → List String
  | karma | contribution => []
  | flag key => [key]

/-- What an account holds after an amount was added to an old balance. The karma and the
contribution are within their bounds before and after; a flag may hold any value of 32 bits. -/
def total : Account → Int → Int → Int
  | karma, old, amount => nearest (-100) 100 (nearest (-100) 100 old + amount)
  | contribution, old, amount => nearest 0 1000 (nearest 0 1000 old + amount)
  | flag _, old, amount => nearest (-2147483648) 2147483647 (old + amount)

end Account

/-- A call that adds an amount to an account. The amount may be spelled in any way, and further
arguments may follow it. -/
structure Addition where
  account : Account
  amount : Int32
  text : String
  spelled : Spells text amount
  rest : List String := []
  site : CallSite := {}
  time : Instant := default

namespace Addition

def call (a : Addition) : Call := ⟨a.account.names ++ a.text :: a.rest, a.site, a.time⟩

def invocation (a : Addition) : String × Call := (a.account.builtin.name, a.call)

/-- The balances after an addition: its account has the new total, all others are as before. -/
def post (balances : String → Int) (a : Addition) : String → Int :=
  Function.update balances a.account.key
    (a.account.total (balances a.account.key) a.amount.toInt)

end Addition

/-! ### One addition -/

namespace Writes

variable {μ : Type}

lemma addFlag_of_number (v : View μ) (call : Call) {key text : String} {rest : List String}
    {delta : Int32} (hargs : call.args = key :: text :: rest) (h : number? text = some delta) :
    (addFlag v call).answer = .ok .none ∧
      (addFlag v call).writes = [(key, addSaturating (v.flags key 0) delta)] := by
  simp only [addFlag, hargs, h]
  exact ⟨rfl, rfl⟩

lemma increase_of_number (b : Builtin) (f : Field Int32) (notice : Int32 → Int32 → Notice)
    (v : View μ) (call : Call) {text : String} {rest : List String} {delta : Int32}
    (hargs : call.args = text :: rest) (h : number? text = some delta) :
    (increase b f notice v call).answer = .ok .none ∧
      (increase b f notice v call).writes = [f.increase v.flags delta] := by
  simp only [increase, hargs, List.head?_cons, Option.bind_some, h]
  exact ⟨rfl, rfl⟩

end Writes

namespace Addition

variable {μ : Type} [QuestManager μ]

/-- What the plan of an addition comes to: one write, of the exact total to the account. -/
lemma plan_eq (a : Addition) (v : View μ) : ∃ value : Int32,
    (a.account.builtin.plan v a.call).answer = .ok .none ∧
      (a.account.builtin.plan v a.call).writes = [(a.account.key, value)] ∧
      value.toInt = a.account.total (v.flags a.account.key 0).toInt a.amount.toInt := by
  obtain ⟨account, amount, text, spelled, rest, site, time⟩ := a
  have hnumber : Writes.number? text = some amount := Writes.number?_eq_some_iff.2 spelled
  cases account with
  | karma =>
    obtain ⟨hanswer, hwrites⟩ := Writes.increase_of_number .addKarma Player.karma .karmaAdded v
      ⟨text :: rest, site, time⟩ rfl hnumber
    exact ⟨_, hanswer, hwrites, Field.toInt_increase_bounded (by decide) _ v.flags amount⟩
  | contribution =>
    obtain ⟨hanswer, hwrites⟩ := Writes.increase_of_number .addContribution Player.contribution
      .contributionAdded v ⟨text :: rest, site, time⟩ rfl hnumber
    exact ⟨_, hanswer, hwrites, Field.toInt_increase_bounded (by decide) _ v.flags amount⟩
  | flag key =>
    obtain ⟨hanswer, hwrites⟩ :=
      Writes.addFlag_of_number v ⟨key :: text :: rest, site, time⟩ rfl hnumber
    exact ⟨_, hanswer, hwrites, toInt_addSaturating _ _⟩

end Addition

/-! ### Runs -/

/-- The integer that each flag reads as; an unset one counts as zero. -/
def MemoryFlags.balances (s : MemoryFlags) (key : String) : Int := (FlagStore.get s key 0).toInt

namespace Engine

variable {μ : Type} [QuestManager μ]

/-- An addition is answered, stores the new total, and leaves all other flags as they are. -/
lemma invoke_addition (ctx : Context MemoryFlags μ) (a : Addition) : ∃ ctx' value,
    ((ofContext ctx).val.invoke a.account.builtin.name a.call).val =
        (some .none, (ofContext ctx').val) ∧
      FlagStore.get ctx'.flags =
        FlagReader.write (FlagStore.get ctx.flags) (a.account.key, value) ∧
      value.toInt = a.account.total (ctx.flags.balances a.account.key) a.amount.toInt := by
  obtain ⟨value, hanswer, hwrites, hvalue⟩ := a.plan_eq ctx.view
  refine ⟨ctx.after a.account.builtin a.call, value, ?_, ?_, hvalue⟩
  · rw [val_invoke_name, hanswer]
    rfl
  · rw [Context.get_after, hwrites]
    rfl

lemma balances_invoke_addition (ctx : Context MemoryFlags μ) (a : Addition) :
    ((ofContext ctx).val.invoke a.account.builtin.name a.call).val.2.context.flags.balances =
      a.post ctx.flags.balances := by
  obtain ⟨ctx', value, hinvoke, hflags, hvalue⟩ := invoke_addition ctx a
  rw [hinvoke]
  funext key
  change (FlagStore.get ctx'.flags key 0).toInt = _
  rw [hflags, Addition.post]
  by_cases h : key = a.account.key
  · subst h
    rw [FlagReader.write_self, Function.update_self, hvalue]
  · rw [FlagReader.write_of_ne _ h, Function.update_of_ne h]
    rfl

lemma balances_run_additions (ctx : Context MemoryFlags μ) (adds : List Addition) :
    ((ofContext ctx).val.run (adds.map Addition.invocation)).context.flags.balances =
      adds.foldl Addition.post ctx.flags.balances := by
  induction adds generalizing ctx with
  | nil => rfl
  | cons a adds ih =>
    obtain ⟨ctx', value, hinvoke, -, -⟩ := invoke_addition ctx a
    have hbalances := balances_invoke_addition ctx a
    rw [hinvoke] at hbalances
    rw [List.map_cons, run_cons, Addition.invocation, hinvoke, ih, List.foldl_cons, ← hbalances]
    rfl

end Engine

lemma Player.bounded_read (flags : FlagReader) :
    (-100 ≤ (karma.read flags).toInt ∧ (karma.read flags).toInt ≤ 100) ∧
      0 ≤ (contribution.read flags).toInt ∧ (contribution.read flags).toInt ≤ 1000 := by
  have hkarma : (karma.read flags).toInt = nearest (-100) 100 (flags karma.key 0).toInt :=
    Field.toInt_clamp (by decide) _
  have hcontribution : (contribution.read flags).toInt =
      nearest 0 1000 (flags contribution.key 0).toInt := Field.toInt_clamp (by decide) _
  rw [hkarma, hcontribution]
  exact ⟨nearest_mem (by decide) _, nearest_mem (by decide) _⟩

namespace Engine

variable {μ : Type} [QuestManager μ]

/-- **Additions are exact**: over flags in memory, in every state that a run of additions reaches,
the next addition is answered and stores the exact total of its account, which is then read whatever
the default, and all other flags read as before. The balances at the end of the run are those of
exact bookkeeping from the balances at its start, and the karma and the contribution are within
bounds. -/
theorem additions_exact (ctx : Context MemoryFlags μ) (adds : List Addition) :
    let e := (ofContext ctx).val.run (adds.map Addition.invocation)
    (∀ a : Addition,
      let next := (e.invoke a.account.builtin.name a.call).val
      next.1 = some .none ∧
      (∀ d, (FlagStore.get next.2.context.flags a.account.key d).toInt =
        a.account.total (e.context.flags.balances a.account.key) a.amount.toInt) ∧
      ∀ key ≠ a.account.key, ∀ d,
        FlagStore.get next.2.context.flags key d = FlagStore.get e.context.flags key d) ∧
    e.context.flags.balances = adds.foldl Addition.post ctx.flags.balances ∧
    (-100 ≤ (Player.karma.get e.context.flags).toInt ∧
      (Player.karma.get e.context.flags).toInt ≤ 100) ∧
    0 ≤ (Player.contribution.get e.context.flags).toInt ∧
      (Player.contribution.get e.context.flags).toInt ≤ 1000 := by
  intro e
  refine ⟨fun a => ?_, balances_run_additions ctx adds, Player.bounded_read _⟩
  obtain ⟨ctx', hrun⟩ := exists_context_run ctx (adds.map Addition.invocation)
  have he : e = (ofContext ctx').val := hrun
  obtain ⟨ctx'', value, hinvoke, hflags, hvalue⟩ := invoke_addition ctx' a
  rw [he, hinvoke]
  refine ⟨rfl, fun d => ?_, fun key hkey d => ?_⟩
  · change (FlagStore.get ctx''.flags a.account.key d).toInt = _
    rw [hflags, FlagReader.write_self, hvalue]
    rfl
  · change FlagStore.get ctx''.flags key d = FlagStore.get ctx'.flags key d
    rw [hflags, FlagReader.write_of_ne _ hkey]

/-- Added to as a plain flag the karma stops at the greatest value of a flag; it then counts as 100,
so that losing 5 leaves 95. -/
theorem additions_exact_plain_karma :
    let ctx : Context MemoryFlags QuestCatalog :=
      { flags := .ofList [("player_karma", 7)], quests := .empty }
    let plain : Addition :=
      { account := .flag "player_karma", amount := 2147483647, text := " +2147483647"
        spelled := Writes.number?_eq_some_iff.1 (by decide +kernel) }
    let loss : Addition :=
      { account := .karma, amount := -5, text := "-0005 "
        spelled := Writes.number?_eq_some_iff.1 (by decide +kernel) }
    let e := (ofContext ctx).val.run [plain.invocation]
    e.context.flags.balances "player_karma" = 2147483647 ∧
      (FlagStore.get (e.invoke "add_karma" loss.call).val.2.context.flags "player_karma" 0).toInt =
        95 := by
  intro ctx plain loss e
  obtain ⟨hnext, hbalances, -⟩ := additions_exact ctx [plain]
  have hplain : e.context.flags.balances "player_karma" = 2147483647 := by
    refine (congrFun hbalances "player_karma").trans ?_
    decide +kernel
  obtain ⟨-, hloss, -⟩ := hnext loss
  refine ⟨hplain, (hloss 0).trans ?_⟩
  change Account.total .karma (e.context.flags.balances "player_karma") (-5) = 95
  rw [hplain]
  decide

end Engine

end Questline
