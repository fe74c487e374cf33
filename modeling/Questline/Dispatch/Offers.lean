import Questline.Digest
import Questline.Dispatch.Plan
import Questline.Player

/-!
# Offers

The commands that ask which quests are available. They write flags only: the slots of the session
for the first match, the summary of an offered set, and the position of the first candidate.
-/

namespace Questline.Offers

variable {μ : Type} [QuestManager μ]

/-- The command `check_quest_available quest_id [label]`. The first match of a session wins: once a
quest is found, later checks leave the session alone. -/
def checkQuestAvailable (v : View μ) (call : Call) : Plan μ :=
  match call.args.head?.filter (· ≠ "") with
  | none => .malformed v .checkQuestAvailable call "missing quest id"
  | some id =>
    let label := call.args[1]?.getD ""
    if Session.questFound.read v.flags then .decide v [.note (.alreadyFound id)]
    else if !QuestManager.isAvailable v.quests v.ledger id then .decide v [.note (.notAvailable id)]
    else if label = "" then .decide v [.note (.noLabel id)]
    else
      let target := JumpLabel.ofAlias label
      let doubt : List Effect := if target = .none then [.note (.unknownLabel label id)] else []
      .decide v (doubt ++
        Effect.ofWrites [Session.questFound.write true, Session.jumpTarget.write target] ++
        [.note (.found id target)])

/-- A number of things as a flag value, the greatest value for more than that. -/
def countValue (n : Nat) : Int32 := Int32.ofIntClamp n

theorem toInt_countValue (n : Nat) : (countValue n).toInt = min (n : Int) 2147483647 := by
  have hmin : Int32.minValue.toInt = -2147483648 := rfl
  have hmax : Int32.maxValue.toInt = 2147483647 := rfl
  rw [countValue]
  by_cases h : n ≤ 2147483647
  · rw [Int32.toInt_ofIntClamp (by omega) (by omega)]
    omega
  · rw [Int32.ofIntClamp, dif_pos (by omega), dif_neg (by omega)]
    omega

/-- The quest of highest priority; of several the earliest. -/
def top? (quests : List QuestInfo) : Option QuestInfo :=
  quests.foldl
    (fun best q => match best with
      | some b => if q.priority ≤ b.priority then some b else some q
      | none => some q)
    none

/-- The flags that summarise a set of offers: how many, of which types, and the digest of the top
one. -/
def summary (keys : EngineKeys) (quests : List QuestInfo) : List (String × Int32) :=
  let hasType (t : QuestType) : Bool := quests.any fun q => q.type == t
  [(keys.availableCount, countValue quests.length),
    (Field.bool keys.hasRankUp).write (hasType .rankUp),
    (Field.bool keys.hasCharacterEvent).write (hasType .characterEvent),
    (Field.bool keys.hasSubQuest).write (hasType .subQuest),
    (keys.topQuestDigest, ((top? quests).map fun q => Digest.ofText q.id).getD 0)]

def checkAvailableQuests (v : View μ) (call : Call) : Plan μ :=
  let npc := call.args.head?.getD ""
  let quests :=
    if npc = "" then QuestManager.available v.quests v.ledger
    else QuestManager.availableFrom v.quests v.ledger npc
  .decide v (Effect.ofWrites (summary v.keys quests) ++
    [.note (.offersCounted (countValue quests.length) npc)])

/-- The position, from 1, of the first candidate that is offered, 0 when none is. -/
def position (offered : List QuestInfo) (candidates : List String) : Int32 :=
  ((candidates.findIdx? fun id => offered.any fun q => q.id == id).map
    fun i => countValue (i + 1)).getD 0

def checkQuestsForDispatch (v : View μ) (call : Call) : Plan μ :=
  match call.args with
  | [] => .malformed v .checkQuestsForDispatch call "missing flag name"
  | key :: candidates =>
    let value := position (QuestManager.available v.quests v.ledger) candidates
    .decide v [.write key value, .note (.dispatched key value)]

end Questline.Offers
