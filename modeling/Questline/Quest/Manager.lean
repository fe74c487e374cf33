import Questline.Log
import Questline.Quest.Definition
import Questline.Quest.Journal

/-!
# Quest Managers

What the engine asks of the owner of the quests: which can be offered, in the owner's order, and the
two transitions of a quest. A manager need not keep a journal.
-/

namespace Questline

class QuestManager (μ : Type) where
  isAvailable : μ → Ledger → String → Bool
  available : μ → Ledger → List QuestInfo
  /-- The offers of one giver. -/
  availableFrom : μ → Ledger → String → List QuestInfo
  /-- Starts a quest, unless it is unknown or completed. -/
  start : μ → Ledger → Instant → String → Logged (Except QuestError μ)
  complete : μ → Instant → String → Logged (Except QuestError μ)
  journalEntry? : μ → String → Option JournalEntry := fun _ _ => none

end Questline
