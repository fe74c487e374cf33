import Questline.Config
import Questline.Proofs.Files.Reading

/-!
Which configurations are loaded, and what keeps the others from being. A file is read first and its
keys are checked then: the two stems of quest keys must be neither empty nor equal.
-/

namespace Questline

/-! ### The keys -/

namespace EngineKeys

variable {keys : EngineKeys} {d : Defect}

structure Valid (keys : EngineKeys) : Prop where
  doneStem_ne : keys.quests.doneStem ≠ ""
  activeStem_ne : keys.quests.activeStem ≠ ""
  stems_ne : keys.quests.doneStem ≠ keys.quests.activeStem

/-- What is wrong with keys; that a stem is empty comes before that the two are equal. -/
inductive Invalid (keys : EngineKeys) : Defect → Prop
  | emptyStem : keys.quests.doneStem = "" ∨ keys.quests.activeStem = "" → keys.Invalid .emptyStem
  | equalStems : keys.quests.doneStem ≠ "" → keys.quests.doneStem = keys.quests.activeStem →
      keys.Invalid (.equalStems keys.quests.doneStem)

lemma check_eq_ok_iff {u : Unit} : keys.check = .ok u ↔ keys.Valid := by
  rw [check]
  split_ifs with hempty hequal
  · refine iff_of_false nofun fun h => ?_
    exact hempty.elim h.doneStem_ne h.activeStem_ne
  · exact iff_of_false nofun fun h => h.stems_ne hequal
  · obtain ⟨hdone, hactive⟩ := not_or.1 hempty
    exact iff_of_true rfl ⟨hdone, hactive, hequal⟩

lemma check_eq_error_iff : keys.check = .error d ↔ keys.Invalid d := by
  rw [check]
  constructor
  · intro h
    split_ifs at h with hempty hequal
    · cases h
      exact .emptyStem hempty
    · cases h
      exact .equalStems (not_or.1 hempty).1 hequal
  · intro h
    cases h with
    | emptyStem hempty => rw [if_pos hempty]
    | equalStems hdone hequal =>
      -- of two equal stems both are empty or none is
      have hempty : ¬ (keys.quests.doneStem = "" ∨ keys.quests.activeStem = "") := by
        rwa [← hequal, or_self]
      rw [if_neg hempty, if_pos hequal]

end EngineKeys

/-! ### The whole -/

namespace EngineConfig

variable {files : Files} {path text : String} {config : EngineConfig} {e : LoadError}

lemma ofText_eq_ok_iff :
    ofText path text = .ok config ↔ shape.Fits text config ∧ config.keys.Valid := by
  simp only [ofText, bind_eq_ok_iff, mapError_eq_ok_iff, Toml.Shape.ofText_eq_ok_iff,
    EngineKeys.check_eq_ok_iff]
  constructor
  · rintro ⟨c, hfits, -, hvalid, h⟩
    cases h
    exact ⟨hfits, hvalid⟩
  · rintro ⟨hfits, hvalid⟩
    exact ⟨config, hfits, (), hvalid, rfl⟩

lemma ofText_eq_error_iff : ofText path text = .error e ↔
    shape.ofText path text = .error e ∨
      ∃ config d, shape.Fits text config ∧ config.keys.Invalid d ∧ e = .invalid d := by
  simp only [ofText, bind_eq_error_iff, mapError_eq_error_iff, Toml.Shape.ofText_eq_ok_iff,
    EngineKeys.check_eq_error_iff]
  refine or_congr_right ⟨?_, ?_⟩
  · rintro ⟨c, hfits, ⟨d, hd, rfl⟩ | ⟨-, -, h⟩⟩
    · exact ⟨c, d, hfits, hd, rfl⟩
    · cases h
  · rintro ⟨c, d, hfits, hd, rfl⟩
    exact ⟨c, hfits, .inl ⟨d, hd, rfl⟩⟩

lemma val_load (files : Files) (path : String) :
    (load files path).val = files.text path >>= ofText path := by
  rw [load]
  cases files.text path >>= ofText path <;> rfl

structure InFile (files : Files) (path : String) (config : EngineConfig) : Prop where
  holds : files.Holds shape path config
  valid : config.keys.Valid

inductive Fault (files : Files) (path : String) : LoadError → Prop
  | file {e : LoadError} : files.Fault shape path e → Fault files path e
  | keys {config : EngineConfig} {d : Defect} :
      files.Holds shape path config → config.keys.Invalid d → Fault files path (.invalid d)

/-- **What is loaded** is what the file holds, if its keys are valid. -/
theorem load_eq_ok_iff : (load files path).val = .ok config ↔ InFile files path config := by
  simp only [val_load, bind_eq_ok_iff, ofText_eq_ok_iff, Files.text_eq_ok_iff]
  constructor
  · rintro ⟨text, ht, hfits, hvalid⟩
    exact ⟨⟨text, ht, hfits⟩, hvalid⟩
  · rintro ⟨⟨text, ht, hfits⟩, hvalid⟩
    exact ⟨text, ht, hfits, hvalid⟩

/-- **What is refused** is refused for what is wrong with the file, and else with the keys. -/
theorem load_eq_error_iff : (load files path).val = .error e ↔ Fault files path e := by
  simp only [val_load, bind_eq_error_iff, ofText_eq_error_iff, Files.text_eq_ok_iff]
  have hfile : files.Fault shape path e ↔ files.text path = .error e ∨
      ∃ text, files.HoldsText path text ∧ shape.ofText path text = .error e := by
    simp only [← Files.read_eq_error_iff, bind_eq_error_iff, Files.text_eq_ok_iff]
  constructor
  · rintro (h | ⟨text, ht, h | ⟨config, d, hfits, hd, rfl⟩⟩)
    · exact .file (hfile.2 (.inl h))
    · exact .file (hfile.2 (.inr ⟨text, ht, h⟩))
    · exact .keys ⟨text, ht, hfits⟩ hd
  · intro h
    cases h with
    | file h => exact (hfile.1 h).imp_right fun ⟨text, ht, h⟩ => ⟨text, ht, .inl h⟩
    | keys h hd =>
      obtain ⟨text, ht, hfits⟩ := h
      exact .inr ⟨text, ht, .inr ⟨_, _, hfits, hd, rfl⟩⟩

end EngineConfig

end Questline
