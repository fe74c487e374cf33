import Mathlib.Tactic.Lemma
import Mathlib.Tactic.SplitIfs
import Questline.Files.Loading

/-!
Data of some shape in files. A file holds it if its bytes are a text, the text is a TOML document
and the document has the shape. Each way in which a file falls short of that is an error of its own,
with the path in it.
-/

namespace Questline

/-! ### Results in sequence -/

section Sequence

variable {ε α β : Type} {x : Except ε α} {f : α → Except ε β}

@[simp] lemma ok_bind (a : α) : Except.ok a >>= f = f a := rfl

@[simp] lemma error_bind (e : ε) : Except.error e >>= f = .error e := rfl

lemma bind_eq_ok_iff {b : β} : x >>= f = .ok b ↔ ∃ a, x = .ok a ∧ f a = .ok b := by
  cases x with
  | error e => simp
  | ok a => simp

lemma bind_eq_error_iff {e : ε} :
    x >>= f = .error e ↔ x = .error e ∨ ∃ a, x = .ok a ∧ f a = .error e := by
  cases x with
  | error e => simp
  | ok a => simp

lemma mapError_eq_ok_iff {δ : Type} {g : ε → δ} {a : α} : x.mapError g = .ok a ↔ x = .ok a := by
  cases x <;> simp [Except.mapError]

lemma mapError_eq_error_iff {δ : Type} {g : ε → δ} {d : δ} :
    x.mapError g = .error d ↔ ∃ e, x = .error e ∧ g e = d := by
  cases x <;> simp [Except.mapError]

lemma toOption_bind :
    (x >>= f).toOption = x.toOption.bind fun a => (f a).toOption := by
  cases x <;> rfl

lemma toOption_mapError {δ : Type} (g : ε → δ) : (x.mapError g).toOption = x.toOption := by
  cases x <;> rfl

lemma eq_ok_of_toOption {a : α} (h : x.toOption = some a) : x = .ok a := by
  cases x with
  | error e => cases h
  | ok b => exact congrArg Except.ok (Option.some.inj h)

end Sequence

/-! ### The text of a file -/

namespace FileTree

variable {t : FileTree} {text : String} {cause : ReadFault}

def IsText (t : FileTree) (text : String) : Prop :=
  ∃ bytes, t = file bytes ∧ String.fromUTF8? bytes = some text

inductive Unreadable : FileTree → ReadFault → Prop
  | notAFile {t : FileTree} : t.isFolder = true → t.Unreadable .notAFile
  | denied : closedFile.Unreadable .denied
  | notText {bytes : ByteArray} :
      String.fromUTF8? bytes = none → (file bytes).Unreadable .notText

lemma text_eq_ok_iff : t.text = .ok text ↔ t.IsText text := by
  cases t with
  | file bytes => cases h : String.fromUTF8? bytes <;> simp [FileTree.text, IsText, h]
  | closedFile => simp [FileTree.text, IsText]
  | folder entries => simp [FileTree.text, IsText]
  | closedFolder => simp [FileTree.text, IsText]

lemma text_eq_error_iff : t.text = .error cause ↔ t.Unreadable cause := by
  constructor
  · intro h
    cases t with
    | file bytes =>
      cases hb : String.fromUTF8? bytes with
      | none =>
        rw [FileTree.text, hb] at h
        cases h
        exact .notText hb
      | some text =>
        rw [FileTree.text, hb] at h
        cases h
    | closedFile =>
      cases h
      exact .denied
    | folder entries =>
      cases h
      exact .notAFile rfl
    | closedFolder =>
      cases h
      exact .notAFile rfl
  · intro h
    cases h with
    | notAFile ht =>
      cases t with
      | file bytes => cases ht
      | closedFile => cases ht
      | folder entries => rfl
      | closedFolder => rfl
    | denied => rfl
    | notText hb => rw [FileTree.text, hb]

end FileTree

namespace Files

variable {files : Files} {path text : String} {e : LoadError}

def HoldsText (files : Files) (path text : String) : Prop :=
  ∃ t, files path = some t ∧ t.IsText text

inductive TextFault (files : Files) (path : String) : ReadFault → Prop
  | missing : files path = none → files.TextFault path .missing
  | unreadable {t : FileTree} {cause : ReadFault} :
      files path = some t → t.Unreadable cause → files.TextFault path cause

lemma text_eq_ok_iff : files.text path = .ok text ↔ files.HoldsText path text := by
  rw [Files.text, HoldsText]
  cases files path with
  | none => simp
  | some t => simp [mapError_eq_ok_iff, FileTree.text_eq_ok_iff]

lemma text_eq_error_iff : files.text path = .error e ↔
    ∃ cause, files.TextFault path cause ∧ e = .unreadable path cause := by
  rw [Files.text]
  cases hf : files path with
  | none =>
    constructor
    · rintro ⟨⟩
      exact ⟨.missing, .missing hf, rfl⟩
    · rintro ⟨cause, h, rfl⟩
      cases h with
      | missing => rfl
      | unreadable ht => rw [hf] at ht; cases ht
  | some t =>
    simp only [mapError_eq_error_iff, FileTree.text_eq_error_iff]
    constructor
    · rintro ⟨cause, h, rfl⟩
      exact ⟨cause, .unreadable hf h, rfl⟩
    · rintro ⟨cause, h, rfl⟩
      cases h with
      | missing hn => rw [hf] at hn; cases hn
      | unreadable ht h =>
        obtain rfl := Option.some.inj (hf.symm.trans ht)
        exact ⟨cause, h, rfl⟩

end Files

/-! ### Data in a text -/

namespace Toml.Shape

variable {α : Type} {shape : Toml.Shape α} {path text : String} {a : α} {e : LoadError}

/-- A text is a TOML document of some shape, with some data. -/
def Fits (shape : Toml.Shape α) (text : String) (a : α) : Prop :=
  ∃ members, Toml.parse? text = some members ∧ shape (.table members) = some a

inductive Misfit (shape : Toml.Shape α) (text : String) : ParseFault → Prop
  | notToml : Toml.parse? text = none → shape.Misfit text .notToml
  | wrongShape {members : List (String × Value)} :
      Toml.parse? text = some members → shape (.table members) = none →
        shape.Misfit text .wrongShape

lemma ofText_eq_ok_iff : shape.ofText path text = .ok a ↔ shape.Fits text a := by
  rw [ofText, Fits]
  cases Toml.parse? text with
  | none => simp
  | some members => cases h : shape (.table members) <;> simp [h]

lemma ofText_eq_error_iff : shape.ofText path text = .error e ↔
    ∃ cause, shape.Misfit text cause ∧ e = .unparsable path cause := by
  rw [ofText]
  constructor
  · intro h
    split at h
    · next hp =>
      cases h
      exact ⟨.notToml, .notToml hp, rfl⟩
    · next members hp =>
      split at h
      · next hs =>
        cases h
        exact ⟨.wrongShape, .wrongShape hp hs, rfl⟩
      · cases h
  · rintro ⟨cause, h, rfl⟩
    cases h with
    | notToml hp => rw [hp]
    | wrongShape hp hs => simp only [hp, hs]

lemma toOption_ofText (shape : Toml.Shape α) (path text : String) :
    (shape.ofText path text).toOption =
      (Toml.parse? text).bind fun members => shape (.table members) := by
  rw [ofText]
  cases Toml.parse? text with
  | none => rfl
  | some members => cases h : shape (.table members) <;> simp [h, Except.toOption]

end Toml.Shape

/-! ### Data in a file -/

namespace Files

variable {α : Type} {files : Files} {shape : Toml.Shape α} {path : String} {a : α} {e : LoadError}

def Holds (files : Files) (shape : Toml.Shape α) (path : String) (a : α) : Prop :=
  ∃ text, files.HoldsText path text ∧ shape.Fits text a

/-- Why there is no data of some shape at a path. -/
inductive Fault (files : Files) (shape : Toml.Shape α) (path : String) : LoadError → Prop
  | unreadable {cause : ReadFault} :
      files.TextFault path cause → files.Fault shape path (.unreadable path cause)
  | unparsable {text : String} {cause : ParseFault} :
      files.HoldsText path text → shape.Misfit text cause →
        files.Fault shape path (.unparsable path cause)

theorem read_eq_ok_iff :
    files.text path >>= shape.ofText path = .ok a ↔ files.Holds shape path a := by
  simp only [bind_eq_ok_iff, text_eq_ok_iff, Toml.Shape.ofText_eq_ok_iff, Holds]

theorem read_eq_error_iff :
    files.text path >>= shape.ofText path = .error e ↔ files.Fault shape path e := by
  simp only [bind_eq_error_iff, text_eq_ok_iff, text_eq_error_iff, Toml.Shape.ofText_eq_error_iff]
  constructor
  · rintro (⟨cause, h, rfl⟩ | ⟨text, ht, cause, h, rfl⟩)
    · exact .unreadable h
    · exact .unparsable ht h
  · rintro (h | ⟨ht, h⟩)
    · exact .inl ⟨_, h, rfl⟩
    · exact .inr ⟨_, ht, _, h, rfl⟩

end Files

end Questline
