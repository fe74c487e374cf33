import Questline.Player
import Questline.Proofs.Flags.Lawful

/-!
Fields over the flags that hold them. What a field reads after a write depends on its key alone,
each kind of field reads back what it stores, and a bounded field counts exactly: its sums are those
of the integers, brought to the nearest value within bounds.
-/

namespace Questline

/-! ### Reads after writes -/

namespace Field

variable {α β : Type} (f : Field α) (flags : FlagReader)

lemma read_write (a : α) : f.read (flags.write (f.write a)) = f.decode (f.encode a) :=
  congrArg f.decode (FlagReader.write_self _ _ _ _)

lemma read_write_of_ne {g : Field β} (h : f.key ≠ g.key) (b : β) :
    f.read (flags.write (g.write b)) = f.read flags :=
  congrArg f.decode (FlagReader.write_of_ne _ h _)

lemma get_set (s : MemoryFlags) (a : α) :
    FlagStore.get (f.set s a).val = FlagReader.write (FlagStore.get s) (f.write a) :=
  MemoryFlags.get_set s (f.write a)

end Field

/-! ### Codes -/

class LawfulCoded (α : Type) [Coded α] : Prop where
  decode_code (a : α) : Coded.decode (Coded.code a) = a

instance : LawfulCoded Rank := ⟨fun r => by cases r <;> rfl⟩

instance : LawfulCoded StoryPhase := ⟨fun a => by cases a <;> rfl⟩

instance : LawfulCoded Motivation := ⟨fun a => by cases a <;> rfl⟩

instance : LawfulCoded RivalFate := ⟨fun a => by cases a <;> rfl⟩

instance : LawfulCoded Alliance := ⟨fun a => by cases a <;> rfl⟩

instance : LawfulCoded MentorChoice := ⟨fun a => by cases a <;> rfl⟩

instance : LawfulCoded ArenaResult := ⟨fun a => by cases a <;> rfl⟩

instance : LawfulCoded JumpLabel := ⟨fun a => by cases a <;> rfl⟩

/-- A member other than the default is read from its code alone. -/
lemma Coded.decode_eq_iff {α : Type} [Coded α] [LawfulCoded α] {a : α} (ha : a ≠ default)
    {v : Int32} : decode v = a ↔ v = code a := by
  constructor
  · intro h
    rw [decode] at h
    cases hfind : (members : List α).find? fun b => code b == v with
    | none =>
      rw [hfind] at h
      exact absurd h.symm ha
    | some b =>
      rw [hfind] at h
      have hcode : code b = v := by simpa using List.find?_some hfind
      obtain rfl : b = a := h
      exact hcode.symm
  · rintro rfl
    exact LawfulCoded.decode_code a

lemma Field.decode_encode_coded {α : Type} [Coded α] [LawfulCoded α] (key : String) (a : α) :
    (coded α key).decode ((coded α key).encode a) = a := LawfulCoded.decode_code a

lemma Field.decode_encode_bool (key : String) (b : Bool) :
    (bool key).decode ((bool key).encode b) = b := by cases b <;> rfl

/-! ### Exact integers -/

def nearest (lo hi i : Int) : Int := max lo (min hi i)

lemma nearest_of_mem {lo hi i : Int} (h : lo ≤ i ∧ i ≤ hi) : nearest lo hi i = i := by
  unfold nearest
  omega

lemma nearest_mem {lo hi : Int} (h : lo ≤ hi) (i : Int) :
    lo ≤ nearest lo hi i ∧ nearest lo hi i ≤ hi := by
  unfold nearest
  omega

/-- Wider bounds make no difference to what lies within narrower ones. -/
lemma nearest_nearest {lo hi lo' hi' : Int} (hlo : lo' ≤ lo) (hhi : hi ≤ hi') (h : lo ≤ hi)
    (i : Int) : nearest lo hi (nearest lo' hi' i) = nearest lo hi i := by
  unfold nearest
  omega

lemma toInt_ofIntClamp (i : Int) :
    (Int32.ofIntClamp i).toInt = nearest (-2147483648) 2147483647 i := by
  have hmin : Int32.minValue.toInt = -2147483648 := rfl
  have hmax : Int32.maxValue.toInt = 2147483647 := rfl
  rcases Int.lt_or_le i (-2147483648) with hlo | hlo
  · -- below the range
    rw [Int32.ofIntClamp, dif_neg (by omega), hmin, nearest]
    omega
  rcases Int.lt_or_le 2147483647 i with hhi | hhi
  · -- above the range
    rw [Int32.ofIntClamp, dif_pos (by omega), dif_neg (by omega), hmax, nearest]
    omega
  · rw [Int32.toInt_ofIntClamp (by omega) (by omega), nearest_of_mem ⟨hlo, hhi⟩]

/-- A sum never wraps. -/
lemma toInt_addSaturating (a b : Int32) :
    (addSaturating a b).toInt = nearest (-2147483648) 2147483647 (a.toInt + b.toInt) :=
  toInt_ofIntClamp _

namespace Field

lemma toInt_clamp {lo hi : Int32} (h : lo.toInt ≤ hi.toInt) (v : Int32) :
    (clamp lo hi v).toInt = nearest lo.toInt hi.toInt v.toInt := by
  rw [clamp, nearest]
  simp only [Int32.lt_iff_toInt_lt]
  split_ifs <;> omega

/-- Clamping does not take a value across a limit that lies within the bounds. -/
lemma le_clamp_iff {lo hi limit : Int32} (hlo : lo.toInt < limit.toInt)
    (hhi : limit.toInt ≤ hi.toInt) {v : Int32} :
    limit ≤ clamp lo hi v ↔ limit.toInt ≤ v.toInt := by
  have hbounds : lo.toInt ≤ hi.toInt := by omega
  rw [Int32.le_iff_toInt_le, toInt_clamp hbounds, nearest]
  omega

lemma clamp_eq_ofInt {lo hi : Int32} (h : lo.toInt ≤ hi.toInt) (v : Int32) :
    clamp lo hi v = Int32.ofInt (nearest lo.toInt hi.toInt v.toInt) := by
  rw [← toInt_clamp h, Int32.ofInt_toInt]

lemma clamp_clamp {lo hi : Int32} (h : lo.toInt ≤ hi.toInt) (v : Int32) :
    clamp lo hi (clamp lo hi v) = clamp lo hi v := by
  rw [clamp_eq_ofInt h (clamp lo hi v), toInt_clamp h, nearest_of_mem (nearest_mem h _),
    clamp_eq_ofInt h]

lemma decode_encode_bounded {lo hi : Int32} (h : lo.toInt ≤ hi.toInt) (key : String) (v : Int32) :
    (bounded lo hi key).decode ((bounded lo hi key).encode v) =
      Int32.ofInt (nearest lo.toInt hi.toInt v.toInt) :=
  (clamp_clamp h v).trans (clamp_eq_ofInt h v)

lemma nearest_decode_bounded {lo hi : Int32} (h : lo.toInt ≤ hi.toInt) (key : String) (v : Int32) :
    Int32.ofInt (nearest lo.toInt hi.toInt ((bounded lo hi key).decode v).toInt) =
      (bounded lo hi key).decode v :=
  (clamp_eq_ofInt h _).symm.trans (clamp_clamp h v)

/-- What a bounded field stores when it is moved is the exact sum, within bounds. -/
lemma toInt_increase_bounded {lo hi : Int32} (h : lo.toInt ≤ hi.toInt) (key : String)
    (flags : FlagReader) (delta : Int32) :
    ((bounded lo hi key).increase flags delta).2.toInt =
      nearest lo.toInt hi.toInt (nearest lo.toInt hi.toInt (flags key 0).toInt + delta.toInt) := by
  have hlo : -2147483648 ≤ lo.toInt := lo.le_toInt
  have hhi : hi.toInt ≤ 2147483647 := by
    have := hi.toInt_lt
    omega
  change (clamp lo hi (addSaturating (clamp lo hi (flags key 0)) delta)).toInt = _
  rw [toInt_clamp h, toInt_addSaturating, toInt_clamp h, nearest_nearest hlo hhi h]

end Field

end Questline
