import Questline.Flags.Field
import Questline.Proofs.Flags.Mirror

/-!
The saves that pass through one store. Saves are attached and taken off, and their switches are
turned, in any order between reads and writes. Each save comes back with the writes that were made
while it was attached, loaded and open to writes, in order, and with no others.
-/

namespace Questline

namespace SaveFlags

inductive Step where
  | attach (save : MapSave)
  | detach
  /-- The host loads or unloads the save that is attached. -/
  | setLoaded (loaded : Bool)
  /-- The host closes the save that is attached to writes, or opens it. -/
  | setReadOnly (readOnly : Bool)
  | setInt (key : String) (value : Int32)
  | setBool (key : String) (value : Bool)
  | getInt (key : String) (default : Int32)
  | hasKey (key : String)
  | getBool (key : String)

namespace Step

def movesSave : Step → Bool
  | attach _ | detach => true
  | _ => false

def write? : Step → Option (String × Int32)
  | setInt key value => some (key, value)
  | setBool key value => some ((Field.bool key).write value)
  | _ => none

end Step

inductive Reply where
  | done
  /-- The save that was attached before. -/
  | save (previous : Option MapSave)
  | value (v : Int32)
  | holds (b : Bool)

/-- The host turns the switches of its save, if that is attached. -/
def turn (s : SaveFlags MapSave) (f : MapSave → MapSave) : SaveFlags MapSave := ⟨s.host.map f⟩

def step (s : SaveFlags MapSave) : Step → Logged (Reply × SaveFlags MapSave)
  | .attach save => pure (.save (s.attach save).2, (s.attach save).1)
  | .detach => pure (.save s.detach.2, s.detach.1)
  | .setLoaded loaded => pure (.done, s.turn fun save => { save with loaded })
  | .setReadOnly readOnly => pure (.done, s.turn fun save => { save with readOnly })
  | .setInt key value => do
    let s ← FlagStore.set s key value
    pure (.done, s)
  | .setBool key value => do
    let s ← (Field.bool key).set s value
    pure (.done, s)
  | .getInt key default => pure (.value (FlagStore.get s key default), s)
  | .hasKey key => pure (.holds (FlagStore.has s key), s)
  | .getBool key => pure (.holds ((Field.bool key).get s), s)

def run (s : SaveFlags MapSave) (steps : List Step) : SaveFlags MapSave :=
  steps.foldl (fun s x => (s.step x).val.2) s

@[simp] lemma run_nil (s : SaveFlags MapSave) : s.run [] = s := rfl

@[simp] lemma run_cons (s : SaveFlags MapSave) (x : Step) (steps : List Step) :
    s.run (x :: steps) = (s.step x).val.2.run steps := rfl

lemma run_append (s : SaveFlags MapSave) (xs ys : List Step) :
    s.run (xs ++ ys) = (s.run xs).run ys := List.foldl_append

/-- The writes among some steps that find a save loaded and open to writes, from how its switches
are at first. -/
def taken : (loaded readOnly : Bool) → List Step → List (String × Int32)
  | _, _, [] => []
  | _, readOnly, .setLoaded loaded :: steps => taken loaded readOnly steps
  | loaded, _, .setReadOnly readOnly :: steps => taken loaded readOnly steps
  | loaded, readOnly, x :: steps =>
    (if loaded && !readOnly then x.write?.toList else []) ++ taken loaded readOnly steps

/-- A save is attached that is loaded and open to writes. -/
def Open (s : SaveFlags MapSave) : Prop :=
  ∃ save, s.host = some save ∧ save.loaded = true ∧ save.readOnly = false

/-! ### Steps -/

variable {s : SaveFlags MapSave}

lemma step_of_write? {x : Step} {w : String × Int32} (hx : x.write? = some w) :
    s.step x = (fun t => (.done, t)) <$> FlagStore.set s w.1 w.2 := by
  cases x with
  | setInt key value => cases hx; rfl
  | setBool key value => cases hx; rfl
  | attach | detach | setLoaded | setReadOnly | getInt | hasKey | getBool => cases hx

lemma get_bool (s : SaveFlags MapSave) (key : String) :
    (Field.bool key).get s = (FlagStore.get s key 0 == 1) := rfl

lemma loaded?_of_closed (h : ∀ save ∈ s.host, save.loaded = false) : s.loaded? = none := by
  refine Option.filter_eq_none_iff.2 fun save hsave => ?_
  exact Bool.not_eq_true _ ▸ h save hsave

/-- A write on an open save is taken without a word. -/
lemma step_taken {save : MapSave} (hs : s.host = some save) (hl : save.loaded = true)
    (hr : save.readOnly = false) {x : Step} {w : String × Int32} (hx : x.write? = some w) :
    s.step x = pure (.done, ⟨some { save with values := save.values.insert w.1 w.2 }⟩) := by
  have hw : SaveHost.write save w.1 w.2 =
      .ok { save with values := save.values.insert w.1 w.2 } := by
    simp [SaveHost.write, hr]
  rw [step_of_write? hx, set_of_taken (loaded?_of_isLoaded hs hl) hw]
  rfl

lemma step_dropped (h : ¬ s.Open) {x : Step} {w : String × Int32} (hx : x.write? = some w) :
    ∃ n : Notice, n.level = .warn ∧ s.step x = ⟨(.done, s), [⟨n, none⟩]⟩ := by
  rw [step_of_write? hx]
  cases hs : s.loaded? with
  | none => exact ⟨.writeDropped w.1 w.2, rfl, by rw [set_of_not_loaded hs]; rfl⟩
  | some save =>
    obtain ⟨hhost, hl⟩ := Option.filter_eq_some_iff.1 hs
    -- a loaded save that is not open is read-only
    have hr : save.readOnly = true := eq_true_of_ne_false fun hr => h ⟨save, hhost, hl, hr⟩
    have hw : SaveHost.write save w.1 w.2 = .error "save is read-only" := by
      simp [SaveHost.write, hr]
    exact ⟨.writeRejected w.1 w.2 "save is read-only", rfl, by rw [set_of_refused hs hw]; rfl⟩

/-! ### Runs -/

lemma taken_write {x : Step} {w : String × Int32} (hx : x.write? = some w)
    (loaded readOnly : Bool) (steps : List Step) :
    taken loaded readOnly (x :: steps) =
      (if loaded && !readOnly then [w] else []) ++ taken loaded readOnly steps := by
  cases x with
  | setInt key value => cases hx; rfl
  | setBool key value => cases hx; rfl
  | attach | detach | setLoaded | setReadOnly | getInt | hasKey | getBool => cases hx

/-- One step of a save that stays attached: the writes that it is still to take are one fewer if the
step is a write and the save is open. -/
lemma host_step {save : MapSave} (hs : s.host = some save) {x : Step}
    (hstay : x.movesSave = false) (steps : List Step) :
    ∃ save', (s.step x).val.2.host = some save' ∧
      save.values.writeAll (taken save.loaded save.readOnly (x :: steps)) =
        save'.values.writeAll (taken save'.loaded save'.readOnly steps) := by
  cases hx : x.write? with
  | some w =>
    rw [taken_write hx]
    by_cases hopen : save.loaded = true ∧ save.readOnly = false
    · obtain ⟨hl, hr⟩ := hopen
      refine ⟨{ save with values := save.values.insert w.1 w.2 }, ?_, ?_⟩
      · rw [step_taken hs hl hr hx]; rfl
      · simp [hl, hr]
    · have hclosed : ¬ s.Open := by
        rintro ⟨save', hs', h⟩
        cases hs.symm.trans hs'
        exact hopen h
      obtain ⟨n, -, hstep⟩ := step_dropped hclosed hx
      refine ⟨save, by rw [hstep, hs], ?_⟩
      rw [if_neg (by simpa using hopen)]
      rfl
  | none =>
    cases x with
    | attach | detach => cases hstay
    | setInt | setBool => cases hx
    | setLoaded loaded => exact ⟨{ save with loaded }, by simp [step, turn, hs], rfl⟩
    | setReadOnly readOnly => exact ⟨{ save with readOnly }, by simp [step, turn, hs], rfl⟩
    | getInt | hasKey | getBool => exact ⟨save, hs, by simp [taken, Step.write?]⟩

/-- While a save stays attached, it gets the writes that find it open. -/
lemma values_run {save : MapSave} (hs : s.host = some save) {steps : List Step}
    (hstay : ∀ x ∈ steps, x.movesSave = false) :
    (s.run steps).host.map MapSave.values =
      some (save.values.writeAll (taken save.loaded save.readOnly steps)) := by
  induction steps generalizing s save with
  | nil => rw [run_nil, hs]; rfl
  | cons x steps ih =>
    obtain ⟨save', hs', hvalues⟩ := host_step hs (hstay x List.mem_cons_self) steps
    rw [run_cons, hvalues]
    exact ih hs' fun x hx => hstay x (List.mem_cons_of_mem _ hx)

example : taken true false [.setInt "a" 1, .setReadOnly true, .setInt "a" 2, .setReadOnly false,
    .setBool "b" true] = [("a", 1), ("b", 1)] := rfl

lemma host_step_none (hs : s.host = none) {x : Step} (hstay : x.movesSave = false) :
    (s.step x).val.2.host = none := by
  cases hx : x.write? with
  | some w =>
    have hclosed : ¬ s.Open := by
      rintro ⟨save, hs', -⟩
      cases hs.symm.trans hs'
    obtain ⟨n, -, hstep⟩ := step_dropped hclosed hx
    rw [hstep, hs]
  | none =>
    cases x with
    | attach | detach => cases hstay
    | setInt | setBool => cases hx
    | setLoaded | setReadOnly => simp [step, turn, hs]
    | getInt | hasKey | getBool => exact hs

lemma host_run_none (hs : s.host = none) {steps : List Step}
    (hstay : ∀ x ∈ steps, x.movesSave = false) : (s.run steps).host = none := by
  induction steps generalizing s with
  | nil => exact hs
  | cons x steps ih =>
    rw [run_cons]
    exact ih (host_step_none hs (hstay x List.mem_cons_self))
      fun x hx => hstay x (List.mem_cons_of_mem _ hx)

/-- What a store promises about the saves that pass through it, whatever is attached at first. -/
structure Custody (s : SaveFlags MapSave) : Prop where
  /-- The save that is attached at first has the writes it took, until it is moved. -/
  first (steps : List Step) : (∀ x ∈ steps, x.movesSave = false) →
    (s.run steps).host.map MapSave.values =
      s.host.map fun save => save.values.writeAll (taken save.loaded save.readOnly steps)
  /-- So has a save that is attached later, whatever was done before. -/
  attached (before : List Step) (save : MapSave) (steps : List Step) :
    (∀ x ∈ steps, x.movesSave = false) →
    (s.run (before ++ .attach save :: steps)).host.map MapSave.values =
      some (save.values.writeAll (taken save.loaded save.readOnly steps))
  detached (before steps : List Step) : (∀ x ∈ steps, x.movesSave = false) →
    (s.run (before ++ .detach :: steps)).host = none
  /-- What is handed back is the save that was attached until then. -/
  handedBack (before : List Step) {x : Step} : x.movesSave = true →
    ((s.run before).step x).val.1 = .save (s.run before).host
  /-- A write that finds its save open is not reported. -/
  quiet (before : List Step) {x : Step} {w : String × Int32} : x.write? = some w →
    (s.run before).Open → ((s.run before).step x).log = []
  /-- Any other write changes nothing and is reported by one warning. -/
  dropped (before : List Step) {x : Step} {w : String × Int32} : x.write? = some w →
    ¬ (s.run before).Open →
    ((s.run before).step x).val.2 = s.run before ∧
      ∃ e, ((s.run before).step x).log = [e] ∧ e.notice.level = .warn
  /-- Without a loaded save every read yields its default. -/
  unread (before : List Step) : (∀ save ∈ (s.run before).host, save.loaded = false) →
    ∀ key d,
      (s.run before).step (.getInt key d) = pure (.value d, s.run before) ∧
      (s.run before).step (.hasKey key) = pure (.holds false, s.run before) ∧
      (s.run before).step (.getBool key) = pure (.holds false, s.run before)
  /-- With one, every read is answered from its flags. -/
  read (before : List Step) {save : MapSave} : (s.run before).host = some save →
    save.loaded = true → ∀ key d,
      (s.run before).step (.getInt key d) =
        pure (.value ((save.values[key]?).getD d), s.run before) ∧
      (s.run before).step (.hasKey key) =
        pure (.holds (save.values.contains key), s.run before) ∧
      (s.run before).step (.getBool key) =
        pure (.holds (save.values[key]? == some 1), s.run before)

/-- **No save gains, loses or inherits a write**: every store keeps the saves that pass through
it. -/
theorem custody (s : SaveFlags MapSave) : s.Custody where
  first steps hstay := by
    cases hs : s.host with
    | none => rw [host_run_none hs hstay]; rfl
    | some save => exact values_run hs hstay
  attached before save steps hstay := by
    rw [run_append, run_cons]
    exact values_run rfl hstay
  detached before steps hstay := by
    rw [run_append, run_cons]
    exact host_run_none rfl hstay
  handedBack before x hx := by
    cases x with
    | attach | detach => rfl
    | setLoaded | setReadOnly | setInt | setBool | getInt | hasKey | getBool => cases hx
  quiet before x w hx hopen := by
    obtain ⟨save, hs, hl, hr⟩ := hopen
    rw [step_taken hs hl hr hx]
    rfl
  dropped before x w hx hclosed := by
    obtain ⟨n, hn, hstep⟩ := step_dropped hclosed hx
    rw [hstep]
    exact ⟨rfl, _, rfl, hn⟩
  unread before h key d := by
    have hs := loaded?_of_closed h
    have hbool : (Field.bool key).get (s.run before) = false := by
      rw [get_bool, get_of_not_loaded hs]
      rfl
    simp only [step, get_of_not_loaded hs, has_of_not_loaded hs, hbool, and_self]
  read before save hs hl key d := by
    have hs := loaded?_of_isLoaded hs hl
    have hbool : (Field.bool key).get (s.run before) = (save.values[key]? == some 1) := by
      rw [get_bool, get_of_loaded hs]
      change ((save.values[key]?).getD 0 == 1) = _
      cases save.values[key]? <;> rfl
    have hhas : FlagStore.has (s.run before) key = save.values.contains key := by
      rw [has_of_loaded hs]
      exact Std.ExtTreeMap.contains_eq_isSome_getElem?.symm
    have hget : FlagStore.get (s.run before) key d = (save.values[key]?).getD d :=
      get_of_loaded hs key d
    simp only [step, hget, hhas, hbool, and_self]

end SaveFlags

end Questline
