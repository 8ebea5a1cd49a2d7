import Quartz.Eval.Basic

/-!
# `Quartz.Proofs.Eval.Basic`: runs step by step

A run is a function from a state to a result with a state. The lemmas here take a run
apart at its binds, in the three forms that proofs need: what a bind does after a value,
what it does after a stop, and which halves a successful bind was made of.

`Ends` says what holds when a run is over, however it ended. Its rules follow the ways in which
runs are put together.
-/

set_option autoImplicit false

namespace Quartz

namespace Eval

variable {α β : Type} {x : Eval α} {f : α → Eval β} {a : α} {b : β} {st st' : State}

theorem bind_of_ok (h : x st = .ok a st') : (x >>= f) st = f a st' := by
  show EStateM.bind x f st = f a st'
  simp only [EStateM.bind, h]

theorem bind_of_error {stop : Stop} (h : x st = .error stop st') :
    (x >>= f) st = .error stop st' := by
  show EStateM.bind x f st = _
  simp only [EStateM.bind, h]

/-- A successful bind is two successful runs, the second from where the first ended. -/
theorem bind_eq_ok :
    (x >>= f) st = .ok b st' ↔ ∃ a mid, x st = .ok a mid ∧ f a mid = .ok b st' := by
  cases h : x st with
  | ok a mid =>
    rw [bind_of_ok h]
    constructor
    · intro hf
      exact ⟨a, mid, rfl, hf⟩
    · rintro ⟨a', mid', he, hf⟩
      cases he
      exact hf
  | error stop mid =>
    rw [bind_of_error h]
    constructor
    · exact nofun
    · rintro ⟨_, _, he, _⟩
      exact nomatch he

theorem bind_congr_left {y : Eval α} (h : x st = y st) : (x >>= f) st = (y >>= f) st := by
  show EStateM.bind x f st = EStateM.bind y f st
  simp only [EStateM.bind, h]

/-- Binds after the same run agree if they agree on what it gives. -/
theorem bind_congr_at {g : α → Eval β} (h : ∀ a st', x st = .ok a st' → f a st' = g a st') :
    (x >>= f) st = (x >>= g) st := by
  cases hrun : x st with
  | ok a mid =>
    rw [bind_of_ok hrun, bind_of_ok hrun]
    exact h a mid hrun
  | error stop mid => rw [bind_of_error hrun, bind_of_error hrun]

@[simp]
theorem pure_apply (a : α) (st : State) : (pure a : Eval α) st = .ok a st := rfl

@[simp]
theorem fail_apply (cause : Cause) (offset : Int) (st : State) :
    (fail cause offset : Eval α) st = .error (.fault (.runtime ⟨cause, offset⟩)) st := rfl

@[simp]
theorem stop_apply (f : Fault) (st : State) : (stop f : Eval α) st = .error (.fault f) st := rfl

/-- A check that passes changes nothing. -/
theorem ofOperator_eq_ok {offset : Int} {r : Except Cause α}
    (h : ofOperator offset r st = .ok a st') : r = .ok a ∧ st' = st := by
  cases r with
  | ok b =>
    cases h
    exact ⟨rfl, rfl⟩
  | error cause => exact nomatch h

/-- A run that is not stopped has no fault to change. -/
theorem mapFault_eq_ok {g : Fault → Fault} : mapFault g x st = .ok a st' ↔ x st = .ok a st' := by
  unfold mapFault
  cases hrun : x st with
  | ok b mid => rfl
  | error stop mid => cases stop <;> simp

/-- Reading the state changes nothing. -/
theorem get_bind_apply (f : State → Eval β) (st : State) : (get >>= f) st = f st st := rfl

/-- The state in which a run ends, however it ends. -/
def after (x : Eval α) (st : State) : State :=
  match x st with
  | .ok _ st' => st'
  | .error _ st' => st'

/-- However a run ends, it was led to its last state. A value that it gives has a property there,
and a fault that stops it has one too. What is known of a state besides itself goes along as an
index. -/
def Ends {κ : Type} (x : Eval α) (st : State) (led : κ → State → Prop)
    (F : κ → State → Fault → Prop) (Q : κ → State → α → Prop) : Prop :=
  match x st with
  | .ok a st' => ∃ k, led k st' ∧ Q k st' a
  | .error stop st' => ∃ k, led k st' ∧ ∀ f, stop = .fault f → F k st' f

namespace Ends

variable {κ : Type} {led led' : κ → State → Prop} {F F' : κ → State → Fault → Prop}
  {P Q : κ → State → α → Prop} {R : κ → State → β → Prop} {k : κ}

theorem ofError {stop : Stop} (hrun : x st = .error stop st') (hled : led k st')
    (hF : ∀ f, stop = .fault f → F k st' f) : x.Ends st led F Q := by
  unfold Ends
  rw [hrun]
  exact ⟨k, hled, hF⟩

theorem congr {y : Eval α} (hx : x.Ends st led F Q) (h : y st = x st) : y.Ends st led F Q := by
  unfold Ends at hx ⊢
  rwa [h]

/-- A run whose first part is known goes on from there. -/
theorem bindOk (hrun : x st = .ok a st') (hf : (f a).Ends st' led F R) :
    (x >>= f).Ends st led F R := by
  unfold Ends at hf ⊢
  rwa [bind_of_ok hrun]

/-- A stop in the first part ends the whole. Otherwise the second part goes on. -/
theorem bind (hx : x.Ends st led F P)
    (hf : ∀ a k st', led k st' → P k st' a → (f a).Ends st' led F R) :
    (x >>= f).Ends st led F R := by
  unfold Ends at hx
  cases hrun : x st with
  | error stop mid =>
    rw [hrun] at hx
    obtain ⟨k, hled, hF⟩ := hx
    exact .ofError (bind_of_error hrun) hled hF
  | ok a mid =>
    rw [hrun] at hx
    obtain ⟨k, hled, ha⟩ := hx
    exact .bindOk hrun (hf a k mid hled ha)

theorem mono (hx : x.Ends st led F P) (hled : ∀ k st', led k st' → led' k st')
    (hF : ∀ k st' f, led k st' → F k st' f → F' k st' f)
    (hQ : ∀ k st' a, led k st' → P k st' a → Q k st' a) : x.Ends st led' F' Q := by
  unfold Ends at *
  split at hx
  · obtain ⟨k, hk, ha⟩ := hx
    exact ⟨k, hled _ _ hk, hQ _ _ _ hk ha⟩
  · obtain ⟨k, hk, hf⟩ := hx
    exact ⟨k, hled _ _ hk, fun f hstop => hF _ _ f hk (hf f hstop)⟩

/-- Where states are led on from state to state, the second part counts from where the first
part ended. -/
theorem andThen {led : κ → State → κ → State → Prop}
    (htrans : ∀ {k st k' st' k'' st''}, led k st k' st' → led k' st' k'' st'' → led k st k'' st'')
    (hx : x.Ends st (led k st) F P)
    (hf : ∀ a k' st', led k st k' st' → P k' st' a → (f a).Ends st' (led k' st') F R) :
    (x >>= f).Ends st (led k st) F R :=
  hx.bind fun a k' st' hled ha =>
    (hf a k' st' hled ha).mono (fun _ _ hled' => htrans hled hled') (fun _ _ _ _ h => h)
      fun _ _ _ _ hb => hb

theorem mapFault {g : Fault → Fault} (hx : x.Ends st led F Q)
    (hg : ∀ k st' f, led k st' → F k st' f → F k st' (g f)) : (mapFault g x).Ends st led F Q := by
  unfold Ends Eval.mapFault at *
  cases hrun : x st with
  | ok a st' =>
    rw [hrun] at hx
    exact hx
  | error stop st' =>
    rw [hrun] at hx
    obtain ⟨k, hled, hF⟩ := hx
    cases stop with
    | exhausted => exact ⟨k, hled, hF⟩
    | fault f =>
      refine ⟨k, hled, fun f' hf' => ?_⟩
      cases hf'
      exact hg k st' f hled (hF f rfl)

/-- A change of the state at the end leads on, whatever came before. -/
theorem thenAlways {cleanup : State → State} (hx : x.Ends st led F P)
    (hled : ∀ k st', led k st' → led' k (cleanup st'))
    (hF : ∀ k st' f, led k st' → F k st' f → F' k (cleanup st') f)
    (hQ : ∀ k st' a, led k st' → P k st' a → Q k (cleanup st') a) :
    (thenAlways cleanup x).Ends st led' F' Q := by
  unfold Ends Eval.thenAlways at *
  cases hrun : x st with
  | ok a st' =>
    rw [hrun] at hx
    obtain ⟨k, hk, ha⟩ := hx
    exact ⟨k, hled _ _ hk, hQ _ _ _ hk ha⟩
  | error stop st' =>
    rw [hrun] at hx
    obtain ⟨k, hk, hf⟩ := hx
    exact ⟨k, hled _ _ hk, fun f hstop => hF _ _ f hk (hf f hstop)⟩

theorem exists_after (hx : x.Ends st led F Q) : ∃ k, led k (x.after st) := by
  unfold Ends at hx
  unfold after
  cases hrun : x st with
  | ok a st' =>
    rw [hrun] at hx
    obtain ⟨k, hk, _⟩ := hx
    exact ⟨k, hk⟩
  | error stop st' =>
    rw [hrun] at hx
    obtain ⟨k, hk, _⟩ := hx
    exact ⟨k, hk⟩

theorem exists_of_ok (hx : x.Ends st led F Q) (hrun : x st = .ok a st') :
    ∃ k, led k st' ∧ Q k st' a := by
  unfold Ends at hx
  rwa [hrun] at hx

theorem exists_of_fault (hx : x.Ends st led F Q) {fault : Fault}
    (hrun : x st = .error (.fault fault) st') : ∃ k, led k st' ∧ F k st' fault := by
  unfold Ends at hx
  rw [hrun] at hx
  obtain ⟨k, hk, hF⟩ := hx
  exact ⟨k, hk, hF fault rfl⟩

end Ends

end Eval

/-- The value that a run gave. -/
def result? {α : Type} : EStateM.Result Stop State α → Option α
  | .ok a _ => some a
  | .error _ _ => none

theorem exists_of_result? {α : Type} {r : EStateM.Result Stop State α}
    (h : (result? r).isSome = true) : ∃ a st', r = .ok a st' := by
  cases r with
  | ok a st' => exact ⟨a, st', rfl⟩
  | error stop st' => cases h

/-- A run that gives a value, with what was computed from the value and the last state. -/
theorem exists_of_map_result? {α β : Type} {x : Eval α} {st : State} {f : α → State → β} {b : β}
    (h : (result? (x st)).map (fun a => f a (x.after st)) = some b) :
    ∃ a st', x st = .ok a st' ∧ f a st' = b := by
  unfold Eval.after at h
  cases hrun : x st with
  | ok a st' =>
    rw [hrun] at h
    exact ⟨a, st', rfl, Option.some.inj h⟩
  | error stop st' =>
    rw [hrun] at h
    cases h

/-- The code and the place of the error that a run ended with. -/
def failure? {α : Type} : EStateM.Result Stop State α → Option (Code × Int)
  | .error (.fault f) _ => f.runtime?.map fun e => (e.cause.code, e.offset)
  | _ => none

theorem exists_of_failure? {α : Type} {x : EStateM.Result Stop State α} {code : Code} {offset : Int}
    (h : failure? x = some (code, offset)) :
    ∃ f st e, x = .error (.fault f) st ∧ f.runtime? = some e ∧ e.cause.code = code ∧
      e.offset = offset := by
  cases x with
  | ok a st => simp [failure?] at h
  | error stop st =>
    cases stop with
    | exhausted => simp [failure?] at h
    | fault f =>
      obtain ⟨e, he, heq⟩ := Option.map_eq_some_iff.1 h
      cases heq
      exact ⟨f, st, e, rfl, he, rfl, rfl⟩

end Quartz
