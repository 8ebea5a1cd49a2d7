import Quartz.Proofs.Cursor.Machine
import Quartz.Proofs.Eval.Course

/-!
# `Quartz.Proofs.Cursor.Simulation`: checked runs beside runs

`Simulates` compares a checked run with a run from the same state: they end alike, with results
that correspond, in the same state. Since a run never reaches out of range, neither does a checked
run that simulates one. The rules follow the ways in which runs are put together. `ReadsAs` is the
same for readings of tokens, which do not look at the state.
-/

set_option autoImplicit false

namespace Quartz

namespace Guarded

variable {α β : Type} {x : Guarded α} {f : α → Guarded β} {st st' : State}

theorem bind_of_ok {a : α} (h : x st = .ok a st') : (x >>= f) st = f a st' := by
  simp only [bind, EStateM.bind, h]

theorem bind_of_error {e : Halt} (h : x st = .error e st') : (x >>= f) st = .error e st' := by
  simp only [bind, EStateM.bind, h]

theorem ofEval_of_ok {y : Eval α} {a : α} (h : y st = .ok a st') :
    ofEval y st = .ok a st' := by
  unfold ofEval
  rw [h]

theorem ofEval_of_error {y : Eval α} {s : Stop} (h : y st = .error s st') :
    ofEval y st = .error (.stop s) st' := by
  unfold ofEval
  rw [h]

/-- Nothing follows a fault. -/
theorem stop_bind (fault : Fault) (f : α → Guarded β) :
    ofEval (Eval.stop fault) >>= f = ofEval (Eval.stop fault) := by
  funext st
  exact bind_of_error rfl

theorem mapFault_pure (g : Fault → Fault) (a : α) :
    mapFault g (pure a : Guarded α) = pure a := rfl

theorem mapFault_stop (g : Fault → Fault) (fault : Fault) :
    mapFault g (ofEval (Eval.stop fault) : Guarded α) = ofEval (Eval.stop (g fault)) := rfl

/-- A run that checks nothing ends with a value, with a fault, or with its levels of calls used
up. -/
theorem ofEval_ends (y : Eval α) (st : State) :
    (∃ a st', ofEval y st = .ok a st') ∨
      (∃ f st', ofEval y st = .error (.stop (.fault f)) st') ∨
      ∃ st', ofEval y st = .error (.stop .exhausted) st' := by
  cases hy : y st with
  | ok a st' => exact .inl ⟨a, st', ofEval_of_ok hy⟩
  | error s st' =>
    cases s with
    | fault f => exact .inr (.inl ⟨f, st', ofEval_of_error hy⟩)
    | exhausted => exact .inr (.inr ⟨st', ofEval_of_error hy⟩)

theorem demand_of {p : State → Prop} [DecidablePred p] (h : p st) :
    demand p st = .ok () st := by
  show (if p st then pure () else outOfRange : Guarded Unit) st = .ok () st
  rw [if_pos h]
  rfl

theorem ensure_eq {p : Prop} [Decidable p] (h : p) : ensure p = pure ⟨h⟩ := dif_pos h

end Guarded

/-! ### Readings of tokens -/

/-- A checked reading gives what a reading gives, or something that corresponds to it. -/
def ReadsAs {α β : Type} (R : α → β → Prop) (x : Guarded α) (y : Except RuntimeError β) : Prop :=
  match y with
  | .ok b => ∃ a, R a b ∧ x = pure a
  | .error e => x = Guarded.ofEval (Eval.stop (.runtime e))

namespace ReadsAs

variable {α β γ δ : Type} {R : α → β → Prop} {R' : γ → δ → Prop} {x : Guarded α}
  {y : Except RuntimeError β}

theorem pure {a : α} {b : β} (h : R a b) : ReadsAs R (Pure.pure a) (.ok b) := ⟨a, h, rfl⟩

theorem error (e : RuntimeError) :
    ReadsAs R (Guarded.ofEval (Eval.stop (.runtime e))) (.error e : Except RuntimeError β) := rfl

theorem eq_stop {e : RuntimeError} (h : ReadsAs R x (.error e)) :
    x = Guarded.ofEval (Eval.stop (.runtime e)) := h

/-- A reading in front that gives its result without more ado. -/
theorem ofPure {z : Guarded γ} {c : γ} {f : γ → Guarded α} (hz : z = Pure.pure c)
    (h : ReadsAs R (f c) y) : ReadsAs R (z >>= f) y := by
  rw [hz, pure_bind]
  exact h

theorem bind {f : α → Guarded γ} {g : β → Except RuntimeError δ} (hx : ReadsAs R x y)
    (hf : ∀ a b, R a b → ReadsAs R' (f a) (g b)) : ReadsAs R' (x >>= f) (y >>= g) := by
  cases y with
  | ok b =>
    obtain ⟨a, hab, rfl⟩ := hx
    rw [pure_bind]
    exact hf a b hab
  | error e =>
    rw [hx.eq_stop, Guarded.stop_bind]
    exact error e

end ReadsAs

/-! ### Runs -/

/-- A checked run ends as a run does, with a result that corresponds to that of the run. -/
def Simulates {α β : Type} (R : α → β → Prop) (st : State) (x : Guarded α) (y : Eval β) : Prop :=
  match y st with
  | .ok b st' => ∃ a, R a b ∧ x st = .ok a st'
  | .error s st' => x st = .error (.stop s) st'

namespace Simulates

variable {α β γ δ : Type} {R : α → β → Prop} {R' : γ → δ → Prop} {st : State} {x : Guarded α}
  {y : Eval β}

theorem pure {a : α} {b : β} (h : R a b) : Simulates R st (Pure.pure a) (Pure.pure b) :=
  ⟨a, h, rfl⟩

theorem stop (f : Fault) :
    Simulates R st (Guarded.ofEval (Eval.stop f : Eval α)) (Eval.stop f : Eval β) := rfl

theorem fail (cause : Cause) (offset : Int) :
    Simulates R st (Guarded.ofEval (Eval.fail cause offset : Eval α))
      (Eval.fail cause offset : Eval β) := rfl

theorem malformed (form : Malformation) (offset : Int) :
    Simulates R st (Guarded.ofEval (Eval.malformed form offset : Eval α))
      (Eval.malformed form offset : Eval β) := rfl

theorem ofEval (z : Eval α) : Simulates Eq st (Guarded.ofEval z) z := by
  unfold Simulates
  cases hz : z st with
  | ok a st' => exact ⟨a, rfl, Guarded.ofEval_of_ok hz⟩
  | error s st' => exact Guarded.ofEval_of_error hz

/-- With equal results, a checked run is the run. -/
theorem eq_ofEval {z : Eval α} (h : Simulates Eq st x z) : x st = Guarded.ofEval z st := by
  unfold Simulates at h
  cases hz : z st with
  | ok a st' =>
    rw [hz] at h
    obtain ⟨_, rfl, hx⟩ := h
    rw [hx, Guarded.ofEval_of_ok hz]
  | error s st' =>
    rw [hz] at h
    rw [Guarded.ofEval_of_error hz]
    exact h

/-- Steps in front that change nothing. -/
theorem ofOk {z : Guarded γ} {c : γ} {f : γ → Guarded α} (hz : z st = .ok c st)
    (h : Simulates R st (f c) y) : Simulates R st (z >>= f) y := by
  unfold Simulates at h ⊢
  rwa [Guarded.bind_of_ok hz]

theorem ofPure {z : Guarded γ} {c : γ} {f : γ → Guarded α} (hz : z = Pure.pure c)
    (h : Simulates R st (f c) y) : Simulates R st (z >>= f) y := by
  rw [hz, pure_bind]
  exact h

theorem get {g : State → Eval β} (h : Simulates R st x (g st)) :
    Simulates R st x (MonadState.get >>= g) := h

/-- A reading in front, by whether it succeeds. -/
theorem reading {r : Except RuntimeError δ} {z : Guarded γ} {f : γ → Guarded α}
    (hz : ReadsAs R' z r) (herror : ∀ e, r = .error e → y = Eval.stop (.runtime e))
    (hok : ∀ c d, r = .ok d → R' c d → Simulates R st (f c) y) :
    Simulates R st (z >>= f) y := by
  cases r with
  | ok d =>
    obtain ⟨c, hcd, rfl⟩ := hz
    rw [pure_bind]
    exact hok c d rfl hcd
  | error e =>
    rw [hz.eq_stop, herror e rfl, Guarded.stop_bind]
    exact stop _

theorem bind {own : Option Site} {built : List Instance} {Q : Realm → β → Prop}
    {f : α → Guarded γ} {g : β → Eval δ} (hy : Leads own built st Q y) (hx : Simulates R st x y)
    (hf : ∀ a b built' st', Reaches own built st built' st' → Q (st'.world built') b → R a b →
      Simulates R' st' (f a) (g b)) : Simulates R' st (x >>= f) (y >>= g) := by
  unfold Simulates at hx
  cases hrun : y st with
  | ok b st' =>
    rw [hrun] at hx
    obtain ⟨a, hab, hx⟩ := hx
    obtain ⟨built', hreach, hb⟩ := hy.exists_of_ok hrun
    have hrest := hf a b built' st' hreach hb hab
    unfold Simulates at hrest ⊢
    rwa [Eval.bind_of_ok hrun, Guarded.bind_of_ok hx]
  | error s st' =>
    rw [hrun] at hx
    unfold Simulates
    rw [Eval.bind_of_error hrun]
    exact Guarded.bind_of_error hx

/-- A run that checks nothing in front. -/
theorem bindEval {z : Eval α} {f : α → Guarded γ} {g : α → Eval δ}
    (h : ∀ a st', z st = .ok a st' → Simulates R' st' (f a) (g a)) :
    Simulates R' st (Guarded.ofEval z >>= f) (z >>= g) := by
  cases hz : z st with
  | ok a st' =>
    have hrest := h a st' hz
    unfold Simulates at hrest ⊢
    rwa [Eval.bind_of_ok hz, Guarded.bind_of_ok (Guarded.ofEval_of_ok hz)]
  | error s st' =>
    unfold Simulates
    rw [Eval.bind_of_error hz]
    exact Guarded.bind_of_error (Guarded.ofEval_of_error hz)

theorem mapFault (g : Fault → Fault) (hx : Simulates R st x y) :
    Simulates R st (Guarded.mapFault g x) (Eval.mapFault g y) := by
  unfold Simulates Eval.mapFault Guarded.mapFault at *
  cases hy : y st with
  | ok b st' =>
    rw [hy] at hx
    obtain ⟨a, hab, hx⟩ := hx
    exact ⟨a, hab, by rw [hx]⟩
  | error s st' =>
    rw [hy] at hx
    cases s <;> simp only [hx]

theorem thenAlways (cleanup : State → State) (hx : Simulates R st x y) :
    Simulates R st (Guarded.thenAlways cleanup x) (Eval.thenAlways cleanup y) := by
  unfold Simulates Eval.thenAlways Guarded.thenAlways at *
  cases hy : y st with
  | ok b st' =>
    rw [hy] at hx
    obtain ⟨a, hab, hx⟩ := hx
    exact ⟨a, hab, by rw [hx]⟩
  | error s st' =>
    rw [hy] at hx
    simp only [hx]

end Simulates

end Quartz
