import Quartz.Proofs.Eval.Respect

/-!
# `Quartz.Proofs.Eval.Journal`: a run does not read its journal

Runs write events to the journal and never look at it. Two runs from states that differ in
their journals only give the same result, and end in states that differ in their journals
only. `Eval.Blind` says this of a run from a state.

States that differ in their journals only are akin, so this is a case of what
`Quartz.Proofs.Eval.Respect` says of runs from akin states.
-/

set_option autoImplicit false

namespace Quartz

/-! ### States without their journals -/

/-- The state without its journal. -/
def State.unlogged (st : State) : State := { st with journal := {} }

/-- States that are akin with other journals are the same without them. -/
theorem State.Akin.unlogged {base : ScopeId → Nat} {st st' : State}
    (h : st.Akin base false st') : st'.unlogged = st.unlogged := by
  rw [State.unlogged, h.others, h.scopes rfl]
  rfl

/-! ### Runs without their journals -/

/-- A result without the journal of its state. -/
def unlogged {α : Type} : EStateM.Result Stop State α → EStateM.Result Stop State α
  | .ok a st => .ok a st.unlogged
  | .error e st => .error e st.unlogged

theorem eq_ok_of_unlogged {α : Type} {r : EStateM.Result Stop State α} {a : α} {st : State}
    (h : unlogged r = unlogged (.ok a st)) : ∃ st', r = .ok a st' ∧ st'.unlogged = st.unlogged := by
  cases r with
  | ok b st' =>
    simp only [unlogged, EStateM.Result.ok.injEq] at h
    exact ⟨st', by rw [h.1], h.2⟩
  | error e st' => exact nomatch h

theorem eq_error_of_unlogged {α : Type} {r : EStateM.Result Stop State α} {e : Stop} {st : State}
    (h : unlogged r = unlogged (.error e st)) :
    ∃ st', r = .error e st' ∧ st'.unlogged = st.unlogged := by
  cases r with
  | ok b st' => exact nomatch h
  | error e' st' =>
    simp only [unlogged, EStateM.Result.error.injEq] at h
    exact ⟨st', by rw [h.1], h.2⟩

/-- From states that differ in their journals only, a run ends alike. -/
def Eval.Blind {α : Type} (x : Eval α) (st : State) : Prop :=
  ∀ j, unlogged (x { st with journal := j }) = unlogged (x st)

theorem Eval.Respects.blind {α : Type} {x : Eval α} {st : State} {w : World}
    (hx : x.Respects (fun _ => 0) false st) (hst : st.Grounded w) : x.Blind st := by
  intro j
  have hends := hx _ (.ofJournal hst j)
  generalize x st = r at hends ⊢
  generalize x { st with journal := j } = r' at hends ⊢
  cases hends with
  | ok h => rw [unlogged, h.unlogged, unlogged]
  | error h => rw [unlogged, h.unlogged, unlogged]

end Quartz
