import Quartz.Proofs.State.Lookup

/-!
# `Quartz.Proofs.State.Alone`: a scope that no class has touched

A scope stands alone if it has no scope outside it, and its frames hold no instances and no
functions from before a point. The functions since that point are the three that every script can
call, and functions whose bodies run in the scope and declare no class. A script that declares no
class cannot leave such a scope: there is nothing in it that leads anywhere else.

Beside the references the notion counts room: with `n` levels of calls, calls in the scope run into
its limit before the levels are used up.
-/

set_option autoImplicit false

namespace Quartz

/-- Tokens that declare no class. -/
def Classless (ts : List Token) : Prop := ∀ t ∈ ts, t.isKeyword .crystal = false

instance (ts : List Token) : Decidable (Classless ts) :=
  inferInstanceAs (Decidable (∀ t ∈ ts, t.isKeyword .crystal = false))

/-- A function of a script without classes that runs in a scope. -/
structure Function.Classless (s : ScopeId) (fn : Function) : Prop where
  native : ∀ n, fn.native = some n → n = .print ∨ n = .typeOf ∨ n = .create
  home : fn.native = none → fn.home = some s
  body : Quartz.Classless fn.body

/-- The realm of the functions from one place to another, without instances and without tokens
that declare one. -/
def enclave (first size : Nat) : Realm where
  function f := first ≤ f ∧ f < size
  scope _ := False
  object _ := False
  started _ := False
  token t := t.isKeyword .crystal = false
  started_object _ h := h

theorem enclave_mono {first size size' : Nat} (h : size ≤ size') :
    enclave first size ≤ enclave first size' where
  function _ hf := ⟨hf.1, Nat.lt_of_lt_of_le hf.2 h⟩
  scope _ hs := hs
  object _ hc := hc
  started _ hc := hc
  token _ ht := ht

/-- A scope stands alone with the functions from `first` on, and with `n` levels of calls. -/
structure State.Alone (s : ScopeId) (first n : Nat) (st : State) : Prop where
  lt_size : s < st.scopes.size
  first_le : first ≤ st.functions.size
  outer : (st.scope s).outer = none
  live_pos : 0 < (st.scope s).live
  live_le : (st.scope s).live ≤ (st.scope s).slots.size
  live_le_limit : (st.scope s).live ≤ (st.scope s).limit
  room : (st.scope s).limit < (st.scope s).live + n
  vars : ∀ i, ∀ e ∈ ((st.scope s).frame i).vars.entries,
    e.2.Within (enclave first st.functions.size)
  funcs : ∀ i, ∀ e ∈ ((st.scope s).frame i).funcs.entries,
    (enclave first st.functions.size).function e.2
  function : ∀ f, first ≤ f → f < st.functions.size → (st.function f).Classless s

/-- One state comes after another in a run without classes. -/
structure State.Onward (s : ScopeId) (first n : Nat) (st st' : State) : Prop where
  alone : st'.Alone s first n
  live : (st'.scope s).live = (st.scope s).live
  limit : (st'.scope s).limit = (st.scope s).limit
  functions : st.functions.size ≤ st'.functions.size

namespace State

variable {s : ScopeId} {first n : Nat} {st st' st'' : State}

namespace Onward

theorem refl (h : st.Alone s first n) : st.Onward s first n st where
  alone := h
  live := rfl
  limit := rfl
  functions := Nat.le_refl _

theorem trans (h : st.Onward s first n st') (h' : st'.Onward s first n st'') :
    st.Onward s first n st'' where
  alone := h'.alone
  live := h'.live.trans h.live
  limit := h'.limit.trans h.limit
  functions := Nat.le_trans h.functions h'.functions

theorem realm_le (h : st.Onward s first n st') :
    enclave first st.functions.size ≤ enclave first st'.functions.size :=
  enclave_mono h.functions

end Onward

namespace Alone

section

variable (h : st.Alone s first n)
include h

/-- Levels that are not used do no harm. -/
theorem mono {n' : Nat} (hn : n ≤ n') : st.Alone s first n' :=
  { h with room := by have := h.room; omega }

/-- A change of nothing but the journal and the like. -/
theorem onward (hscopes : st'.scopes = st.scopes) (hfunctions : st'.functions = st.functions) :
    st.Onward s first n st' := by
  have hscope : st'.scope s = st.scope s := by rw [State.scope, hscopes, State.scope]
  have hfunction : ∀ f, st'.function f = st.function f := by
    intro f
    rw [State.function, hfunctions, State.function]
  refine ⟨?_, by rw [hscope], by rw [hscope], Nat.le_of_eq (by rw [hfunctions])⟩
  constructor
  · rw [hscopes]
    exact h.lt_size
  · rw [hfunctions]
    exact h.first_le
  · rw [hscope]
    exact h.outer
  · rw [hscope]
    exact h.live_pos
  · rw [hscope]
    exact h.live_le
  · rw [hscope]
    exact h.live_le_limit
  · rw [hscope]
    exact h.room
  · rw [hscope, hfunctions]
    exact h.vars
  · rw [hscope, hfunctions]
    exact h.funcs
  · intro f hf hlt
    rw [hfunctions] at hlt
    rw [hfunction]
    exact h.function f hf hlt

/-! ### Names -/

/-- A search ends in the scope in which it starts. -/
theorem scope_of_seek {has : Frame → Bool} {i : Int} {found : Site}
    (hfound : st.seek has s i = some found) : found.scope = s := by
  rw [State.seek, h.outer] at hfound
  cases hseek : (st.scope s).seek has (st.scope s).live i with
  | some frame =>
    rw [hseek] at hfound
    cases hfound
    rfl
  | none =>
    rw [hseek] at hfound
    cases hfound

theorem meaning (i : Nat) (name : Bytes) :
    (st.meaning ⟨s, i⟩ name).Within (enclave first st.functions.size) := by
  apply State.meaning_within fun holder => holder.scope = s
  · intro has holder hseek
    exact h.scope_of_seek hseek
  · rintro ⟨t, j⟩ rfl e he
    exact h.vars j e he
  · rintro ⟨t, j⟩ rfl e he
    exact h.funcs j e he

/-! ### Changes -/

/-- A frame of the scope gets other bindings. -/
theorem modifyFrame (i : Nat) {f : Frame → Frame}
    (hvars : ∀ e ∈ (f (st.frameAt ⟨s, i⟩)).vars.entries,
      e.2.Within (enclave first st.functions.size))
    (hfuncs : ∀ e ∈ (f (st.frameAt ⟨s, i⟩)).funcs.entries,
      (enclave first st.functions.size).function e.2) :
    st.Onward s first n (st.modifyFrame ⟨s, i⟩ f) where
  alone := by
    have hframe : ∀ j, ((st.modifyFrame ⟨s, i⟩ f).scope s).frame j =
        (st.modifyFrame ⟨s, i⟩ f).frameAt ⟨s, j⟩ := fun _ => rfl
    constructor
    · simpa [State.modifyFrame] using h.lt_size
    · exact h.first_le
    · simpa using h.outer
    · simpa using h.live_pos
    · simpa using h.live_le
    · simpa using h.live_le_limit
    · simpa using h.room
    · intro j e he
      rw [hframe, State.frameAt_modifyFrame] at he
      split at he
      · exact hvars e he
      · exact h.vars j e he
    · intro j e he
      rw [hframe, State.frameAt_modifyFrame] at he
      split at he
      · exact hfuncs e he
      · exact h.funcs j e he
    · exact h.function
  live := by simp
  limit := by simp
  functions := Nat.le_refl _

section

variable {v : Value} (i : Nat) (name : Bytes) (hv : v.Within (enclave first st.functions.size))
include hv

theorem declare : st.Onward s first n (st.declare ⟨s, i⟩ name v) := by
  apply h.modifyFrame i
  · intro e he
    rcases Bindings.mem_put he with rfl | he
    · exact hv
    · exact h.vars i e he
  · exact h.funcs i

theorem assign : st.Onward s first n (st.assign ⟨s, i⟩ name v) := by
  have hscope : ((st.holder? ⟨s, i⟩ name).getD ⟨s, i⟩).scope = s := by
    cases hholder : st.holder? ⟨s, i⟩ name with
    | none => rfl
    | some found => exact h.scope_of_seek hholder
  unfold State.assign
  generalize (st.holder? ⟨s, i⟩ name).getD ⟨s, i⟩ = holder at hscope ⊢
  obtain ⟨t, j⟩ := holder
  cases hscope
  exact h.declare j name hv

end

/-- A function is added, at home in the scope. -/
theorem addFunction {fn : Function} (hhome : fn.home = none)
    (hfn : ({ fn with home := some s } : Function).Classless s) :
    st.Onward s first n ((st.addFunction fn).2.settle st.functions.size s) := by
  have hsize : ((st.addFunction fn).2.settle st.functions.size s).functions.size =
      st.functions.size + 1 := by simp [State.addFunction]
  have hle : enclave first st.functions.size ≤
      enclave first ((st.addFunction fn).2.settle st.functions.size s).functions.size :=
    enclave_mono (by omega)
  have hadded : (st.addFunction fn).2.function st.functions.size = fn := by
    rw [State.function_addFunction, if_pos rfl]
  refine ⟨?_, rfl, rfl, by omega⟩
  constructor
  · exact h.lt_size
  · exact Nat.le_trans h.first_le (by omega)
  · exact h.outer
  · exact h.live_pos
  · exact h.live_le
  · exact h.live_le_limit
  · exact h.room
  · intro i e he
    exact (h.vars i e he).mono hle
  · intro i e he
    exact hle.function _ (h.funcs i e he)
  · intro f hf hlt
    rw [State.function_settle, hadded]
    by_cases hnew : f = st.functions.size
    · rw [if_pos ⟨hnew, by simp [State.addFunction], hhome⟩]
      exact hfn
    · rw [if_neg fun hc => hnew hc.1, State.function_addFunction, if_neg hnew]
      exact h.function f hf (by omega)

/-- A function is declared in a frame of the scope. -/
theorem register (i : Nat) {fn : Function} (hhome : fn.home = none)
    (hfn : ({ fn with home := some s } : Function).Classless s) :
    st.Onward s first n (st.register ⟨s, i⟩ fn) := by
  have hadded := h.addFunction hhome hfn
  apply hadded.trans
  apply hadded.alone.modifyFrame i
  · exact hadded.alone.vars i
  · intro e he
    rcases Bindings.mem_put he with rfl | he
    · show first ≤ st.functions.size ∧ st.functions.size < _
      exact ⟨h.first_le, by simp [State.addFunction]⟩
    · exact hadded.alone.funcs i e he

end

/-- A frame is pushed, and uses up a level. -/
theorem push (h : st.Alone s first (n + 1)) (hfull : (st.scope s).full = false) :
    (st.push s 0).Alone s first n := by
  have hlt : (st.scope s).live < (st.scope s).limit := by simpa [Scope.full] using hfull
  have hroom := h.room
  have hscope : (st.push s 0).scope s = (st.scope s).pushed 0 := by
    rw [State.scope_push, if_pos ⟨rfl, h.lt_size⟩]
  constructor
  · simpa using h.lt_size
  · exact h.first_le
  · rw [hscope]
    exact h.outer
  · rw [hscope]
    exact Nat.succ_pos _
  · rw [hscope]
    exact (st.scope s).size_pushed h.live_le 0
  · rw [hscope]
    exact hlt
  · rw [hscope]
    show (st.scope s).limit < (st.scope s).live + 1 + n
    omega
  · intro i e he
    rw [hscope, (st.scope s).frame_pushed h.live_le] at he
    split at he
    · cases he
    · exact h.vars i e he
  · intro i e he
    rw [hscope, (st.scope s).frame_pushed h.live_le] at he
    split at he
    · cases he
    · exact h.funcs i e he
  · exact h.function

/-- The frame is released after a run in it. -/
theorem release (h : st.Alone s first (n + 1))
    (hrun : (st.push s 0).Onward s first n st') :
    st.Onward s first (n + 1) (st'.release s (st.scope s).live) := by
  have hpushed : (st.push s 0).scope s = (st.scope s).pushed 0 := by
    rw [State.scope_push, if_pos ⟨rfl, h.lt_size⟩]
  have hlive : (st'.scope s).live = (st.scope s).live + 1 := by
    rw [hrun.live, hpushed]
    rfl
  have hlimit : (st'.scope s).limit = (st.scope s).limit := by
    rw [hrun.limit, hpushed]
    rfl
  have hscope : (st'.release s (st.scope s).live).scope s =
      { st'.scope s with live := (st.scope s).live } := by
    rw [State.scope_release, if_pos ⟨rfl, hrun.alone.lt_size⟩, Scope.release, if_pos]
    · rfl
    · have hpos := h.live_pos
      simp only [Scope.releasable, hlive, Bool.and_eq_true, decide_eq_true_eq]
      omega
  have hlast := hrun.alone
  have hle := hlast.live_le
  refine ⟨?_, by rw [hscope], by rw [hscope]; exact hlimit,
    by rw [State.functions_release]; exact hrun.functions⟩
  constructor
  · simpa using hlast.lt_size
  · simpa using hlast.first_le
  · rw [hscope]
    exact hlast.outer
  · rw [hscope]
    exact h.live_pos
  · rw [hscope]
    show (st.scope s).live ≤ (st'.scope s).slots.size
    omega
  · rw [hscope]
    show (st.scope s).live ≤ (st'.scope s).limit
    rw [hlimit]
    exact h.live_le_limit
  · rw [hscope]
    show (st'.scope s).limit < (st.scope s).live + (n + 1)
    rw [hlimit]
    exact h.room
  · rw [hscope, State.functions_release]
    exact hlast.vars
  · rw [hscope, State.functions_release]
    exact hlast.funcs
  · intro f hf hlt
    rw [State.functions_release] at hlt
    show ((st'.release s (st.scope s).live).functions.getD f default).Classless s
    rw [State.functions_release]
    exact hlast.function f hf hlt

end Alone

end State

end Quartz
