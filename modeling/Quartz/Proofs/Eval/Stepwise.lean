import Quartz.Eval.Call
import Quartz.Proofs.Declaration
import Quartz.Proofs.Eval.Statement

/-!
# `Quartz.Proofs.Eval.Stepwise`: the steps that a script can take

However long a script is, it touches the state in a few ways only: it asks what a name
means, it binds a variable or a function in the frame at hand, it builds an instance,
and it calls. `Stepwise` is this list. A run is stepwise if it is put together from such
steps, and every run of tokens is (`stepwise_evaluate`, `stepwise_run`,
`stepwise_instantiate`). A property of all runs is therefore proved by one case for each
kind of step, and the readers are not looked into again.

The steps also pass on where values come from. A `Realm` says which functions may be called,
which instances may be held, and where instances may be started. Realms only grow, and a script
cannot make up a reference: given values within a realm it works with values within it. The
largest realm is that of all that exists, which a `World` counts: the functions, the scopes and
the instances that were built. A smaller realm confines a script to a part of it.

A realm also says which tokens are read. The functions that a script declares have bodies of
tokens that were read, and the failures that it runs into point at one of these, or nowhere.

Expressions write nothing themselves, which is what the flag of `Stepwise` records.
-/

set_option autoImplicit false

namespace Quartz

variable {ts rest body : List Token} {v : Value} {offset : Int} {p : Progress} {t : Token}

/-! ### Worlds -/

/-- What exists: a number of functions, a number of scopes, and the instances. -/
structure World where
  functions : Nat
  scopes : Nat
  instances : List Instance

namespace World

instance : LE World :=
  ⟨fun a b => a.functions ≤ b.functions ∧ a.scopes ≤ b.scopes ∧ a.instances ⊆ b.instances⟩

theorem le_refl (w : World) : w ≤ w :=
  ⟨Nat.le_refl _, Nat.le_refl _, List.Subset.refl _⟩

theorem le_trans {a b c : World} (hab : a ≤ b) (hbc : b ≤ c) : a ≤ c :=
  ⟨Nat.le_trans hab.1 hbc.1, Nat.le_trans hab.2.1 hbc.2.1,
    List.Subset.trans hab.2.2 hbc.2.2⟩

end World

/-- The world of a state in which some instances were built. -/
def State.world (st : State) (built : List Instance) : World :=
  ⟨st.functions.size, st.scopes.size, built⟩

theorem State.world_mono (st : State) {built built' : List Instance} (h : built ⊆ built') :
    st.world built ≤ st.world built' :=
  ⟨Nat.le_refl _, Nat.le_refl _, h⟩

namespace Value

/-- A value refers only to what exists. -/
def Valid (w : World) : Value → Prop
  | .function f => f < w.functions
  | .object c => c ∈ w.instances
  | _ => True

theorem Valid.mono {w w' : World} (h : v.Valid w) (hw : w ≤ w') : v.Valid w' := by
  cases v with
  | function f => exact Nat.lt_of_lt_of_le h hw.1
  | object c => exact hw.2.2 h
  | _ => trivial

end Value

/-! ### Realms -/

/-- What scripts may refer to: functions that may be called, scopes inside which instances may
be started, instances that may be held, instances whose statements may run, and tokens that
are read. -/
structure Realm where
  function : FunctionId → Prop
  scope : ScopeId → Prop
  object : Instance → Prop
  started : Instance → Prop
  token : Token → Prop
  started_object : ∀ c, started c → object c

namespace Realm

/-- One realm is part of another. -/
structure Part (a b : Realm) : Prop where
  function : ∀ f, a.function f → b.function f
  scope : ∀ s, a.scope s → b.scope s
  object : ∀ c, a.object c → b.object c
  started : ∀ c, a.started c → b.started c
  token : ∀ t, a.token t → b.token t

instance : LE Realm := ⟨Part⟩

theorem le_refl (r : Realm) : r ≤ r :=
  ⟨fun _ h => h, fun _ h => h, fun _ h => h, fun _ h => h, fun _ h => h⟩

theorem le_trans {a b c : Realm} (hab : a ≤ b) (hbc : b ≤ c) : a ≤ c where
  function f h := hbc.function f (hab.function f h)
  scope s h := hbc.scope s (hab.scope s h)
  object d h := hbc.object d (hab.object d h)
  started d h := hbc.started d (hab.started d h)
  token t h := hbc.token t (hab.token t h)

/-! #### Tokens -/

/-- All tokens of a list may be read. -/
def Reads (w : Realm) (ts : List Token) : Prop := ∀ t ∈ ts, w.token t

/-- An offset points at a token that may be read, or nowhere. -/
def Points (w : Realm) (offset : Int) : Prop := offset < 0 ∨ ∃ t, w.token t ∧ t.offset = offset

section

variable {w w' : Realm} {ts us : List Token} {t : Token} {ends : Int}

theorem Reads.mono (h : w.Reads ts) (hw : w ≤ w') : w'.Reads ts :=
  fun t ht => hw.token t (h t ht)

theorem Reads.subset (h : w.Reads ts) (hsub : us ⊆ ts) : w.Reads us := fun t ht => h t (hsub ht)

theorem Reads.tail (h : w.Reads (t :: ts)) : w.Reads ts := h.subset (List.subset_cons_self t ts)

theorem Points.mono (h : w.Points ends) (hw : w ≤ w') : w'.Points ends := by
  rcases h with h | ⟨t, ht, hoffset⟩
  · exact .inl h
  · exact .inr ⟨t, hw.token t ht, hoffset⟩

/-- Nowhere is a place to point at. -/
theorem points_none (w : Realm) : w.Points (-1) := .inl (by omega)

theorem Reads.points (h : w.Reads ts) (ht : t ∈ ts) : w.Points t.offset := .inr ⟨t, h t ht, rfl⟩

theorem Reads.head (h : w.Reads (t :: ts)) : w.Points t.offset := h.points List.mem_cons_self

theorem Reads.place (h : w.Reads ts) (hends : w.Points ends) : w.Points (Token.place ends ts) := by
  cases ts with
  | nil => exact hends
  | cons t ts => exact h.head

/-- The end of a list is its last token. -/
theorem Reads.last (h : w.Reads ts) : w.Points (Token.endOffset ts) := by
  unfold Token.endOffset
  cases hlast : ts.getLast? with
  | none => exact w.points_none
  | some t => exact h.points (List.mem_of_getLast? hlast)

/-- Readers of declarations point at the tokens that they are given. -/
theorem Reads.complains (h : w.Reads ts) (hends : w.Points ends) {forms : List Malformation}
    {e : RuntimeError} (he : Declaration.Complains forms ends ts e) : w.Points e.offset := by
  rcases he.place with heq | heq | ⟨t, ht, heq⟩
  · rwa [heq]
  · rw [heq]
    exact w.points_none
  · rw [← heq]
    exact h.points ht

end

end Realm

/-- A fault points at a token that may be read, or nowhere. -/
def Fault.Within (w : Realm) (f : Fault) : Prop := ∀ e, f.runtime? = some e → w.Points e.offset

namespace Fault.Within

variable {w w' : Realm} {f : Fault}

theorem mono (h : f.Within w) (hw : w ≤ w') : f.Within w' := fun e he => (h e he).mono hw

theorem runtime {e : RuntimeError} (h : w.Points e.offset) : (Fault.runtime e).Within w := by
  rintro e' ⟨⟩
  exact h

/-- A label changes nothing about the place. -/
theorem labelled (h : f.Within w) (label : Bytes) : (Fault.labelled label f).Within w := h

/-- A fault is placed where it has no place yet. -/
theorem placedAt (h : f.Within w) (hp : w.Points offset) : (f.placedAt offset).Within w := by
  unfold Fault.placedAt
  split
  · split
    · exact runtime hp
    · exact h
  · exact h

end Fault.Within

/-- The realm of all that exists. -/
def World.realm (w : World) : Realm where
  function f := f < w.functions
  scope s := s < w.scopes
  object c := c ∈ w.instances
  started c := c ∈ w.instances
  token _ := True
  started_object _ h := h

instance : Coe World Realm := ⟨World.realm⟩

theorem World.realm_mono {a b : World} (h : a ≤ b) : a.realm ≤ b.realm where
  function _ hf := Nat.lt_of_lt_of_le hf h.1
  scope _ hs := Nat.lt_of_lt_of_le hs h.2.1
  object _ hc := h.2.2 hc
  started _ hc := h.2.2 hc
  token _ ht := ht

/-- All tokens exist. -/
theorem World.reads (w : World) (ts : List Token) : w.realm.Reads ts := fun _ _ => trivial

theorem World.points (w : World) (offset : Int) : w.realm.Points offset :=
  .inr ⟨⟨.eof, [], offset⟩, trivial, rfl⟩

namespace Value

/-- A value refers only to what a realm has. -/
def Within (w : Realm) : Value → Prop
  | .function f => w.function f
  | .object c => w.object c
  | _ => True

/-- The valid values of a world are those within its realm. -/
theorem within_realm_iff {w : World} : v.Within w ↔ v.Valid w := by
  cases v <;> exact Iff.rfl

theorem Within.mono {w w' : Realm} (h : v.Within w) (hw : w ≤ w') : v.Within w' := by
  cases v with
  | function f => exact hw.function f h
  | object c => exact hw.object c h
  | _ => trivial

theorem within_ofLiteral (w : Realm) (literal : Bytes) : (ofLiteral literal).Within w := by
  simp only [ofLiteral]
  split
  · trivial
  · split
    · trivial
    · split <;> trivial

theorem within_of_applyUnary {o : Operator} {u : Value} (h : v.applyUnary o = .ok u) (w : Realm) :
    u.Within w := by
  unfold applyUnary at h
  split at h <;> cases h
  trivial

/-- Operators give numbers, truth values and texts, which refer to nothing. -/
theorem within_of_apply {o : Operator} {l r u : Value} (h : l.apply o r = .ok u) (w : Realm) :
    u.Within w := by
  unfold apply at h
  split at h
  · cases h
    trivial
  · cases h
    trivial
  · exact within_of_applyUnary h w
  · split at h
    · unfold applyNumber at h
      split at h <;> split at h <;> (try split at h) <;> cases h <;> trivial
    · unfold applyBool at h
      split at h <;> split at h <;> cases h <;> trivial
    · unfold applyText at h
      split at h <;> split at h <;> cases h <;> trivial
    · exact nomatch h

end Value

namespace State.Meaning

/-- A name means something within a realm. -/
def Within (w : Realm) (m : Meaning) : Prop := ∀ v, m.value? = some v → v.Within w

theorem Within.callee {w : Realm} {m : Meaning} (h : m.Within w) {f : FunctionId}
    (hf : m.callee? = some f) : w.function f := by
  -- A name that can be called has the function as its value, whichever of the two it is.
  have hv : m.value? = some (.function f) := by
    unfold callee? at hf
    split at hf <;> cases hf <;> rfl
  exact h _ hv

end State.Meaning

/-- The values of the statements so far are within a realm. -/
def Progress.Within (w : Realm) (p : Progress) : Prop :=
  ∀ v, p.pending = some v ∨ p.last = some v → v.Within w

namespace Progress.Within

variable {w w' : Realm} {p : Progress}

theorem mono (h : p.Within w) (hw : w ≤ w') : p.Within w' := fun v hv => (h v hv).mono hw

theorem value (h : p.Within w) (hv : p.value = some v) : v.Within w := by
  refine h v ?_
  unfold Progress.value at hv
  cases hp : p.pending with
  | some u =>
    rw [hp] at hv
    exact .inl hv
  | none =>
    rw [hp] at hv
    exact .inr hv

theorem committed (h : p.Within w) : p.committed.Within w := by
  rintro v (hv | hv)
  · exact nomatch hv
  · exact h.value hv

theorem empty (w : Realm) : Progress.Within w {} := by
  rintro v (hv | hv) <;> exact nomatch hv

theorem ofPending (h : p.Within w) (hv : v.Within w) :
    Progress.Within w { p with pending := some v } := by
  rintro u (hu | hu)
  · cases hu
    exact hv
  · exact h u (.inr hu)

theorem ofLast {last : Option Value} (h : ∀ v, last = some v → v.Within w) :
    Progress.Within w ⟨none, last⟩ := by
  rintro u (hu | hu)
  · exact nomatch hu
  · exact h u hu

end Progress.Within

/-- The values that statements end with are within a realm, and so is the place of a `return`. -/
def Flow.Within (w : Realm) : Flow → Prop
  | .finished p => p.Within w
  | .returned v offset => v.Within w ∧ w.Points offset

/-! ### Steps -/

/-- The id of an instance at whose root a site is, or none. -/
def Realm.Owner (w : Realm) (site : Site) (owner : Nat) : Prop :=
  owner = 0 ∨ ∃ c, w.started c ∧ owner = c.id ∧ site = ⟨c.scope, 0⟩

theorem Realm.Owner.mono {w w' : Realm} {site : Site} {owner : Nat} (h : w.Owner site owner)
    (hw : w ≤ w') : w'.Owner site owner := by
  rcases h with h | ⟨c, hc, hid, hsite⟩
  · exact .inl h
  · exact .inr ⟨c, hw.started c hc, hid, hsite⟩

/-- Adds a function and registers it at a site. -/
def State.register (st : State) (site : Site) (fn : Function) : State :=
  (st.addFunction fn).2.define site (st.addFunction fn).1

/-- Runs that are put together from the steps of a script at a site, with everything they
mention within a realm. The predicate says which results they give. -/
inductive Stepwise (call : Caller) (writes : Bool) :
    Realm → Site → {α : Type} → (Realm → α → Prop) → Eval α → Prop
  | pure {w : Realm} {site : Site} {α : Type} {Q : Realm → α → Prop} {a : α} (h : Q w a) :
      Stepwise call writes w site Q (Pure.pure a)
  | stop {w : Realm} {site : Site} {α : Type} {Q : Realm → α → Prop} {f : Fault}
      (hf : f.Within w) : Stepwise call writes w site Q (Eval.stop f : Eval α)
  | bind {w : Realm} {site : Site} {α β : Type} {P : Realm → α → Prop} {Q : Realm → β → Prop}
      {x : Eval α} {f : α → Eval β} (hx : Stepwise call writes w site P x)
      (hf : ∀ w' a, w ≤ w' → P w' a → Stepwise call writes w' site Q (f a)) :
      Stepwise call writes w site Q (x >>= f)
  /-- A failure is labelled or placed. -/
  | mapFault {w : Realm} {site : Site} {α : Type} {Q : Realm → α → Prop} {g : Fault → Fault}
      (hg : ∀ w' f, w ≤ w' → f.Within w' → (g f).Within w') {x : Eval α}
      (hx : Stepwise call writes w site Q x) :
      Stepwise call writes w site Q (Eval.mapFault g x)
  /-- A name is looked up. -/
  | meaning {w : Realm} {site : Site} {α : Type} {Q : Realm → α → Prop} (name : Bytes)
      {f : State.Meaning → Eval α}
      (hf : ∀ w' m, w ≤ w' → m.Within w' → Stepwise call writes w' site Q (f m)) :
      Stepwise call writes w site Q (get >>= fun st => f (st.meaning site name))
  | call {w : Realm} {site : Site} {f : FunctionId} {args : List Value} (hf : w.function f)
      (hargs : ∀ v ∈ args, v.Within w) :
      Stepwise call writes w site (fun w v => v.Within w) (call f args)
  | declare {w : Realm} {site : Site} (hw : writes) (name : Bytes) {v : Value} (hv : v.Within w) :
      Stepwise call writes w site (fun _ _ => True) (modify (·.declare site name v))
  | assign {w : Realm} {site : Site} (hw : writes) (name : Bytes) {v : Value} (hv : v.Within w) :
      Stepwise call writes w site (fun _ _ => True) (modify (·.assign site name v))
  /-- A function with a body is declared, for an instance only in the root of its scope. -/
  | register {w : Realm} {site : Site} (hw : writes) {fn : Function} (hh : fn.home = none)
      (hn : fn.native = none) (hb : w.Reads fn.body) (ho : w.Owner site fn.owner) :
      Stepwise call writes w site (fun _ _ => True) (modify (·.register site fn))
  /-- The scope of the globals is looked up for a class. -/
  | outermost {w : Realm} {site : Site} {α : Type} {Q : Realm → α → Prop} (hw : writes)
      {t : Token} (ht : w.token t) (hk : t.isKeyword .crystal = true) {f : ScopeId → Eval α}
      (hf : ∀ w' s, w ≤ w' → w'.scope s → Stepwise call writes w' site Q (f s)) :
      Stepwise call writes w site Q (get >>= fun st => f (st.outermost site.scope))
  /-- An instance is started inside a scope. -/
  | allot {w : Realm} {site : Site} (hw : writes) {outer : ScopeId} (ho : w.scope outer)
      (name : Bytes) (body : List Token) :
      Stepwise call writes w site (fun w c => w.started c) (allot (some outer) name body)
  /-- The statements of an instance run in the root frame of its scope. -/
  | inside {w : Realm} {site : Site} {α : Type} {Q : Realm → α → Prop} (hw : writes)
      {c : Instance} (hc : w.started c) {x : Eval α}
      (hx : Stepwise call writes w ⟨c.scope, 0⟩ Q x) : Stepwise call writes w site Q x
  /-- An instance is reported with the number of its functions. -/
  | created {w : Realm} {site : Site} (hw : writes) (name : Bytes) (id : Nat) (s : ScopeId) :
      Stepwise call writes w site (fun _ _ => True) (get >>= fun st =>
        Eval.report (.classCreated name id (st.scope s).root.funcs.size))

namespace Stepwise

variable {call : Caller} {writes : Bool} {w : Realm} {site : Site} {α β : Type}
  {P Q : Realm → α → Prop}

theorem fail (cause : Cause) (h : w.Points offset) :
    Stepwise call writes w site Q (Eval.fail cause offset : Eval α) := .stop (.runtime h)

theorem malformed (form : Malformation) (h : w.Points offset) :
    Stepwise call writes w site Q (Eval.malformed form offset : Eval α) := .fail _ h

/-- A run with weaker results. -/
theorem mono {x : Eval α} (hx : Stepwise call writes w site P x)
    (h : ∀ w' a, w ≤ w' → P w' a → Q w' a) : Stepwise call writes w site Q x := by
  rw [← bind_pure x]
  exact hx.bind fun w' a hw ha => .pure (h w' a hw ha)

theorem ofOperator (hp : w.Points offset) {r : Except Cause α} (h : ∀ a, r = .ok a → Q w a) :
    Stepwise call writes w site Q (Eval.ofOperator offset r) := by
  cases r with
  | ok a => exact .pure (h a rfl)
  | error cause => exact .fail cause hp

theorem combine {op : Token} (hop : w.Points op.offset) (l r : Value) :
    Stepwise call writes w site (fun w v => v.Within w) (combine op l r) := by
  unfold Quartz.combine
  split
  · exact .ofOperator hop fun v hv => Value.within_of_apply hv w
  · exact .fail _ hop

theorem negate {op : Token} (hop : w.Points op.offset) (v : Value) :
    Stepwise call writes w site (fun w v => v.Within w) (negate op v) := by
  unfold Quartz.negate
  split
  · exact .pure trivial
  · exact .fail _ hop

theorem require (p : Progress) (place : Unterminated) (h : w.Points offset) :
    Stepwise call writes w site (fun _ _ => True) (p.require place offset) := by
  unfold Progress.require
  split
  · exact .fail _ h
  · exact .pure trivial

end Stepwise

/-! ### Expressions -/

/-- A value within a realm, and fewer than `k` tokens behind it that may be read. -/
structure Leaves (k : Nat) (w : Realm) (p : Value × List Token) : Prop where
  within : p.1.Within w
  short : p.2.length < k
  reads : w.Reads p.2

theorem Leaves.mono {j k : Nat} {w : Realm} {p : Value × List Token} (h : Leaves j w p)
    (hjk : j ≤ k) : Leaves k w p := ⟨h.within, Nat.lt_of_lt_of_le h.short hjk, h.reads⟩

section

variable {call : Caller} {writes : Bool} {site : Site} {ends : Int} {n : Nat} {w : Realm}

variable (call writes site) in
/-- Operands of at most `n` tokens are read stepwise. -/
def StepwiseOperand (n : Nat) : Prop :=
  ∀ (w : Realm) (ends : Int) (ts : List Token), ts.length ≤ n → w.Reads ts → w.Points ends →
    Stepwise call writes w site (Leaves ts.length) (operand call site ends ts).bare

namespace StepwiseOperand

variable (hn : StepwiseOperand call writes site n)
include hn

theorem reduce (floor : Nat) (hends : w.Points ends) (hv : v.Within w) (hts : ts.length ≤ n)
    (hr : w.Reads ts) :
    Stepwise call writes w site (Leaves (ts.length + 1))
      (reduce call site ends floor v ts).bare := by
  -- The right side of an operator is a term, which is the loop again above another floor. So
  -- the induction is on a bound for the tokens and not on the list.
  obtain ⟨k, hk⟩ : ∃ k, ts.length ≤ k := ⟨_, Nat.le_refl _⟩
  induction k generalizing ts floor w v with
  | zero =>
    rw [List.eq_nil_of_length_eq_zero (Nat.le_zero.1 hk), bare_reduce_nil]
    exact .pure ⟨hv, by simp, by simp [Realm.Reads]⟩
  | succ k ih =>
    cases ts with
    | nil =>
      rw [bare_reduce_nil]
      exact .pure ⟨hv, by simp, hr⟩
    | cons op rest =>
      rw [bare_reduce_cons]
      simp only [List.length_cons] at hts hk ⊢
      split
      · refine .bind (P := Leaves rest.length) ?_ fun w' p hw hp => ?_
        · rw [bare_term]
          refine .bind (hn w ends rest (by omega) hr.tail hends) fun w' p hw hp => ?_
          have hshort := hp.short
          exact (ih _ (hends.mono hw) hp.within (by omega) hp.reads (by omega)).mono
            fun w'' q _ hq => hq.mono (by omega)
        · have hshort := hp.short
          refine .bind (.combine (hr.head.mono hw) v p.1) fun w'' u hw' hu => ?_
          have hends' := (hends.mono hw).mono hw'
          exact (ih floor hends' hu (by omega) (hp.reads.mono hw') (by omega)).mono
            fun w₃ q _ hq => hq.mono (by omega)
      · exact .pure ⟨hv, by simp, hr⟩

theorem term (floor : Nat) (hends : w.Points ends) (hts : ts.length ≤ n) (hr : w.Reads ts) :
    Stepwise call writes w site (Leaves ts.length) (term call site ends floor ts).bare := by
  rw [bare_term]
  refine .bind (hn w ends ts hts hr hends) fun w' p hw hp => ?_
  have hshort := hp.short
  exact (hn.reduce floor (hends.mono hw) hp.within (by omega) hp.reads).mono
    fun w'' q _ hq => hq.mono (by omega)

theorem comparison (hends : w.Points ends) (hts : ts.length ≤ n) (hr : w.Reads ts) :
    Stepwise call writes w site (Leaves ts.length) (comparison call site ends ts).bare := by
  rw [bare_comparison]
  refine .bind (hn.term 0 hends hts hr) fun w' p hw hp => ?_
  obtain ⟨v, rest⟩ := p
  -- At most one comparison follows the first term.
  cases rest with
  | nil => exact .pure hp
  | cons op rest =>
    have hshort := hp.short
    simp only [List.length_cons] at hshort
    rw [compareOnce]
    split
    · refine .bind (hn.term 0 (hends.mono hw) (by omega) hp.reads.tail) fun w'' q hw' hq => ?_
      refine .bind (.combine (hp.reads.head.mono hw') v q.1) fun w₃ u hw₃ hu => ?_
      exact .pure ⟨hu, by have := hq.short; dsimp only; omega, hq.reads.mono hw₃⟩
    · exact .pure hp

theorem binary (compared : Bool) (hends : w.Points ends) (hv : v.Within w) (hts : ts.length ≤ n)
    (hr : w.Reads ts) :
    Stepwise call writes w site (Leaves (ts.length + 1))
      (binary call site ends compared v ts).bare := by
  -- On a bound for the tokens, for every flag and every value so far.
  obtain ⟨k, hk⟩ : ∃ k, ts.length ≤ k := ⟨_, Nat.le_refl _⟩
  induction k generalizing ts compared w v with
  | zero =>
    rw [List.eq_nil_of_length_eq_zero (Nat.le_zero.1 hk), bare_binary_nil]
    exact .pure ⟨hv, by simp, by simp [Realm.Reads]⟩
  | succ k ih =>
    cases ts with
    | nil =>
      rw [bare_binary_nil]
      exact .pure ⟨hv, by simp, hr⟩
    | cons op rest =>
      simp only [List.length_cons] at hts hk
      -- All three operators read a right side, combine and go on.
      have turn : ∀ (side : Eval (Value × List Token)) (flag : Bool),
          Stepwise call writes w site (Leaves rest.length) side →
          Stepwise call writes w site (Leaves (rest.length + 1 + 1)) (do
            let p ← side
            let u ← Quartz.combine op v p.1
            (Quartz.binary call site ends flag u p.2).bare) := by
        intro side flag hside
        refine .bind hside fun w' p hw hp => ?_
        have hshort := hp.short
        refine .bind (.combine (hr.head.mono hw) v p.1) fun w'' u hw' hu => ?_
        have hends' := (hends.mono hw).mono hw'
        exact (ih flag hends' hu (by omega) (hp.reads.mono hw') (by omega)).mono
          fun w₃ q _ hq => hq.mono (by omega)
      rw [bare_binary_cons]
      split
      · exact turn _ _ (hn.term _ hends (by omega) hr.tail)
      · split
        · split
          · exact .malformed _ hr.head
          · exact turn _ _ (hn.term _ hends (by omega) hr.tail)
        · split
          · exact turn _ _ (hn.comparison hends (by omega) hr.tail)
          · exact .pure ⟨hv, by simp, hr⟩

theorem evaluate (hts : ts.length ≤ n) (hr : w.Reads ts) :
    Stepwise call writes w site (fun w v => v.Within w) (evaluate call site ts) := by
  rw [evaluate_eq]
  refine .bind (hn w _ ts hts hr hr.last) fun w' p hw hp => ?_
  have hshort := hp.short
  refine .bind (hn.binary false (hr.last.mono hw) hp.within (by omega) hp.reads)
    fun w'' q hw' hq => ?_
  split
  · exact .pure hq.within
  · next t rest hrest =>
      have hleft := hq.reads
      rw [hrest] at hleft
      exact .malformed _ hleft.head

theorem arguments {name : Token} (hname : w.Points name.offset) (hts : ts.length ≤ n)
    (hr : w.Reads ts) :
    Stepwise call writes w site (fun w vs => ∀ v ∈ vs, v.Within w)
      (arguments call site name ts) := by
  induction ts using Bracket.cut_induction generalizing w with
  | last ts hcut _ =>
    rw [arguments_eq, hcut]
    cases ts with
    | nil => exact .fail _ hname
    | cons t ts =>
      refine .bind (hn.evaluate hts hr) fun w' v hw hv => ?_
      exact .pure (by simpa using hv)
  | more span comma rest _ hcut _ ih =>
    rw [arguments_eq, hcut]
    simp only [List.length_append, List.length_cons] at hts
    cases span with
    | nil => exact .fail _ hname
    | cons t span =>
      have hspan := hr.subset (List.subset_append_left (t :: span) (comma :: rest))
      have hrest : w.Reads rest := hr.subset (by grind)
      refine .bind (hn.evaluate (by omega) hspan) fun w' v hw hv => ?_
      refine .bind (ih (hname.mono hw) (by omega) (hrest.mono hw)) fun w'' vs hw' hvs => ?_
      refine .pure ?_
      intro u hu
      rcases List.mem_cons.1 hu with rfl | hu
      · exact hv.mono hw'
      · exact hvs u hu

theorem application {f : FunctionId} {name : Token} (hname : w.Points name.offset)
    (hf : w.function f) (hts : ts.length ≤ n) (hr : w.Reads ts) :
    Stepwise call writes w site (Leaves ts.length) (application call site f name ts).bare := by
  rw [bare_application]
  split
  · next inner after henc =>
      have hlen := Bracket.length_of_enclosed? henc
      obtain ⟨hinner, hafter⟩ := Bracket.subset_of_enclosed? henc
      refine .bind (P := fun w vs => ∀ v ∈ vs, Value.Within w v) ?_ fun w' vs hw hvs => ?_
      · split
        · exact .pure (by simp)
        · exact hn.arguments hname (by omega) (hr.subset hinner)
      -- The function was within the realm when the name was looked up, and realms only grow.
      · have hplaced : ∀ w'' f, w' ≤ w'' → Fault.Within w'' f →
            (f.placedAt name.offset).Within w'' :=
          fun w'' f hw' hf => hf.placedAt ((hname.mono hw).mono hw')
        refine .bind (.mapFault hplaced (.call (hw.function f hf) hvs)) fun w'' v hw' hv => ?_
        exact .pure ⟨hv, by dsimp only; omega, ((hr.subset hafter).mono hw).mono hw'⟩
  · exact .malformed _ (hr.place w.points_none)

/-- A sign in front of an operand. -/
theorem signed (hends : w.Points ends) (hrest : rest.length ≤ n) (hr : w.Reads rest)
    {g : Value → Eval Value}
    (hg : ∀ w' v, w ≤ w' → Stepwise call writes w' site (fun w v => v.Within w) (g v)) :
    Stepwise call writes w site (Leaves (rest.length + 1)) (do
      let p ← (operand call site ends rest).bare
      let v ← g p.1
      pure (v, p.2)) := by
  refine .bind (hn w ends rest hrest hr hends) fun w' p hw hp => ?_
  refine .bind (hg w' p.1 hw) fun w'' v hw' hv => ?_
  exact .pure ⟨hv, by have := hp.short; dsimp only; omega, hp.reads.mono hw'⟩

theorem succ : StepwiseOperand call writes site (n + 1) := by
  intro w ends ts hts hr hends
  cases ts with
  | nil =>
    rw [bare_operand_nil]
    exact .fail _ hends
  | cons t rest =>
    have hrest : rest.length ≤ n := by simpa using hts
    have hlit : ∀ {w' : Realm} {v : Value}, w ≤ w' → v.Within w' →
        Stepwise call writes w' site (Leaves (t :: rest).length) (pure (v, rest)) :=
      fun hw hv => .pure ⟨hv, by simp, hr.tail.mono hw⟩
    -- By the kind of the first token. All readers below get at most `n` tokens.
    rw [bare_operand_cons]
    cases t.kind with
    | number => exact hlit (Realm.le_refl w) (Value.within_ofLiteral _ _)
    | string => exact hlit (Realm.le_refl w) (Value.within_ofLiteral _ _)
    | keyword =>
      dsimp only
      unfold constant?
      split
      · next v hv =>
          refine hlit (Realm.le_refl w) ?_
          split at hv <;> cases hv <;> trivial
      · exact .malformed _ hr.head
    | ident =>
      dsimp only
      refine .meaning t.literal fun w' m hw hm => ?_
      have ht := hr.head.mono hw
      unfold readName
      split
      · next f _ hf =>
          exact (hn.application ht (hm.callee hf) hrest (hr.tail.mono hw)).mono
            fun w'' p _ hp => hp.mono (by simp)
      · split
        · next v hv => exact hlit hw (hm v hv)
        · split
          · exact .fail _ ht
          · exact .fail _ ht
    | leftParen =>
      dsimp only
      split
      · exact .malformed _ hr.head
      · exact .fail _ hr.head
      · next inner after _ henc =>
          have hlen := Bracket.length_of_enclosed? henc
          obtain ⟨hinner, hafter⟩ := Bracket.subset_of_enclosed? henc
          simp only [List.length_cons] at hlen
          refine .bind (hn.evaluate (by omega) (hr.subset hinner)) fun w' v hw hv => ?_
          exact .pure ⟨hv, by simp only [List.length_cons]; omega, (hr.subset hafter).mono hw⟩
    | minus =>
      exact hn.signed hends hrest hr.tail fun w' v hw => .negate (hr.head.mono hw) v
    | not =>
      refine hn.signed hends hrest hr.tail
        (g := fun v => Eval.ofOperator t.offset (v.applyUnary .not)) fun w' v hw => ?_
      exact .ofOperator (hr.head.mono hw) fun u hu => Value.within_of_applyUnary hu w'
    | error => exact .malformed _ hr.head
    | _ => exact .fail _ hr.head

end StepwiseOperand

theorem stepwiseOperand (call : Caller) (writes : Bool) (site : Site) (n : Nat) :
    StepwiseOperand call writes site n := by
  induction n with
  | zero =>
    intro w ends ts hts _ hends
    rw [List.eq_nil_of_length_eq_zero (Nat.le_zero.1 hts), bare_operand_nil]
    exact .fail _ hends
  | succ n ih => exact ih.succ

/-- Evaluating tokens is stepwise, and writes nothing itself. -/
theorem stepwise_evaluate (call : Caller) (writes : Bool) (site : Site) {w : Realm}
    (hr : w.Reads ts) :
    Stepwise call writes w site (fun w v => v.Within w) (evaluate call site ts) :=
  (stepwiseOperand call writes site ts.length).evaluate (Nat.le_refl _) hr

end

/-! ### Statements -/

section

variable {call : Caller} {site : Site} {w : Realm} {n : Nat}

theorem stepwise_defineAll (site : Site) {owner : Nat} (ho : w.Owner site owner)
    {ds : List FunctionDecl} (hr : ∀ d ∈ ds, w.Reads d.body) :
    Stepwise call true w site (fun _ _ => True) (defineAll site owner ds) := by
  induction ds generalizing w with
  | nil => exact .pure trivial
  | cons d ds ih =>
    have hstep : Stepwise call true w site (fun _ _ => True)
        (modify (·.register site { d.function with owner })) :=
      .register rfl rfl rfl (hr d List.mem_cons_self) ho
    refine hstep.bind fun w' _ hw _ => ih (ho.mono hw) fun d' hd' => ?_
    exact (hr d' (List.mem_cons_of_mem d hd')).mono hw

theorem stepwise_store (site : Site) (shadow : Bool) (name : Bytes) (hv : v.Within w) :
    Stepwise call true w site (fun _ _ => True) (store site shadow name v) := by
  unfold store
  cases shadow with
  | true => exact .declare rfl name hv
  | false => exact .assign rfl name hv

theorem stepwise_condition (site : Site) (hoffset : w.Points offset) (hr : w.Reads ts) :
    Stepwise call true w site (fun _ _ => True) (condition call site offset ts) := by
  unfold condition
  split
  · exact .fail _ hoffset
  -- A value that is no truth value stops the run.
  · refine (stepwise_evaluate call true site hr).bind fun w' v hw _ => ?_
    unfold decideCondition
    split
    · exact .pure trivial
    · exact .fail _ (hoffset.mono hw)

variable (call) in
/-- Statements of at most `n` tokens run stepwise, at every site. -/
def StepwiseRun (n : Nat) : Prop :=
  ∀ (w : Realm) (site : Site) (shadow : Bool) (ends : Int) (p : Progress) (ts : List Token),
    ts.length ≤ n → w.Reads ts → w.Points ends → p.Within w →
      Stepwise call true w site Flow.Within (run call site shadow ends p ts)

theorem within_orElse {a b : Option Value} (ha : ∀ v, a = some v → v.Within w)
    (hb : ∀ v, b = some v → v.Within w) : ∀ v, (a <|> b) = some v → v.Within w := by
  intro v hv
  cases a with
  | some u => exact ha v hv
  | none => exact hb v hv

namespace StepwiseRun

variable {shadow : Bool} {ends : Int}

/-- What follows a body: the value it returned, or the statements behind it. -/
theorem afterBody {flow : Flow} (hflow : flow.Within w) {last : Option Value}
    (hlast : ∀ v, last = some v → v.Within w) {k : Option Value → Eval Flow}
    (hk : ∀ value, (∀ v, value = some v → v.Within w) →
      Stepwise call true w site Flow.Within (k value)) :
    Stepwise call true w site Flow.Within (match flow with
      | .returned v o => pure (.returned v o)
      | .finished p => k (p.value <|> last)) := by
  cases flow with
  | returned v o => exact .pure hflow
  | finished p => exact hk _ (within_orElse (fun v hv => hflow.value hv) hlast)

variable (hn : StepwiseRun call n)
include hn

theorem final {last : Option Value} (taken : Bool) (hlast : ∀ v, last = some v → v.Within w)
    (hts : ts.length ≤ n) (hr : w.Reads ts) (hends : w.Points ends) :
    Stepwise call true w site Flow.Within (final call site shadow ends last taken ts) := by
  rw [final_eq]
  split
  · next hcut =>
      exact .stop (.runtime (hr.complains hends (Declaration.complains_of_bracketed hcut)))
  · next body after hcut =>
      have hlen := Declaration.length_of_bracketed hcut
      obtain ⟨hbody, hafter⟩ := Declaration.subset_of_bracketed hcut
      refine .bind (P := Flow.Within) ?_ fun w' flow hw hflow => ?_
      · split
        · exact .pure (.empty w)
        · have hr' := hr.subset hbody
          exact hn w site shadow _ {} body (by omega) hr' hr'.last (.empty w)
      -- The statements behind the chain see the value of the body, or the last one before it.
      · refine afterBody hflow (fun v hv => (hlast v hv).mono hw)
          (k := fun value => run call site shadow ends ⟨none, value⟩ after) fun value hvalue => ?_
        exact hn w' site shadow ends _ after (by omega) ((hr.subset hafter).mono hw)
          (hends.mono hw) (.ofLast hvalue)

theorem conditional {last : Option Value} (taken : Bool) (hoffset : w.Points offset)
    (hlast : ∀ v, last = some v → v.Within w) (hts : ts.length ≤ n) (hr : w.Reads ts)
    (hends : w.Points ends) :
    Stepwise call true w site Flow.Within
      (conditional call site shadow ends last taken offset ts) := by
  -- An `else if` goes on with a conditional of fewer tokens. Bodies and what stands behind
  -- the chain are runs of statements.
  induction hlen : ts.length using Nat.strongRecOn generalizing ts w last taken offset with
  | _ len ih =>
    rcases conditional_cases call site shadow ends ts with
      ⟨_, _, hcomplains, heq⟩ | ⟨test, middle, body, after, htest, hbody, heq⟩
    · rw [heq]
      exact .stop (.runtime (hr.complains hends hcomplains))
    · rw [heq, arm]
      have hlen₁ := Declaration.length_of_bracketed htest
      obtain ⟨hsub₁, hsub₂⟩ := Declaration.subset_of_bracketed htest
      have hr₁ := hr.subset hsub₂
      have hlen₂ := Declaration.length_of_bracketed hbody
      obtain ⟨hsub₃, hsub₄⟩ := Declaration.subset_of_bracketed hbody
      refine .bind (P := fun _ _ => True) ?_ fun w' holds hw _ => ?_
      · split
        · exact .pure trivial
        · exact stepwise_condition site hoffset (hr.subset hsub₁)
      refine .bind (P := Flow.Within) ?_ fun w'' flow hw' hflow => ?_
      · split
        · have hr' := (hr₁.subset hsub₃).mono hw
          exact hn w' site shadow _ {} body (by omega) hr' hr'.last (.empty w')
        · exact .pure (.empty w')
      have hle := Realm.le_trans hw hw'
      have hends' := hends.mono hle
      have hr₂ := (hr₁.subset hsub₄).mono hle
      refine afterBody hflow (fun v hv => (hlast v hv).mono hle) (k := fun value =>
        alternative call site shadow ends value (taken || holds) after)
        fun value hvalue => ?_
      obtain ⟨f, hf, heq'⟩ := exists_proceeds call site shadow ends after
      rw [heq']
      cases hf with
      | elseIf =>
        simp only [List.length_cons] at hlen₂
        exact ih _ (by omega) _ hr₂.tail.head hvalue (by omega) hr₂.tail.tail hends' rfl
      | otherwise =>
        rw [List.length_cons] at hlen₂
        exact hn.final _ hvalue (by omega) hr₂.tail hends'
      | next => exact hn w'' site shadow ends _ after (by omega) hr₂ hends' (.ofLast hvalue)

theorem setUp (name : Bytes) (scope : ScopeId) {block : Option (List Token)}
    (hb : ∀ ts, block = some ts → ts.length ≤ n ∧ w.Reads ts) :
    Stepwise call true w ⟨scope, 0⟩ (fun _ _ => True) (setUp call name scope block) := by
  cases block with
  | none => exact .pure trivial
  | some ts =>
    obtain ⟨hlen, hr⟩ := hb ts rfl
    refine .bind (.mapFault (fun _ _ _ hf => hf.labelled _)
      (hn w ⟨scope, 0⟩ true _ {} ts hlen hr hr.last (.empty w))) ?_
    intro w' flow _ hflow
    cases flow with
    | returned v offset => exact .malformed _ hflow.2
    | finished p => exact .pure trivial

/-- An instance that was started gets its functions and its variables. -/
theorem furnish {c : Instance} (hc : w.started c) (name : Bytes) (hbody : body.length ≤ n)
    (hr : w.Reads body) :
    Stepwise call true w site (fun w c => w.started c) (furnish call name body c) := by
  unfold Quartz.furnish
  split
  · next hscan =>
      refine .stop (Fault.Within.labelled (.runtime ?_) _)
      exact hr.complains hr.last (Members.complains_of_scan hscan)
  · next members hscan =>
      obtain ⟨hfunctions, hblocks⟩ := Members.subset_of_scan hscan
      -- The member functions and the block belong to the scope of the instance.
      have hmembers : Stepwise call true w site (fun _ _ => True)
          (defineAll ⟨c.scope, 0⟩ c.id members.functions) :=
        .inside rfl hc (stepwise_defineAll ⟨c.scope, 0⟩ (.inr ⟨c, hc, rfl, rfl⟩)
          fun d hd => hr.subset (hfunctions d hd))
      refine hmembers.bind fun w₂ _ hw₂ _ => ?_
      have hblock : Stepwise call true w₂ site (fun _ _ => True)
          (Quartz.setUp call name c.scope members.block) := by
        refine .inside rfl (hw₂.started c hc) (hn.setUp name c.scope fun ts hts => ⟨?_, ?_⟩)
        · have := Members.length_of_scan hscan hts
          omega
        · exact (hr.subset (hblocks ts hts)).mono hw₂
      refine hblock.bind fun w₃ _ hw₃ _ => ?_
      have hreport : Stepwise call true w₃ site (fun _ _ => True) (do
          let st ← get
          Eval.report (.classCreated name c.id (st.scope c.scope).root.funcs.size)) :=
        .created rfl name c.id c.scope
      have hdone : Stepwise call true w₃ site (fun w c => w.started c) (do
          (do
            let st ← get
            Eval.report (.classCreated name c.id (st.scope c.scope).root.funcs.size))
          pure c) :=
        hreport.bind fun w₄ _ hw₄ _ => .pure (hw₄.started c (hw₃.started c (hw₂.started c hc)))
      rwa [bind_assoc] at hdone

theorem instantiate {globals : ScopeId} (hg : w.scope globals) (name : Bytes)
    (hbody : body.length ≤ n) (hr : w.Reads body) :
    Stepwise call true w site (fun w c => w.started c)
      (instantiate call (some globals) name body) := by
  rw [instantiate_eq]
  exact .bind (.allot rfl hg name body) fun w₁ c hw₁ hc =>
    hn.furnish hc name hbody (hr.mono hw₁)

section

variable (hp : p.Within w) (hrest : rest.length ≤ n) (hr : w.Reads (t :: rest))
  (hends : w.Points ends)
include hp hrest hr hends

theorem expression :
    Stepwise call true w site Flow.Within (expression call site shadow ends p t rest) := by
  rw [expression_eq]
  refine .bind (.require p _ hr.head) fun w₁ _ hw₁ _ => ?_
  -- The operand may use all tokens, so nothing is asked of `n` here.
  have hexpr := stepwiseOperand call true site (t :: rest).length
  refine .bind (hexpr w₁ ends (t :: rest) (Nat.le_refl _) (hr.mono hw₁) (hends.mono hw₁))
    fun w₂ q hw₂ hq => ?_
  have hshort := hq.short
  have hends₂ := (hends.mono hw₁).mono hw₂
  refine .bind (hexpr.binary false hends₂ hq.within (by omega) hq.reads) fun w₃ r hw₃ hv => ?_
  have hshort' := hv.short
  simp only [List.length_cons] at hshort
  refine hn w₃ site shadow ends _ r.2 (by omega) hv.reads (hends₂.mono hw₃)
    (.ofPending ?_ hv.within)
  exact hp.mono (Realm.le_trans hw₁ (Realm.le_trans hw₂ hw₃))

theorem assignment :
    Stepwise call true w site Flow.Within (assignment call site shadow ends p t rest) := by
  unfold Quartz.assignment
  cases rest with
  | nil => exact .pure hp
  | cons sign tail =>
    simp only [List.length_cons] at hrest
    refine .bind (.require p _ hr.head) fun w₁ _ hw₁ _ => ?_
    have hr₁ := hr.mono hw₁
    split
    · exact .fail _ hr₁.head
    · exact .fail _ hr₁.tail.head
    · next right after _ hcut =>
        have hlen := Bracket.length_of_terminated? hcut
        obtain ⟨hright, hafter⟩ := Bracket.subset_of_terminated? hcut
        have hr₂ := hr₁.tail.tail
        refine .bind (stepwise_evaluate call true site (hr₂.subset hright)) fun w₂ v hw₂ hv => ?_
        refine .bind (stepwise_store site shadow t.literal hv) fun w₃ _ hw₃ _ => ?_
        refine hn w₃ site shadow ends _ after (by omega) (((hr₂.subset hafter).mono hw₂).mono hw₃)
          (((hends.mono hw₁).mono hw₂).mono hw₃) (.ofLast ?_)
        rintro u ⟨⟩
        exact hv.mono hw₃

theorem mention (m : State.Meaning) :
    Stepwise call true w site Flow.Within (mention call site shadow ends p t rest m) := by
  unfold Quartz.mention
  split
  · exact hn.expression hp hrest hr hends
  -- A new name is declared as null, and the operators behind it are applied to that.
  · refine .bind (.require p _ hr.head) fun w₁ _ hw₁ _ => ?_
    refine .bind (.declare rfl t.literal (v := .null) trivial) fun w₂ _ hw₂ _ => ?_
    have hexpr := stepwiseOperand call true site rest.length
    have hle := Realm.le_trans hw₁ hw₂
    refine .bind (hexpr.binary false (hends.mono hle) (v := .null) trivial (Nat.le_refl _)
      (hr.tail.mono hle)) fun w₃ r hw₃ hv => ?_
    have hshort := hv.short
    refine hn w₃ site shadow ends _ r.2 (by omega) hv.reads ((hends.mono hle).mono hw₃)
      (.ofPending ?_ hv.within)
    exact hp.mono (Realm.le_trans hle hw₃)

end

theorem succ : StepwiseRun call (n + 1) := by
  intro w site shadow ends p ts hts hr hends hp
  cases ts with
  | nil =>
    rw [run_nil]
    exact .pure hp
  | cons t rest =>
    have hrest : rest.length ≤ n := by simpa using hts
    obtain ⟨f, hf, hrun⟩ := exists_opens call site shadow t
    rw [hrun]
    cases hf with
    | eof ht => exact .pure hp
    | refused form => exact .malformed _ hr.head
    | semicolon ht => exact hn w site shadow ends _ rest hrest hr.tail hends hp.committed
    | idle ht => exact hn w site shadow ends p rest hrest hr.tail hends hp
    | name ht =>
      dsimp only
      split
      · exact hn.assignment hp hrest hr hends
      · refine .meaning t.literal fun w' m hw _ => ?_
        exact hn.mention (hp.mono hw) hrest (hr.mono hw) (hends.mono hw) m
    | ret =>
      refine .bind (.require p _ hr.head) fun w₁ _ hw₁ _ => ?_
      have hr₁ := hr.mono hw₁
      split
      · exact .fail _ hr₁.head
      · exact .pure ⟨trivial, hr₁.head⟩
      · next right after _ hcut =>
          have hright := (Bracket.subset_of_terminated? hcut).1
          refine .bind (stepwise_evaluate call true site (hr₁.tail.subset hright))
            fun w₂ v hw₂ hv => ?_
          exact .pure ⟨hv, hr₁.head.mono hw₂⟩
    | cond ht =>
      refine .bind (.require p _ hr.head) fun w₁ _ hw₁ _ => ?_
      exact hn.conditional false (hr.head.mono hw₁) (fun v hv => (hp v (.inr hv)).mono hw₁) hrest
        (hr.tail.mono hw₁) (hends.mono hw₁)
    | function ht =>
      dsimp only
      split
      · next hread =>
          exact .stop (.runtime (hr.complains hends (FunctionDecl.complains_of_read hread)))
      · next d after hread =>
          have hlen := FunctionDecl.length_of_read hread
          obtain ⟨hbody, hafter⟩ := FunctionDecl.subset_of_read hread
          simp only [List.length_cons] at hlen
          have hbodies : ∀ d' ∈ [d], w.Reads d'.body := by simpa using hr.subset hbody
          refine .bind (stepwise_defineAll site (.inl rfl) hbodies) fun w₁ _ hw₁ _ => ?_
          exact hn w₁ site shadow ends p after (by omega) ((hr.subset hafter).mono hw₁)
            (hends.mono hw₁) (hp.mono hw₁)
    | crystal ht =>
      dsimp only
      split
      · next hread =>
          exact .stop (.runtime (hr.complains hends (ClassDecl.complains_of_read hread)))
      · next d after hread =>
          have hlen := ClassDecl.length_of_read hread
          obtain ⟨hbody, hafter⟩ := ClassDecl.subset_of_read hread
          simp only [List.length_cons] at hlen
          refine .outermost rfl (hr t List.mem_cons_self) ht fun w₁ globals hw₁ hg => ?_
          unfold declareClass
          refine .bind (hn.instantiate hg d.name (by omega) ((hr.subset hbody).mono hw₁))
            fun w₂ c hw₂ hc => ?_
          have hheld : (Value.object c).Within w₂ := w₂.started_object c hc
          refine .bind (.declare rfl d.name hheld) fun w₃ _ hw₃ _ => ?_
          have hle := Realm.le_trans hw₁ (Realm.le_trans hw₂ hw₃)
          exact hn w₃ site shadow ends p after (by omega) ((hr.subset hafter).mono hle)
            (hends.mono hle) (hp.mono hle)
    | expression ht => exact hn.expression hp hrest hr hends

end StepwiseRun

theorem stepwiseRun (call : Caller) (n : Nat) : StepwiseRun call n := by
  induction n with
  | zero =>
    intro w site shadow ends p ts hts _ _ hp
    rw [List.eq_nil_of_length_eq_zero (Nat.le_zero.1 hts), run_nil]
    exact .pure hp
  | succ n ih => exact ih.succ

variable (call : Caller) (site : Site)

/-- Running statements is stepwise. -/
theorem stepwise_run (shadow : Bool) {ends : Int} (hends : w.Points ends) (hp : p.Within w)
    (hr : w.Reads ts) : Stepwise call true w site Flow.Within (run call site shadow ends p ts) :=
  stepwiseRun call ts.length w site shadow ends p ts (Nat.le_refl _) hr hends hp

/-- Building an instance is stepwise. -/
theorem stepwise_instantiate {globals : ScopeId} (hg : w.scope globals) (name : Bytes)
    (hr : w.Reads body) :
    Stepwise call true w site (fun w c => w.started c)
      (instantiate call (some globals) name body) :=
  (stepwiseRun call body.length).instantiate hg name (Nat.le_refl _) hr

/-! ### Function bodies -/

theorem stepwise_bindAll (ps : List Param) (args : List Value) {w : Realm}
    (hargs : ∀ v ∈ args, v.Within w) :
    Stepwise call true w site (fun _ _ => True) (bindAll site ps args) := by
  -- The arguments stay within the realms after each binding.
  induction ps generalizing args w with
  | nil => exact .pure trivial
  | cons p ps ih =>
    cases args with
    | nil => exact .pure trivial
    | cons v vs =>
      refine .bind (.declare rfl p.name (hargs v List.mem_cons_self)) fun w' _ hw _ => ?_
      exact ih vs fun u hu => (hargs u (List.mem_cons_of_mem v hu)).mono hw

theorem stepwise_bodyValue (hr : w.Reads body) :
    Stepwise call true w site (fun w v => v.Within w) (bodyValue call site body) := by
  unfold bodyValue
  refine .bind (stepwise_run call site false hr.last (.empty w) hr) fun w' flow _ hflow => ?_
  cases flow with
  | returned v offset => exact .pure hflow.1
  | finished p =>
    refine .pure ?_
    cases hv : p.value with
    | none => trivial
    | some v => exact hflow.value hv

/-- A function at work: its parameters are bound, and its body runs. -/
theorem stepwise_call {fn : Function} (hr : w.Reads fn.body) {args : List Value}
    (hargs : ∀ v ∈ args, v.Within w) :
    Stepwise call true w site (fun w v => v.Within w) (do
      bindAll site fn.params args
      bodyValue call site fn.body) :=
  (stepwise_bindAll call site fn.params args hargs).bind fun _ _ hw _ =>
    stepwise_bodyValue call site (hr.mono hw)

end

end Quartz
