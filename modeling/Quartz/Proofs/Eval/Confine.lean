import Quartz.Proofs.Eval.Regime
import Quartz.Proofs.State.Sealed

/-!
# `Quartz.Proofs.Eval.Confine`: runs that stay outside

A script has no way into a sealed set of scopes: it can only call the functions that it meets,
and none that runs inside is to be met outside. So sparing the set is a regime for the scripts
outside (`lawful_sparing`). Whatever runs outside spares the set, however it ends, and what it
gives is within the realm outside. `Sealed.callMember` is the case of a call from a host.
-/

set_option autoImplicit false

namespace Quartz

namespace State

section

variable {S : Set ScopeId} {built : List Instance} {st : State}

variable {site : Site} (hst : st.Sealed S built) (hsite : (st.confined S built).scope site.scope)
  (name : Bytes)
include hst hsite

/-- A name that is looked up outside means something outside. -/
theorem Sealed.meaning : (st.meaning site name).Within (st.confined S built) :=
  meaning_within (fun holder => holder.Live st ∧ ¬ st.Inside S holder.scope)
    (fun _ _ hseek => ⟨hst.tidy.live_of_seek hsite.1 hseek, not_inside_of_seek hsite.2 hseek⟩)
    (fun holder h => hst.holds.vars holder h.1 (.inl h.2))
    (fun holder h => hst.holds.funcs holder h.1 h.2) name

theorem Sealed.assign {v : Value} (hv : v.Within (st.confined S built)) :
    Spares S built st built (st.assign site name v) := by
  have hholder : ¬ st.Inside S ((st.holder? site name).getD site).scope := by
    cases hfound : st.holder? site name with
    | none => exact hsite.2
    | some holder => exact not_inside_of_seek hsite.2 hfound
  exact hst.declare hholder name hv

end

/-- States that come about from one without a change inside a sealed set of scopes. -/
def sparing (S : Set ScopeId) (built₀ : List Instance) (st₀ : State) : Regime (List Instance) where
  holds built st := Spares S built₀ st₀ built st
  realm built st := st.confined S built

section

variable {S : Set ScopeId} {built₀ built built' : List Instance} {st₀ st st' : State}

theorem Spares.onward (h : Spares S built₀ st₀ built st) (h' : Spares S built st built' st') :
    ∃ built', (sparing S built₀ st₀).Onward built st built' st' := ⟨built', h.trans h', h'.realm_le⟩

/-- Scripts outside spare the set. -/
theorem lawful_sparing (S : Set ScopeId) (built₀ : List Instance) (st₀ : State) :
    (sparing S built₀ st₀).Lawful where
  meaning h _ hs name := h.keeps.meaning hs name
  declare h _ hs name _ hv := h.onward (h.keeps.declare hs.2 name hv)
  assign h _ hs name _ hv := h.onward (h.keeps.assign hs name hv)
  register h _ hs _ hh hn _ _ := h.onward (h.keeps.register hs hh hn)
  outermost {_ st} _ _ hs :=
    ⟨Nat.lt_of_le_of_lt (st.outermost_le _) hs.1, not_inside_outermost hs.2⟩
  allot h _ ho name body := by
    obtain ⟨hspares, hout⟩ := h.keeps.allot ho name body
    exact ⟨_, ⟨h.trans hspares, hspares.realm_le⟩, List.mem_append_right _ List.mem_cons_self, hout⟩
  started h _ hc := ⟨h.keeps.sound.counted.scope_lt _ hc.1, hc.2⟩
  aside h hs hf hi := h.onward (h.keeps.aside hs hf (Nat.le_of_eq hi.symm))
  copy {built st} h c hc := by
    have hsound := h.keeps.sound
    obtain ⟨_, hmem, _⟩ := tourFrom_complete hsound.closed hsound.counted.length_le hc
    have hspares := h.keeps.copy hc
    exact ⟨_, ⟨h.trans hspares, hspares.realm_le⟩,
      List.mem_append_right _ (Sound.mem_copies hmem)⟩
  member h c hc _ _ hf := h.keeps.holds.funcs ⟨c.table, 0⟩
    ⟨hc.1, h.keeps.sound.grounded.live_pos c.table⟩ hc.2 _ (Bindings.mem_of_get? hf)
  native h f _ v hv := h.keeps.holds.native f v hv
  body _ _ _ _ _ := trivial
  home h f hf s hs := ⟨h.keeps.sound.grounded.home_lt f s hs, hf.2 s hs⟩
  shelter h f _ _ := by
    obtain ⟨hspares, hscope⟩ := h.keeps.shelter f
    exact ⟨_, ⟨h.trans hspares, hspares.realm_le⟩, hscope⟩
  push h _ hs := h.onward (h.keeps.push hs.2 0)
  release h _ hs i := h.onward (h.keeps.release hs.2 i)

/-- A member function of an instance outside is called. -/
theorem Sealed.callMember (hst : st.Sealed S built) {c : Instance}
    (hc : (st.confined S built).scope c.table) (name : Bytes) {args : List Value}
    (hargs : ∀ v ∈ args, v.Within (st.confined S built)) :
    ∃ built', Spares S built st built' ((callMember c name args).after st) := by
  have hrun := (lawful_sparing S built st).runs_callMember (.refl hst) hc name hargs
  obtain ⟨built', hon⟩ := hrun.exists_after
  exact ⟨built', hon.holds⟩

end

end State

end Quartz
