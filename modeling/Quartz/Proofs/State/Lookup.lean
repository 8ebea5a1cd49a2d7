import Quartz.Proofs.State.Reachable

/-!
# `Quartz.Proofs.State.Lookup`: where the search for a name leads

Scripts run at shallow sites: in a root frame, or in a frame whose parent is the root. A
search from there meets the frame itself and then only roots, its own and those of the
scopes outside, so an assignment cannot reach the frame of a caller
(`holder?_of_shallow`). What the search finds exists (`Grounded.meaning`).
-/

set_option autoImplicit false

namespace Quartz

variable {s : ScopeId} {found site : Site} {has : Frame → Bool} {i : Int}

theorem Bindings.mem_of_get? {α : Type} {b : Bindings α} {name : Bytes} {a : α}
    (h : b.get? name = some a) : (name, a) ∈ b.entries := by
  obtain ⟨entries⟩ := b
  change find? name entries = some a at h
  induction entries with
  | nil => exact nomatch h
  | cons e rest ih =>
    obtain ⟨n, c⟩ := e
    unfold find? at h
    split at h
    · next hn =>
        cases h
        rw [hn]
        exact List.mem_cons_self
    · exact List.mem_cons_of_mem _ (ih h)

namespace Scope

variable {sc : Scope}

theorem live?_eq_some {f : Frame} (h : sc.live? i = some f) :
    0 ≤ i ∧ i < sc.live ∧ f = sc.frame i.toNat := by
  unfold live? at h
  split at h
  · next hi =>
      cases h
      exact ⟨hi.1, hi.2, rfl⟩
  · cases h

theorem live?_of_neg (hi : i < 0) : sc.live? i = none := by
  rw [live?, if_neg (by omega)]

/-- One step of a search, at a live frame. -/
theorem seek_of_live (has : Frame → Bool) {i : Nat} (hlive : i < sc.live) (steps : Nat) :
    sc.seek has (steps + 1) i =
      if has (sc.frame i) then some i else sc.seek has steps (sc.frame i).parent := by
  rw [seek, live?, if_pos ⟨by omega, by omega⟩]
  rfl

theorem seek_of_neg (has : Frame → Bool) (steps : Nat) (hi : i < 0) :
    sc.seek has steps i = none := by
  cases steps with
  | zero => rfl
  | succ steps => rw [seek, live?_of_neg hi]

/-- A search from a root whose parent is no frame looks at the root only. -/
theorem seek_root (has : Frame → Bool) (hlive : 0 < sc.live) (hparent : sc.root.parent < 0)
    (steps : Nat) : sc.seek has (steps + 1) 0 = if has sc.root then some 0 else none := by
  rw [← seek_of_neg has steps hparent]
  exact seek_of_live has hlive steps

theorem seek_has {steps j : Nat} (h : sc.seek has steps i = some j) :
    j < sc.live ∧ has (sc.frame j) = true := by
  induction steps generalizing i with
  | zero => cases h
  | succ steps ih =>
    rw [seek] at h
    cases hlive : sc.live? i with
    | none =>
      rw [hlive] at h
      cases h
    | some f =>
      rw [hlive] at h
      dsimp only at h
      split at h
      · next hf =>
          cases h
          obtain ⟨_, _, rfl⟩ := live?_eq_some hlive
          exact ⟨by omega, hf⟩
      · exact ih h

end Scope

/-- What a search finds is live and has the property that was searched for. -/
theorem state_seek_has {st : State} (h : st.seek has s i = some found) :
    found.frame < (st.scope found.scope).live ∧ has (st.frameAt found) = true := by
  induction s using Nat.strongRecOn generalizing i with
  | _ s ih =>
    rw [State.seek] at h
    split at h
    · next j hj =>
        cases h
        exact Scope.seek_has hj
    · split at h
      · cases h
      · split at h
        · next o _ hlt => exact ih o hlt h
        · cases h

/-- A live site in a root frame, or in a frame whose parent is the root. -/
structure Site.Shallow (st : State) (site : Site) : Prop where
  live : site.Live st
  parent : site.frame = 0 ∨ (st.frameAt site).parent = 0

namespace State

variable {st : State} {w : World}

/-- The root frame of a scope is a shallow site. -/
theorem Sound.shallow_root {built : List Instance} (h : st.Sound built) (hs : s < st.scopes.size) :
    Site.Shallow st ⟨s, 0⟩ :=
  ⟨⟨hs, h.grounded.live_pos s⟩, .inl rfl⟩

theorem outermost_le (st : State) (s : ScopeId) : st.outermost s ≤ s := by
  -- A scope is outside only if it is older, so the search goes down.
  induction s using Nat.strongRecOn with
  | _ s ih =>
    rw [outermost]
    split
    · exact Nat.le_refl s
    · split
      · next hlt => exact Nat.le_trans (ih _ hlt) (Nat.le_of_lt hlt)
      · exact Nat.le_refl s

section

variable {P : ScopeId → Prop}
  (houter : ∀ s o, P s → (st.scope s).outer = some o → P o)

include houter

/-- A search for a name goes only to scopes around those that it has met. -/
theorem holds_of_seek {holder : Site} (hs : P s) (h : st.seek has s i = some holder) :
    P holder.scope := by
  induction s using Nat.strongRecOn generalizing i with
  | _ s ih =>
    rw [seek] at h
    split at h
    · cases h
      exact hs
    · split at h
      · cases h
      · next o ho =>
          split at h
          · next hlt => exact ih o hlt (houter s o hs ho) h
          · cases h

theorem holds_outermost (hs : P s) : P (st.outermost s) := by
  induction s using Nat.strongRecOn with
  | _ s ih =>
    rw [outermost]
    split
    · exact hs
    · next o ho =>
        split
        · next hlt => exact ih o hlt (houter s o hs ho)
        · exact hs

end

/-- A name means what the frames hold to which a search for it may lead. -/
theorem meaning_within {r : Realm} (found : Site → Prop)
    (hseek : ∀ has holder, st.seek has site.scope site.frame = some holder → found holder)
    (hvars : ∀ holder, found holder → ∀ e ∈ (st.frameAt holder).vars.entries, e.2.Within r)
    (hfuncs : ∀ holder, found holder → ∀ e ∈ (st.frameAt holder).funcs.entries, r.function e.2)
    (name : Bytes) : (st.meaning site name).Within r := by
  intro v hv
  unfold State.meaning at hv
  split at hv
  · next u hu =>
      cases hv
      obtain ⟨holder, hfound, hget⟩ := Option.bind_eq_some_iff.1 hu
      exact hvars holder (hseek _ holder hfound) _ (Bindings.mem_of_get? hget)
  · split at hv
    · next f hf =>
        cases hv
        obtain ⟨holder, hfound, hget⟩ := Option.bind_eq_some_iff.1 hf
        exact hfuncs holder (hseek _ holder hfound) _ (Bindings.mem_of_get? hget)
    · cases hv

variable (h : st.Grounded w)
include h

/-- A name means something that exists. -/
theorem Grounded.meaning (site : Site) (name : Bytes) : (st.meaning site name).Within w :=
  meaning_within (fun _ => True) (fun _ _ _ => trivial)
    (fun holder _ e he => Value.within_realm_iff.2 (h.vars holder e he))
    (fun holder _ e he => h.funcs holder e he) name

/-- A search in a scope that starts in its root ends there. -/
theorem Grounded.scope_seek_root (s : ScopeId) (has : Frame → Bool) {steps i : Nat}
    (hi : (st.scope s).seek has steps 0 = some i) : i = 0 := by
  cases steps with
  | zero => cases hi
  | succ steps =>
    rw [Scope.seek_root has (h.live_pos s) (h.root_parent s)] at hi
    split at hi <;> cases hi
    rfl

/-- A function of a root frame is the one that its name means there. -/
theorem Grounded.function?_root {name : Bytes} {f : FunctionId}
    (hf : (st.scope s).root.funcs.get? name = some f) : st.function? ⟨s, 0⟩ name = some f := by
  have hlive := h.live_pos s
  obtain ⟨steps, hsteps⟩ : ∃ steps, (st.scope s).live = steps + 1 :=
    ⟨(st.scope s).live - 1, by omega⟩
  have hfound : (st.scope s).seek (fun fr => fr.funcs.contains name) (st.scope s).live 0 =
      some 0 := by
    have hhas : (st.scope s).root.funcs.contains name = true := by simp [Bindings.contains, hf]
    rw [hsteps, Scope.seek_root _ hlive (h.root_parent s), if_pos hhas]
  have hseek : st.seek (fun fr => fr.funcs.contains name) s 0 = some ⟨s, 0⟩ := by
    rw [seek, hfound]
  show (st.seek (fun fr => fr.funcs.contains name) s (0 : Nat)).bind _ = some f
  rw [Int.natCast_zero, hseek]
  exact hf

/-- A search from a shallow site meets the site itself and then only roots. -/
theorem Grounded.seek_shallow (hs : site.Shallow st) (has : Frame → Bool)
    (hf : st.seek has site.scope site.frame = some found) :
    found = site ∨ found.frame = 0 ∧ found.scope ≤ site.scope := by
  -- On the scope: the search goes on in the root of an older one.
  induction hk : site.scope using Nat.strongRecOn generalizing site with
  | _ k ih =>
    obtain ⟨s, i⟩ := site
    subst hk
    have hlive : i < (st.scope s).live := hs.live.2
    rw [seek] at hf
    dsimp only at hf
    split at hf
    · next j hj =>
        cases hf
        rcases hs.parent with hroot | hparent
        · dsimp only at hroot
          subst hroot
          exact .inr ⟨h.scope_seek_root s has hj, Nat.le_refl s⟩
        · -- One step looks at the site, and the next one is in the root already.
          obtain ⟨steps, hsteps⟩ : ∃ steps, (st.scope s).live = steps + 1 :=
            ⟨(st.scope s).live - 1, by omega⟩
          have hfound : ((st.scope s).frame i).parent = 0 := hparent
          rw [hsteps, Scope.seek_of_live has hlive, hfound] at hj
          split at hj
          · cases hj
            exact .inl rfl
          · exact .inr ⟨h.scope_seek_root s has hj, Nat.le_refl s⟩
    · split at hf
      · cases hf
      · split at hf
        · next hlt =>
            have hroot : Site.Shallow st ⟨_, 0⟩ :=
              ⟨⟨Nat.lt_trans hlt hs.live.1, h.live_pos _⟩, .inl rfl⟩
            rcases ih _ hlt hroot hf rfl with rfl | ⟨hframe, hle⟩
            · exact .inr ⟨rfl, Nat.le_of_lt hlt⟩
            · exact .inr ⟨hframe, Nat.le_trans hle (Nat.le_of_lt hlt)⟩
        · cases hf

/-- The frame that an assignment at a shallow site changes is live, and is the site itself
or a root. -/
theorem Grounded.holder?_of_shallow (hs : site.Shallow st) (name : Bytes) :
    ((st.holder? site name).getD site).Live st ∧
      ((st.holder? site name).getD site = site ∨ ((st.holder? site name).getD site).frame = 0) := by
  cases hh : st.holder? site name with
  | none => exact ⟨hs.live, .inl rfl⟩
  | some found =>
    -- A root is live in every scope that exists.
    rcases h.seek_shallow hs _ hh with rfl | ⟨hframe, hle⟩
    · exact ⟨hs.live, .inl rfl⟩
    · refine ⟨⟨Nat.lt_of_le_of_lt hle hs.live.1, ?_⟩, .inr hframe⟩
      show found.frame < _
      rw [hframe]
      exact h.live_pos _

end State

end Quartz
