import Quartz.Proofs.Eval.Course

/-!
# `Quartz.Proofs.Eval.Restore`: calls leave the frames as they found them

A call pushes a frame onto the home of the function and releases it at the end. Whatever
happens in between, further calls, instances that are built, faults and the refusal of a
frame among it, afterwards every scope is as deep as before, and above the roots its frames
hold what they held (`calls_restore_frames`). Only root frames change: a callee that assigns
a variable finds its own frame or a root.

The main result is about every reachable state, so about states in the middle of a run too,
where the frames of callers are live.
-/

set_option autoImplicit false

namespace Quartz

theorem Reachable.moves {built built' : List Instance} {st st' : State} (h : Reachable built st)
    (hm : Moves built st built' st') : Reachable built' st' := by
  induction hm with
  | refl => exact h
  | step _ hm ih => exact .step ih (.script hm)

/-- However a run ends, it ends in a reachable state in which every scope is as deep as it
was, and every frame above a root is what it was. -/
structure Eval.Restores {α : Type} (x : Eval α) (st : State) : Prop where
  reachable : ∃ built, Reachable built (x.after st)
  scopes : st.scopes.size ≤ (x.after st).scopes.size
  depth : ∀ s, s < st.scopes.size → ((x.after st).scope s).depth = (st.scope s).depth
  frame : ∀ s i, s < st.scopes.size → 0 < i → i < (st.scope s).depth →
    (x.after st).frameAt ⟨s, i⟩ = st.frameAt ⟨s, i⟩

/-- A run that works in no frame above a root. -/
theorem Leads.restores {built : List Instance} {st : State} {α : Type} {Q : Realm → α → Prop}
    {x : Eval α} (hx : Leads none built st Q x) (h : Reachable built st) : x.Restores st := by
  obtain ⟨built', hmoves, hkeeps⟩ := hx.reaches_after
  refine ⟨⟨built', h.moves hmoves⟩, hkeeps.scopes, hkeeps.live, fun s i hs hpos hi => ?_⟩
  exact hkeeps.frame ⟨s, i⟩ ⟨hs, hi⟩ hpos (by simp)

theorem leads_execute {built : List Instance} {st : State} (hst : st.Sound built) {s : ScopeId}
    (hs : s < st.scopes.size) (ts : List Token) :
    Leads none built st (fun w v => v.Within w) (execute s ts) := by
  have hcall : (callFrom st s).Keeping := leads_callAt _
  have hr := (st.world built).reads ts
  have hrun := (stepwise_run (callFrom st s) ⟨s, 0⟩ false hr.last (.empty _) hr).leads hcall built
    st rfl hst fun _ => hst.shallow_root hs
  refine .get (.bind hrun.ofRoot fun flow built' st' _ hflow => ?_)
  -- A `return` and a pending value are refused without a change.
  cases flow with
  | returned v offset => exact .error (Eval.fail_apply _ _ st')
  | finished p =>
    dsimp only
    split
    · exact .error (Eval.fail_apply _ _ st')
    · refine .pure ?_
      cases hlast : p.last with
      | none => trivial
      | some v => exact hflow v (.inr hlast)

/-- **Calls restore the frames.** From every reachable state, calls of functions that exist
with arguments that exist, with their types checked or not, evaluations at every site, and
tokens that are executed in a scope leave the depth of every scope and every frame above a
root as they were, whether they give a value or stop. -/
theorem calls_restore_frames {built : List Instance} {st : State} (h : Reachable built st) :
    (∀ f args, f < st.functions.size → (∀ v ∈ args, v.Valid (st.world built)) →
      (callFunction f args).Restores st ∧ (invokeFunction f args).Restores st) ∧
    (∀ level site ts, (evaluate (callAt level) site ts).Restores st) ∧
    ∀ s ts, s < st.scopes.size → (execute s ts).Restores st := by
  have hst := h.sound
  -- Each kind of run leads on without working in a frame above a root.
  refine ⟨fun f args hf hargs => ?_, fun level site ts => ?_, fun s ts hs => ?_⟩
  · have hcall : (callFrom st (st.homeOrFirst f)).Keeping := leads_callAt _
    have hchecked : Leads none built st (fun w v => v.Within w) (callFunction f args) :=
      .get (hcall f args built st hst hf hargs)
    have hunchecked : Leads none built st (fun w v => v.Within w) (invokeFunction f args) :=
      .get (leads_invoke hcall f args built st hst hf hargs)
    exact ⟨hchecked.restores h, hunchecked.restores h⟩
  · -- An evaluation writes nothing itself, so any site will do.
    have hsteps := stepwise_evaluate (callAt level) false site ((st.world built).reads ts)
    have hlead := hsteps.leads (leads_callAt level) built st rfl hst fun hwrites => nomatch hwrites
    exact hlead.restores h
  · exact (leads_execute hst hs ts).restores h

/-- A function that calls itself runs out of frames, above a frame that stays. -/
theorem calls_restore_frames_overflow :
    let loop := Function.ofBody (utf8 "f") []
      [⟨.keyword, utf8 "return", 0⟩, ⟨.ident, utf8 "f", 7⟩, ⟨.leftParen, utf8 "(", 8⟩,
        ⟨.rightParen, utf8 ")", 9⟩, ⟨.semicolon, utf8 ";", 10⟩]
    let st := (((({} : State).newScope none (some 4)).2.register ⟨0, 0⟩ loop).push 0 0).declare
      ⟨0, 1⟩ (utf8 "k") .null
    Reachable [] st ∧ failure? (callFunction 0 [] st) = some (.stackOverflow, 7) ∧
      (callFunction 0 []).Restores st := by
  intro loop st
  have hscope : Reachable [] (({} : State).newScope none (some 4)).2 :=
    .step (.initial rfl rfl) (.newScope none (some 4) (by simp))
  have hfunction : Reachable [] ((({} : State).newScope none (some 4)).2.register ⟨0, 0⟩ loop) :=
    hscope.step (.script (.register ⟨by decide, by decide⟩ rfl rfl))
  have hframe := hfunction.step (.script (.push (s := 0) (by decide) (by decide) 0))
  have hst : Reachable [] st :=
    hframe.step (.script (.declare ⟨by decide, by decide⟩ (utf8 "k") trivial))
  exact ⟨hst, by decide +kernel, ((calls_restore_frames hst).1 0 [] (by decide) (by simp)).1⟩

end Quartz
