import Quartz.Eval.Call
import Quartz.Proofs.Expression.Reader
import Quartz.Proofs.Token.Bracket
import Quartz.Token.Lexer

/-!
# `Quartz.Proofs.Expression.Argument`: arguments and the commas between them

Cutting at the commas outside parentheses and joining with commas (`Bracket.joined`) undo each
other. Nothing is lost whatever the parentheses are (`joined_spans`). The other way round, a piece
must neither hold such a comma nor change the depth for the pieces behind it (`uncut_of_balanced`).
-/

set_option autoImplicit false

namespace Quartz

variable {ts : List Token} {t : Token}

namespace Bracket

/-- Pieces with commas between them. -/
def joined : List (List Token) → List Token → List Token
  | span :: spans, comma :: commas => span ++ comma :: joined spans commas
  | spans, _ => spans.flatten

theorem joined_spans (ts : List Token) : joined (spans ts) (outerCommas 0 ts) = ts := by
  induction ts using cut_induction with
  | last ts hcut hno => simp [spans_of_last hcut, hno, joined]
  | more span comma rest _ hcut hcommas ih => rw [spans_of_more hcut, hcommas, joined, ih]

theorem length_spans (ts : List Token) : (spans ts).length = (outerCommas 0 ts).length + 1 := by
  induction ts using cut_induction with
  | last ts hcut hno => rw [spans_of_last hcut, hno, List.length_singleton, List.length_nil]
  | more span comma rest _ hcut hcommas ih =>
    rw [spans_of_more hcut, hcommas, List.length_cons, ih, List.length_cons]

section

variable {depth depth' : Nat}

/-- A parenthesis that is not closed too many moves the depth by its weight. -/
theorem depthAfter_cons (h : depthAfter .leftParen .rightParen depth (t :: ts) = some depth') :
    ∃ next : Nat, (next : Int) = depth + parenWeight t ∧
      depthAfter .leftParen .rightParen next ts = some depth' := by
  simp only [depthAfter] at h
  split at h
  · next ho => exact ⟨depth + 1, by simp [parenWeight, ho], h⟩
  · split at h
    · next hc =>
        cases depth with
        | zero => cases h
        | succ d => exact ⟨d, by simp only [parenWeight, hc]; omega, h⟩
    · exact ⟨depth, by simp_all [parenWeight], h⟩

/-- The search for a comma goes on behind a piece at the depth that it leaves, above any depth
`k` that was there before it. -/
theorem cutFrom_of_depthAfter (h : depthAfter .leftParen .rightParen depth ts = some depth')
    (hno : outerCommas depth ts = []) (k : Nat) (rest : List Token) :
    cutFrom (depth + k) (ts ++ rest) =
      (ts ++ (cutFrom (depth' + k) rest).1, (cutFrom (depth' + k) rest).2) := by
  induction ts generalizing depth with
  | nil =>
    cases h
    rfl
  | cons t ts ih =>
    obtain ⟨next, hnext, h⟩ := depthAfter_cons h
    rw [outerCommas] at hno
    split at hno
    · cases hno
    · next hcomma =>
        have hpass : ¬ (t.kind = .comma ∧ (depth + k : Int) = 0) :=
          fun hk => hcomma ⟨hk.1, by omega⟩
        rw [List.cons_append, cutFrom, if_neg hpass, Int.add_right_comm, ← hnext,
          ih h (hnext ▸ hno)]
        rfl

theorem uncut_of_balanced (h : Balanced .leftParen .rightParen ts) (hno : outerCommas 0 ts = []) :
    Uncut 0 ts := by
  intro depth rest _
  simpa using cutFrom_of_depthAfter h hno depth rest

end

theorem spans_joined {pieces : List (List Token)} {commas : List Token}
    (hlen : pieces.length = commas.length + 1) (hcommas : ∀ c ∈ commas, c.kind = .comma)
    (hpieces : ∀ piece ∈ pieces, Uncut 0 piece) : spans (joined pieces commas) = pieces := by
  induction commas generalizing pieces with
  | nil =>
    obtain ⟨piece, rfl⟩ := List.length_eq_one_iff.1 hlen
    simpa [joined] using spans_self (hpieces piece (by simp))
  | cons comma commas ih =>
    cases pieces with
    | nil => cases hlen
    | cons piece pieces =>
      rw [List.forall_mem_cons] at hcommas hpieces
      rw [joined, spans_append_comma hpieces.1 hcommas.1,
        ih (Nat.succ.inj hlen) hcommas.2 hpieces.2]

end Bracket

open Bracket

/-- Each argument between commas has one value. -/
theorem length_of_arguments {call : Caller} {site : Site} {name : Token} {st st' : State}
    {args : List Value} (h : arguments call site name ts st = .ok args st') :
    args.length = (outerCommas 0 ts).length + 1 := by
  induction ts using cut_induction generalizing st args with
  | last ts hcut hno =>
    rw [arguments_eq, hcut] at h
    cases ts with
    | nil => cases h
    | cons t ts =>
      obtain ⟨v, mid, -, h⟩ := Eval.bind_eq_ok.1 h
      cases h
      rw [hno, List.length_singleton, List.length_nil]
  | more span comma rest _ hcut hcommas ih =>
    rw [arguments_eq, hcut] at h
    cases span with
    | nil => cases h
    | cons t span =>
      obtain ⟨v, mid, -, h⟩ := Eval.bind_eq_ok.1 h
      obtain ⟨vs, mid', hvs, h⟩ := Eval.bind_eq_ok.1 h
      cases h
      rw [hcommas, List.length_cons, ih hvs, List.length_cons]

/-- **Cutting into arguments and joining with commas undo each other.** The arguments of tokens, of
which there are some, are joined to these tokens by the commas outside parentheses, whether or not
the parentheses are balanced, and there is one argument more than such commas. It is this number
that the check of a call compares with the number of parameters. Balanced pieces without such
commas, joined by any commas, are the arguments of what they are joined to. -/
theorem splitArguments_inverts_joining :
    (∀ ts, ts ≠ [] → joined (splitArguments ts) (outerCommas 0 ts) = ts ∧
      (splitArguments ts).length = (outerCommas 0 ts).length + 1 ∧
      ∀ call site name st args st', arguments call site name ts st = .ok args st' →
        ∀ fn : Function, fn.checkArity args =
          if (outerCommas 0 ts).length + 1 = fn.params.length then .ok ()
          else .error (.arity fn.name fn.params.length ((outerCommas 0 ts).length + 1))) ∧
    ∀ pieces commas, pieces ≠ [[]] → pieces.length = commas.length + 1 →
      (∀ c ∈ commas, c.kind = .comma) →
      (∀ piece ∈ pieces, Balanced .leftParen .rightParen piece ∧ outerCommas 0 piece = []) →
      splitArguments (joined pieces commas) = pieces := by
  constructor
  · intro ts hne
    rw [splitArguments, if_neg hne]
    refine ⟨joined_spans ts, length_spans ts, fun call site name st args st' h fn => ?_⟩
    rw [Function.checkArity, length_of_arguments h]
  · intro pieces commas hne hlen hcommas hpieces
    have hspans := spans_joined hlen hcommas fun piece hp =>
      uncut_of_balanced (hpieces piece hp).1 (hpieces piece hp).2
    -- Nothing is one empty piece, so that no other pieces are joined to nothing.
    rw [splitArguments, if_neg, hspans]
    intro hnil
    rw [hnil, spans_self fun _ _ _ => rfl] at hspans
    exact hne hspans.symm

/-- An argument with a comma in its parentheses, an empty one, and a number; and two arguments
that have values. -/
theorem splitArguments_inverts_joining_call :
    let ts := Lexer.tokenize (utf8 "f(1, 2),, 3")
    let us := Lexer.tokenize (utf8 "(1), -(2)")
    splitArguments ts = [ts.take 6, [], ts.drop 8] ∧
      joined (splitArguments ts) (outerCommas 0 ts) = ts ∧
      ∃ args st', arguments (callAt 0) ⟨0, 0⟩ ⟨.ident, utf8 "f", 0⟩ us {} = .ok args st' ∧
        ∀ fn : Function, fn.params.length = 2 → fn.checkArity args = .ok () := by
  intro ts us
  have hne : ts ≠ [] ∧ us ≠ [] := by decide +kernel
  have hts : joined [ts.take 6, [], ts.drop 8] ((ts.drop 6).take 2) = ts := by decide +kernel
  have hsplit := splitArguments_inverts_joining.2 [ts.take 6, [], ts.drop 8] ((ts.drop 6).take 2)
    (by simp) (by decide +kernel) (by decide +kernel) (by decide +kernel)
  rw [hts] at hsplit
  have hrun : (result? (arguments (callAt 0) ⟨0, 0⟩ ⟨.ident, utf8 "f", 0⟩ us {})).isSome := by
    decide +kernel
  obtain ⟨args, st', hargs⟩ := exists_of_result? hrun
  refine ⟨hsplit, (splitArguments_inverts_joining.1 ts hne.1).1, args, st', hargs, ?_⟩
  intro fn hfn
  have hcommas : (outerCommas 0 us).length + 1 = 2 := by decide +kernel
  rw [(splitArguments_inverts_joining.1 us hne.2).2.2 _ _ _ _ _ _ hargs fn, hfn, hcommas]
  rfl

end Quartz
