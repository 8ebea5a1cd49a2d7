import Quartz.Fault
import Quartz.Scope.Bindings
import Quartz.Value.Basic

/-!
# `Quartz.Scope.Basic`: frames and scopes

A scope is a stack of frames. The frame at index zero, the root, holds the
globals of a program or the members of an instance and is never released;
each call pushes a frame above it. A frame names the frame in which a
search for a name goes on, and a search that fails in a whole scope goes on
in the root of the outer scope.

The frames are slots of an arena. Releasing frames only lowers the number
of live slots, and pushing a frame clears the next slot and takes it over,
so no binding of a released frame comes back. Only slots that have held a
frame are kept.
-/

set_option autoImplicit false

namespace Quartz

/-- One table of variables and one of functions, and the index of the
frame in which a search goes on; a negative index ends it. -/
structure Frame where
  vars : Bindings Value
  funcs : Bindings FunctionId
  parent : Int

namespace Frame

/-- A frame without bindings. -/
def fresh (parent : Int) : Frame := ⟨.empty, .empty, parent⟩

instance : Inhabited Frame := ⟨fresh (-1)⟩

/-- A frame that was used before, cleared and taken over. -/
def recycle (f : Frame) (parent : Int) : Frame := ⟨f.vars.clear, f.funcs.clear, parent⟩

/-- No binding comes back. -/
theorem recycle_eq (f : Frame) (parent : Int) : f.recycle parent = fresh parent := rfl

/-- The frame with a variable bound. -/
def declare (f : Frame) (name : Bytes) (v : Value) : Frame :=
  { f with vars := f.vars.set name v }

/-- The frame with a function registered. -/
def define (f : Frame) (name : Bytes) (id : FunctionId) : Frame :=
  { f with funcs := f.funcs.set name id }

end Frame

/-- A stack of frames: the first `live` slots. At most `limit` frames may
be live at once. -/
structure Scope where
  slots : Array Frame
  live : Nat
  outer : Option ScopeId
  limit : Nat

namespace Scope

/-- The number of frames that a scope may hold unless told otherwise. -/
def defaultLimit : Nat := 1000

/-- A scope with its root frame only. -/
def fresh (outer : Option ScopeId) (limit : Nat) : Scope := ⟨#[.fresh (-1)], 1, outer, limit⟩

instance : Inhabited Scope := ⟨fresh none defaultLimit⟩

/-- The number of live frames, the root included. -/
def depth (s : Scope) : Nat := s.live

/-- The frame in a slot. -/
def frame (s : Scope) (i : Nat) : Frame := s.slots.getD i default

/-- The root frame. -/
def root (s : Scope) : Frame := s.frame 0

/-- A frame by an index that may lie outside the live frames. -/
def live? (s : Scope) (i : Int) : Option Frame :=
  if 0 ≤ i ∧ i < s.live then some (s.frame i.toNat) else none

/-- Whether no further frame fits. -/
def full (s : Scope) : Bool := s.limit ≤ s.live

/-- The scope with one more frame, in the next slot. A slot that was used
before is recycled, and one that never was gets a new frame. -/
def pushed (s : Scope) (parent : Int) : Scope :=
  { s with
    slots := if s.live < s.slots.size then s.slots.modify s.live (·.recycle parent)
      else s.slots.push (.fresh parent)
    live := s.live + 1 }

/-- Whether releasing from an index frees a frame: the root stays, and
what is not live cannot be freed. -/
def releasable (s : Scope) (i : Int) : Bool := 0 < i && i < s.live

/-- Frees the frame at an index and every frame above it. -/
def release (s : Scope) (i : Int) : Scope :=
  if s.releasable i then { s with live := i.toNat } else s

/-- Changes the frame in a slot. -/
def modify (s : Scope) (i : Nat) (f : Frame → Frame) : Scope :=
  { s with slots := s.slots.modify i f }

/-- The first frame with a property, from an index along the parents. The
steps bound the walk: parents of pushed frames lie below them, so as many
steps as there are live frames reach the end of every walk. -/
def seek (s : Scope) (has : Frame → Bool) : Nat → Int → Option Nat
  | 0, _ => none
  | steps + 1, i =>
    match s.live? i with
    | none => none
    | some f => if has f then some i.toNat else s.seek has steps f.parent

end Scope

end Quartz
