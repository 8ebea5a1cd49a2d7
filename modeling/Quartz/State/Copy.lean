import Quartz.State

/-!
# `Quartz.State.Copy`: independent copies of instances

Copying an instance copies everything that is reachable from it through
members that hold instances, so that references among the copies, cycles
included, point at copies. Other member values are taken over as they are,
and member functions are rebound to the copy's scope.

`clone` does this in one recursion that remembers which instances have a
copy already. `copy` has two phases. `tour` walks the members depth first
and lists what it meets, without changing anything. Then the copies are laid
out in one go: the instance that the tour entered as number `i` becomes the
instance with the id `lastId + 1 + i` in the scope at `scopes.size + i`.
Since this map is known before any copy is made, a cycle needs no second
pass. Both give the same copy (`clone_eq_copy`).
-/

set_option autoImplicit false

namespace Quartz

namespace State

/-- The members of an instance in the order in which the copy with an id
takes them over. -/
def membersFor (st : State) (id : Nat) (c : Instance) : List (Bytes × Value) :=
  (st.order id).arrange (st.members c).vars.entries

/-- A member function as a copy holds it. -/
def rebound (st : State) (copy : Instance) (f : FunctionId) : Function :=
  { st.function f with owner := copy.id, home := some copy.scope }

/-! ### One recursion -/

/-- A state in which some copies were begun, with the instances that they
are copies of. -/
structure Cloning where
  st : State
  seen : List (Instance × Instance)

namespace Cloning

/-- The copy that an instance has already. -/
def copyOf? (k : Cloning) (c : Instance) : Option Instance :=
  (k.seen.find? fun p => p.1.id = c.id).map Prod.snd

/-- Begins a copy: it has an id and a scope, and no members yet. -/
def begin (k : Cloning) (c : Instance) : Instance × Cloning :=
  let (id, st) := k.st.nextId
  let source := st.scope c.scope
  let (s, st) := st.newScope source.outer (some source.limit)
  let copy : Instance := { c with id, scope := s, table := s }
  (copy, ⟨st, k.seen ++ [(c, copy)]⟩)

/-- Declares a member of a copy. -/
def declare (k : Cloning) (copy : Instance) (name : Bytes) (v : Value) : Cloning :=
  { k with st := k.st.declare ⟨copy.scope, 0⟩ name v }

/-- Rebinds a member function to a copy. -/
def rebind (k : Cloning) (copy : Instance) (e : Bytes × FunctionId) : Cloning :=
  let (f, st) := k.st.addFunction (k.st.rebound copy e.2)
  { k with st := st.modifyFrame ⟨copy.table, 0⟩ fun fr => fr.define e.1 f }

/-- Reports that a copy is complete. -/
def finish (k : Cloning) (c copy : Instance) : Cloning :=
  { k with st := k.st.report (.classCloned c.name c.id copy.id) }

/-- Copies an instance, unless it has a copy already. The steps bound how
deep the recursion goes. -/
def clone : Nat → Instance → Cloning → Instance × Cloning
  | 0, c, k => (c, k)
  | steps + 1, c, k =>
    match k.copyOf? c with
    | some copy => (copy, k)
    | none =>
      let (copy, k) := k.begin c
      let k := (k.st.membersFor copy.id c).foldl
        (fun k e => match e.2 with
          | .object d =>
            let (member, k) := clone steps d k
            k.declare copy e.1 (.object member)
          | v => k.declare copy e.1 v) k
      let k := (k.st.functionsOf c).entries.foldl (·.rebind copy) k
      (copy, k.finish c copy)

end Cloning

/-- Copies an instance and all that is reachable from it, remembering what
has a copy already. Instances on one path have scopes of their own, so the
number of scopes is deep enough. -/
def clone (st : State) (c : Instance) : Instance × State :=
  let (copy, k) := Cloning.clone (st.scopes.size + 1) c ⟨st, []⟩
  (copy, k.st)

/-! ### Two phases -/

/-- A walk through instances: those met so far in the order in which they
were entered, and those already left in the order of leaving. -/
structure Tour where
  entered : List Instance
  left : List Instance

namespace Tour

/-- Whether an instance was met. -/
def met (t : Tour) (c : Instance) : Bool := t.entered.any fun d => d.id = c.id

end Tour

/-- Walks on from an instance into the instances that its members hold.
The steps bound how deep the walk goes. -/
def tour (st : State) : Nat → Instance → Tour → Tour
  | 0, _, t => t
  | steps + 1, c, t =>
    if t.met c then t
    else
      let t := (st.membersFor (st.lastId + 1 + t.entered.length) c).foldl
        (fun t e => match e.2 with
          | .object d => st.tour steps d t
          | _ => t)
        { t with entered := t.entered ++ [c] }
      { t with left := t.left ++ [c] }

/-- The walk from an instance over all that is reachable from it. -/
def tourFrom (st : State) (c : Instance) : Tour := st.tour (st.scopes.size + 1) c ⟨[], []⟩

/-- Where an instance stands in a list. -/
def rank (c : Instance) (l : List Instance) : Nat := l.findIdx fun d => d.id = c.id

/-- The copy of an instance, given the instances that are copied with it. -/
def twin (st : State) (l : List Instance) (c : Instance) : Instance :=
  { c with
    id := st.lastId + 1 + rank c l
    scope := st.scopes.size + rank c l
    table := st.scopes.size + rank c l }

/-- A value as the copies hold it. -/
def twinValue (st : State) (l : List Instance) : Value → Value
  | .object c => .object (st.twin l c)
  | v => v

/-- The functions of a copy. -/
def twinFunctions (st : State) (l : List Instance) (c : Instance) : List Function :=
  (st.functionsOf c).entries.map fun e => st.rebound (st.twin l c) e.2

/-- The scope of a copy whose functions stand from a place on. -/
def twinScope (st : State) (l : List Instance) (first : Nat) (c : Instance) : Scope :=
  let source := st.scope c.scope
  let root : Frame :=
    { vars := ⟨(st.membersFor (st.twin l c).id c).map fun e => (e.1, st.twinValue l e.2)⟩
      funcs := ⟨(st.functionsOf c).entries.mapIdx fun i e => (e.1, first + i)⟩
      parent := -1 }
  { Scope.fresh source.outer source.limit with slots := #[root] }

/-- Where the functions of a copy stand: behind those of the instances that
were left before. -/
def firstFunction (st : State) (t : Tour) (c : Instance) : Nat :=
  let before := t.left.takeWhile fun d => d.id ≠ c.id
  st.functions.size + (before.flatMap (st.twinFunctions t.entered)).length

/-- Lays out the copies of the instances that a walk has met. -/
def layOut (st : State) (t : Tour) : State :=
  let scopes := t.entered.map fun d => st.twinScope t.entered (st.firstFunction t d) d
  let functions := t.left.flatMap (st.twinFunctions t.entered)
  { st with
    scopes := st.scopes ++ scopes.toArray
    functions := st.functions ++ functions.toArray
    lastId := st.lastId + t.entered.length }

/-- Copies an instance and all that is reachable from it. -/
def copy (st : State) (c : Instance) : Instance × State :=
  let t := st.tourFrom c
  let reported := t.left.foldl
    (fun s d => s.report (.classCloned d.name d.id (st.twin t.entered d).id)) (st.layOut t)
  (st.twin t.entered c, reported)

end State

end Quartz
