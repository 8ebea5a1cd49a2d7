import Quartz.Text.Bytes

/-!
# `Quartz.Scope.Bindings`: names bound to things

A table of bindings keeps each name once, in the order in which the names
first came. `get?` after `set` is the law of the table.
-/

set_option autoImplicit false

namespace Quartz

/-- Names bound to things of one type. -/
structure Bindings (α : Type) where
  entries : List (Bytes × α)

namespace Bindings

variable {α : Type}

/-- No bindings. -/
def empty : Bindings α := ⟨[]⟩

/-- The entry of a name in a list of entries. -/
def find? (name : Bytes) : List (Bytes × α) → Option α
  | [] => none
  | (n, a) :: rest => if n = name then some a else find? name rest

/-- A list of entries with a name bound anew, in its old place if it had
one. -/
def put (name : Bytes) (a : α) : List (Bytes × α) → List (Bytes × α)
  | [] => [(name, a)]
  | (n, b) :: rest => if n = name then (name, a) :: rest else (n, b) :: put name a rest

/-- What a name is bound to. -/
def get? (b : Bindings α) (name : Bytes) : Option α := find? name b.entries

/-- Binds a name, replacing what it was bound to. -/
def set (b : Bindings α) (name : Bytes) (a : α) : Bindings α := ⟨put name a b.entries⟩

/-- The table with every binding taken out. -/
def clear (b : Bindings α) : Bindings α := { b with entries := [] }

/-- Whether a name is bound. -/
def contains (b : Bindings α) (name : Bytes) : Bool := (b.get? name).isSome

/-- The bound names, in the order in which they came. -/
def names (b : Bindings α) : List Bytes := b.entries.map Prod.fst

/-- What the names are bound to, in the same order. -/
def values (b : Bindings α) : List α := b.entries.map Prod.snd

/-- How many names are bound. -/
def size (b : Bindings α) : Nat := b.entries.length

/-- The bindings in ascending byte order of their names. -/
def sorted (b : Bindings α) : List (Bytes × α) :=
  (Bytes.sort b.names).filterMap fun n => (b.get? n).map fun a => (n, a)

@[simp]
theorem get?_empty (name : Bytes) : (empty : Bindings α).get? name = none := rfl

theorem find?_put (name m : Bytes) (a : α) (l : List (Bytes × α)) :
    find? m (put name a l) = if m = name then some a else find? m l := by
  induction l with
  | nil => simp [put, find?, eq_comm]
  | cons e rest ih =>
      obtain ⟨n, b⟩ := e
      by_cases hn : n = name
      · subst hn
        by_cases hm : m = n <;> simp [put, find?, hm, eq_comm]
      · by_cases hm : n = m
        · subst hm
          simp [put, find?, hn]
        · simp [put, find?, hn, hm, ih]

/-- Looking up after binding: the bound name has the new thing, every
other name is as before. -/
@[simp]
theorem get?_set (b : Bindings α) (name m : Bytes) (a : α) :
    (b.set name a).get? m = if m = name then some a else b.get? m :=
  find?_put name m a b.entries

end Bindings

end Quartz
