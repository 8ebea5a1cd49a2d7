import Quartz.Proofs.State.Tidy

/-!
# `Quartz.Proofs.State.Clone`: the recursion makes the copy that the two phases lay out

`clone` makes copies while it walks, and `copy` walks first. The walks are the same, so the
recursion is compared with a walk `t` that is on its way to the whole walk. `Follows` says
what holds in between: the memo lists what was entered, so many scopes, ids and functions
were added, and nothing from before has changed. From there on the recursion adds what
`extend` adds, the copies of what the walk enters next (`Clones`).

A scope is complete only when its instance is left, and by then other scopes stand behind
it. Binding in a scope and adding scopes behind it commute (`modifyFrame_extend`), so each
scope can be seen as complete from the start.
-/

set_option autoImplicit false

namespace Quartz

/-! ### Filling tables -/

namespace Bindings

variable {α : Type}

/-- A new name comes last. -/
theorem put_of_notMem {name : Bytes} {a : α} {l : List (Bytes × α)}
    (h : name ∉ l.map Prod.fst) : put name a l = l ++ [(name, a)] := by
  induction l with
  | nil => rfl
  | cons e l ih =>
    simp only [List.map_cons, List.mem_cons, not_or] at h
    rw [put, if_neg (Ne.symm h.1), ih h.2, List.cons_append]

/-- Bindings with names of their own are kept in the order in which they are made. -/
theorem foldl_set {b : Bindings α} {es : List (Bytes × α)}
    (h : ((b.entries ++ es).map Prod.fst).Nodup) :
    es.foldl (fun b e => b.set e.1 e.2) b = ⟨b.entries ++ es⟩ := by
  induction es generalizing b with
  | nil => simp
  | cons e es ih =>
    have hnew : e.1 ∉ b.entries.map Prod.fst := by
      rw [List.map_append, List.nodup_append] at h
      exact fun hmem => h.2.2 e.1 hmem e.1 List.mem_cons_self rfl
    have hset : b.set e.1 e.2 = ⟨b.entries ++ [e]⟩ := by rw [set, put_of_notMem hnew]
    rw [List.foldl_cons, hset, ih (by simpa using h)]
    simp

end Bindings

namespace Frame

/-- The frame with variables bound, one after the other. -/
def declareAll (f : Frame) (es : List (Bytes × Value)) : Frame :=
  es.foldl (fun f e => f.declare e.1 e.2) f

/-- The frame with functions registered, one after the other. -/
def defineAll (f : Frame) (es : List (Bytes × FunctionId)) : Frame :=
  es.foldl (fun f e => f.define e.1 e.2) f

theorem declareAll_eq (f : Frame) (es : List (Bytes × Value)) :
    f.declareAll es = { f with vars := es.foldl (fun b e => b.set e.1 e.2) f.vars } := by
  induction es generalizing f with
  | nil => rfl
  | cons e es ih => exact ih (f.declare e.1 e.2)

theorem defineAll_eq (f : Frame) (es : List (Bytes × FunctionId)) :
    f.defineAll es = { f with funcs := es.foldl (fun b e => b.set e.1 e.2) f.funcs } := by
  induction es generalizing f with
  | nil => rfl
  | cons e es ih => exact ih (f.define e.1 e.2)

/-- Binding all that a keyed frame holds gives the frame. -/
theorem Keyed.refill {f : Frame} (h : f.Keyed) :
    ((fresh f.parent).declareAll f.vars.entries).defineAll f.funcs.entries = f := by
  have hvars : f.vars.entries.foldl (fun b e => b.set e.1 e.2) .empty = f.vars :=
    Bindings.foldl_set h.vars
  have hfuncs : f.funcs.entries.foldl (fun b e => b.set e.1 e.2) .empty = f.funcs :=
    Bindings.foldl_set h.funcs
  rw [declareAll_eq, defineAll_eq]
  simp only [fresh, hvars, hfuncs]

end Frame

namespace State

/-! ### Adding behind a scope -/

theorem modifyFrame_same (st : State) (site : Site) : st.modifyFrame site (fun fr => fr) = st := by
  have hscope : (fun s : Scope => s.modify site.frame fun fr => fr) = id := by
    funext s
    have hslots : s.slots.modify site.frame id = s.slots :=
      Array.ext' (by rw [Array.toList_modify, List.modify_id])
    exact congrArg (fun slots => { s with slots }) hslots
  have hscopes : st.scopes.modify site.scope id = st.scopes :=
    Array.ext' (by rw [Array.toList_modify, List.modify_id])
  rw [modifyFrame, modifyScope, hscope, hscopes]

theorem modifyFrame_modifyFrame (st : State) (site : Site) (f g : Frame → Frame) :
    (st.modifyFrame site f).modifyFrame site g = st.modifyFrame site fun fr => g (f fr) := by
  have hscope : (fun s : Scope => s.modify site.frame g) ∘
      (fun s : Scope => s.modify site.frame f) =
        fun s : Scope => s.modify site.frame fun fr => g (f fr) := by
    funext s
    have hslots : (s.slots.modify site.frame f).modify site.frame g =
        s.slots.modify site.frame (g ∘ f) :=
      Array.ext' (by simp only [Array.toList_modify, List.modify_modify_eq])
    exact congrArg (fun slots => { s with slots }) hslots
  have hscopes : ∀ F G : Scope → Scope, (st.scopes.modify site.scope F).modify site.scope G =
      st.scopes.modify site.scope (G ∘ F) := fun F G =>
    Array.ext' (by simp only [Array.toList_modify, List.modify_modify_eq])
  simp only [modifyFrame, modifyScope, hscopes, hscope]

/-- A state with one more scope, of which only the root frame is in use. -/
def withRoot (st : State) (source : Scope) (root : Frame) : State :=
  (st.addScope { Scope.fresh source.outer source.limit with slots := #[root] }).2

theorem newScope_eq_withRoot (st : State) {source : Scope} (h : 0 < source.limit) :
    st.newScope source.outer (some source.limit) =
      (st.scopes.size, st.withRoot source (.fresh (-1))) := by
  have hpos : (0 : Int) < source.limit := by omega
  simp only [newScope, if_pos hpos]
  rfl

theorem modifyFrame_withRoot (st : State) (source : Scope) (root : Frame) (f : Frame → Frame) :
    (st.withRoot source root).modifyFrame ⟨st.scopes.size, 0⟩ f = st.withRoot source (f root) := by
  have hslots : #[root].modify 0 f = #[f root] :=
    Array.ext' (by rw [Array.toList_modify, List.modify_cons, if_pos rfl])
  have hpush : ∀ (sc : Scope) (F : Scope → Scope),
      (st.scopes.push sc).modify st.scopes.size F = st.scopes.push (F sc) := by
    intro sc F
    apply Array.ext_getElem?
    intro i
    rw [Array.getElem?_modify, Array.getElem?_push, Array.getElem?_push]
    grind
  simp only [withRoot, addScope, modifyFrame, modifyScope, Scope.modify, hpush, hslots]

theorem foldl_declare_withRoot (st : State) (source : Scope) (root : Frame)
    (es : List (Bytes × Value)) :
    es.foldl (fun s e => s.declare ⟨st.scopes.size, 0⟩ e.1 e.2) (st.withRoot source root) =
      st.withRoot source (root.declareAll es) := by
  induction es generalizing root with
  | nil => rfl
  | cons e es ih =>
    have hdeclare : (st.withRoot source root).declare ⟨st.scopes.size, 0⟩ e.1 e.2 =
        st.withRoot source (root.declare e.1 e.2) := st.modifyFrame_withRoot source root _
    rw [List.foldl_cons, hdeclare, ih]
    rfl

/-- A state with more copies. The entered instances have got scopes, and those that were
left have got their functions and were reported. The whole walk decides what goes where. -/
def extend (before : State) (whole : Tour) (new gone : List Instance) (st : State) : State :=
  let scopes := new.map fun d =>
    before.twinScope whole.entered (before.firstFunction whole d) d
  let functions := gone.flatMap (before.twinFunctions whole.entered)
  let report (j : Log.Journal) (d : Instance) :=
    j.report (.classCloned d.name d.id (before.twin whole.entered d).id)
  { st with
    scopes := st.scopes ++ scopes.toArray
    functions := st.functions ++ functions.toArray
    lastId := st.lastId + new.length
    journal := gone.foldl report st.journal }

/-- The frame with the members and functions of a copy. -/
def twinRoot (before : State) (whole : Tour) (c : Instance) : Frame :=
  (before.twinScope whole.entered (before.firstFunction whole c) c).root

/-- A copy is all that the whole walk adds. -/
theorem copy_eq_extend (st : State) (c : Instance) :
    (st.copy c).2 =
      st.extend (st.tourFrom c) (st.tourFrom c).entered (st.tourFrom c).left st :=
  foldl_report _ _ _

section

variable {before : State} {whole : Tour} (new gone : List Instance) (st : State)

theorem extend_nil : before.extend whole [] [] st = st := by
  simp [extend]

theorem extend_extend (new' gone' : List Instance) :
    before.extend whole new' gone' (before.extend whole new gone st) =
      before.extend whole (new ++ new') (gone ++ gone') st := by
  simp [extend, Nat.add_assoc]

/-- The copy of an instance is begun before those of the instances that its members hold, and
completed after them. -/
theorem report_extend (c : Instance) :
    let held := before.extend whole new gone
      (st.nextId.2.withRoot (before.scope c.scope) (before.twinRoot whole c))
    ({ held with functions := held.functions ++ (before.twinFunctions whole.entered c).toArray }
        ).report (.classCloned c.name c.id (before.twin whole.entered c).id) =
      before.extend whole (c :: new) (gone ++ [c]) st := by
  have hid : st.lastId + 1 + new.length = st.lastId + (c :: new).length := by
    rw [List.length_cons]
    omega
  have hscopes : ∀ (sc : Scope) (more : List Scope),
      st.scopes.push sc ++ more.toArray = st.scopes ++ (sc :: more).toArray := by simp
  have hfunctions : ∀ fs fs' : List Function,
      st.functions ++ fs.toArray ++ fs'.toArray = st.functions ++ (fs ++ fs').toArray := by simp
  simp only [report, extend, withRoot, addScope, nextId, hid, hscopes, hfunctions,
    List.foldl_append, List.flatMap_append, List.map_cons, List.flatMap_singleton]
  rfl

theorem modifyFrame_extend {site : Site} (hsite : site.scope < st.scopes.size)
    (f : Frame → Frame) :
    (before.extend whole new gone st).modifyFrame site f =
      before.extend whole new gone (st.modifyFrame site f) := by
  have hmodify : ∀ (more : Array Scope) (F : Scope → Scope),
      (st.scopes ++ more).modify site.scope F = st.scopes.modify site.scope F ++ more := by
    intro more F
    apply Array.ext_getElem?
    intro i
    rw [Array.getElem?_modify, Array.getElem?_append, Array.getElem?_append, Array.getElem?_modify,
      Array.size_modify]
    grind
  simp only [modifyFrame, modifyScope, extend, hmodify]

theorem foldl_declare_extend {site : Site} (hsite : site.scope < st.scopes.size)
    (es : List (Bytes × Value)) :
    es.foldl (fun s e => s.declare site e.1 e.2) (before.extend whole new gone st) =
      before.extend whole new gone (es.foldl (fun s e => s.declare site e.1 e.2) st) := by
  induction es generalizing st with
  | nil => rfl
  | cons e es ih =>
    have hdeclare : (before.extend whole new gone st).declare site e.1 e.2 =
        before.extend whole new gone (st.declare site e.1 e.2) :=
      modifyFrame_extend new gone st hsite _
    rw [List.foldl_cons, List.foldl_cons, hdeclare, ih]
    exact (st.size_modifyScope _ _).symm ▸ hsite

end

/-! ### Between two steps -/

/-- The entered instances with their copies. -/
def memo (before : State) (whole t : Tour) : List (Instance × Instance) :=
  t.entered.map fun d => (d, before.twin whole.entered d)

/-- The recursion has come as far as a walk. -/
structure Follows (before : State) (whole t : Tour) (m : Cloning) : Prop where
  seen : m.seen = before.memo whole t
  scopes : m.st.scopes.size = before.scopes.size + t.entered.length
  functions : m.st.functions.size =
    before.functions.size + (t.left.flatMap (before.twinFunctions whole.entered)).length
  lastId : m.st.lastId = before.lastId + t.entered.length
  order : m.st.order = before.order
  scope_old : ∀ s : Nat, s < before.scopes.size → m.st.scope s = before.scope s
  function_old : ∀ f : Nat, f < before.functions.size → m.st.function f = before.function f

namespace Follows

variable {before : State} {whole t : Tour} {m : Cloning}

theorem start (before : State) (whole : Tour) : Follows before whole ⟨[], []⟩ ⟨before, []⟩ where
  seen := rfl
  scopes := rfl
  functions := rfl
  lastId := rfl
  order := rfl
  scope_old _ _ := rfl
  function_old _ _ := rfl

variable (h : Follows before whole t m)
include h

theorem modifyFrame {site : Site} (hsite : before.scopes.size ≤ site.scope) (f : Frame → Frame) :
    Follows before whole t { m with st := m.st.modifyFrame site f } where
  seen := h.seen
  scopes := (m.st.size_modifyScope _ _).trans h.scopes
  functions := h.functions
  lastId := h.lastId
  order := h.order
  scope_old s hs := by
    have hne : s ≠ site.scope := Nat.ne_of_lt (Nat.lt_of_lt_of_le hs hsite)
    rw [State.modifyFrame, scope_modifyScope, if_neg fun hand => hne hand.1]
    exact h.scope_old s hs
  function_old := h.function_old

theorem declare {copy : Instance} (hcopy : before.scopes.size ≤ copy.scope) (name : Bytes)
    (v : Value) : Follows before whole t (m.declare copy name v) := h.modifyFrame hcopy _

theorem extend {t' : Tour} {new gone : List Instance} (hentered : t'.entered = t.entered ++ new)
    (hleft : t'.left = t.left ++ gone) :
    Follows before whole t' ⟨before.extend whole new gone m.st, before.memo whole t'⟩ where
  seen := rfl
  scopes := by
    simp only [State.extend, Array.size_append, List.size_toArray, List.length_map, h.scopes,
      hentered, List.length_append]
    omega
  functions := by
    simp only [State.extend, Array.size_append, List.size_toArray, h.functions, hleft,
      List.flatMap_append, List.length_append]
    omega
  lastId := by
    simp only [State.extend, h.lastId, hentered, List.length_append]
    omega
  order := h.order
  scope_old s hs := by
    have hlt : s < m.st.scopes.size := h.scopes ▸ Nat.lt_add_right _ hs
    exact (scope_of_append rfl hlt).trans (h.scope_old s hs)
  function_old f hf := by
    have hlt : f < m.st.functions.size := h.functions ▸ Nat.lt_add_right _ hf
    exact (function_of_append rfl hlt).trans (h.function_old f hf)

theorem copyOf? (c : Instance) :
    m.copyOf? c =
      (t.entered.find? fun d => d.id = c.id).map (before.twin whole.entered) := by
  rw [Cloning.copyOf?, h.seen, memo, List.find?_map, Option.map_map]
  rfl

theorem copyOf?_of_entered {l : List Instance} (hl : before.Closed l) (ht : t.Within l)
    {c : Instance} (hc : c ∈ t.entered) :
    m.copyOf? c = some (before.twin whole.entered c) := by
  obtain ⟨d, hfind⟩ : ∃ d, t.entered.find? (fun d => d.id = c.id) = some d :=
    Option.isSome_iff_exists.1 (List.find?_isSome.2 ⟨c, hc, by simp⟩)
  have hid : d.id = c.id := by simpa using List.find?_some hfind
  have hd := ht.subset (List.mem_of_find?_eq_some hfind)
  rw [h.copyOf?, hfind, Option.map_some, hl.ids d hd c (ht.subset hc) hid]

theorem copyOf?_of_not_met {c : Instance} (hc : ¬t.met c = true) : m.copyOf? c = none := by
  have hfind : t.entered.find? (fun d => d.id = c.id) = none := by
    simpa [Tour.met] using hc
  rw [h.copyOf?, hfind, Option.map_none]

/-- Members and functions of what was there before are read as they were. -/
theorem membersFor {c : Instance} (hc : c.scope < before.scopes.size) (id : Nat) :
    m.st.membersFor id c = before.membersFor id c := by
  rw [State.membersFor, State.membersFor, members, members, h.scope_old _ hc, h.order]

theorem functionsOf {c : Instance} (hc : c.table < before.scopes.size) :
    m.st.functionsOf c = before.functionsOf c := by
  rw [State.functionsOf, State.functionsOf, h.scope_old _ hc]

/-- A copy is begun: it has the place that the whole walk foretells, and an empty scope. -/
theorem begin {c : Instance} (hc : c.scope < before.scopes.size)
    (hlimit : 0 < (before.scope c.scope).limit) (hrank : rank c whole.entered = t.entered.length) :
    m.begin c = (before.twin whole.entered c,
      ⟨m.st.nextId.2.withRoot (before.scope c.scope) (.fresh (-1)),
        before.memo whole { t with entered := t.entered ++ [c] }⟩) := by
  have hscope : m.st.nextId.2.scope c.scope = before.scope c.scope := h.scope_old _ hc
  have hid : m.st.lastId + 1 = before.lastId + 1 + t.entered.length := by
    rw [h.lastId]
    omega
  have htwin : before.twin whole.entered c =
      { c with id := m.st.lastId + 1, scope := m.st.scopes.size, table := m.st.scopes.size } := by
    rw [twin, hrank, hid, h.scopes]
  have hmemo : before.memo whole { t with entered := t.entered ++ [c] } =
      m.seen ++ [(c, before.twin whole.entered c)] := by
    rw [h.seen, memo, memo, List.map_append, List.map_singleton]
  rw [hmemo, htwin]
  simp only [nextId] at hscope ⊢
  simp only [Cloning.begin, nextId, hscope, newScope_eq_withRoot _ hlimit]

theorem withRoot (c : Instance) (source : Scope) (root : Frame) :
    Follows before whole { t with entered := t.entered ++ [c] }
      ⟨m.st.nextId.2.withRoot source root,
        before.memo whole { t with entered := t.entered ++ [c] }⟩ where
  seen := rfl
  scopes := by
    simp only [State.withRoot, addScope, nextId, Array.size_push, h.scopes, List.length_append,
      List.length_singleton]
    omega
  functions := h.functions
  lastId := by
    simp only [State.withRoot, addScope, nextId, h.lastId, List.length_append,
      List.length_singleton]
    omega
  order := h.order
  scope_old s hs := by
    have hne : s ≠ m.st.nextId.2.scopes.size := by
      rw [nextId, h.scopes]
      omega
    rw [State.withRoot, scope_addScope, if_neg hne]
    exact h.scope_old s hs
  function_old := h.function_old

end Follows

/-! ### One copy after the other -/

namespace Tour

/-- A walk on its way to a whole one. -/
structure UpTo (t whole : Tour) : Prop where
  entered : t.entered <+: whole.entered
  left : t.left <+: whole.left

theorem UpTo.of_grows {whole t t' : Tour} (h : t'.UpTo whole) (hgrows : t.Grows t') :
    t.UpTo whole := by
  obtain ⟨new, gone, hentered, hleft, -⟩ := hgrows
  exact ⟨(hentered ▸ List.prefix_append _ _).trans h.entered,
    (hleft ▸ List.prefix_append _ _).trans h.left⟩

end Tour

/-- The recursion ends with the copies of what a walk enters and leaves on its way from `t`
to `t'`. -/
def Makes (before : State) (whole t t' : Tour) (st : State) (m : Cloning) : Prop :=
  ∃ new gone, t'.entered = t.entered ++ new ∧ t'.left = t.left ++ gone ∧
    m = ⟨before.extend whole new gone st, before.memo whole t'⟩

namespace Cloning

/-- A copy takes over a member. -/
def take (k : Nat) (copy : Instance) (m : Cloning) (e : Bytes × Value) : Cloning :=
  match e.2 with
  | .object d =>
    let (member, m) := clone k d m
    m.declare copy e.1 (.object member)
  | v => m.declare copy e.1 v

theorem clone_of_copyOf? {k : Nat} {c copy : Instance} {m : Cloning}
    (h : m.copyOf? c = some copy) : clone (k + 1) c m = (copy, m) := by
  rw [clone, h]

theorem clone_of_begin {k : Nat} {c copy : Instance} {m begun : Cloning}
    (h : m.copyOf? c = none) (hbegin : m.begin c = (copy, begun)) :
    clone (k + 1) c m =
      let taken := (begun.st.membersFor copy.id c).foldl (take k copy) begun
      (copy, ((taken.st.functionsOf c).entries.foldl (·.rebind copy) taken).finish c copy) := by
  rw [clone, h]
  simp only [hbegin]
  rfl

/-- The functions of a copy are added one by one, and defined in the order of their names. -/
theorem foldl_rebind (copy : Instance) (fs : List (Bytes × FunctionId)) (m : Cloning)
    (hfs : ∀ e ∈ fs, e.2 < m.st.functions.size) :
    fs.foldl (·.rebind copy) m =
      { m with
        st := { m.st.modifyFrame ⟨copy.table, 0⟩ fun fr =>
            fr.defineAll (fs.mapIdx fun i e => (e.1, m.st.functions.size + i)) with
          functions := m.st.functions ++ (fs.map fun e => m.st.rebound copy e.2).toArray } } := by
  induction fs generalizing m with
  | nil => simp [Frame.defineAll, modifyFrame_same]
  | cons e fs ih =>
    -- The other functions are older than the one that was added, so they read as before.
    have hrebound : ∀ d ∈ fs, (m.rebind copy e).st.rebound copy d.2 = m.st.rebound copy d.2 := by
      intro d hd
      have hlt := hfs d (List.mem_cons_of_mem e hd)
      have hfunction : (m.rebind copy e).st.function d.2 = m.st.function d.2 :=
        (m.st.function_addFunction _ d.2).trans (if_neg (Nat.ne_of_lt hlt))
      rw [rebound, rebound, hfunction]
    have hsize : (m.rebind copy e).st.functions.size = m.st.functions.size + 1 :=
      Array.size_push _
    rw [List.foldl_cons, ih _ fun d hd => by
      rw [hsize]
      exact Nat.lt_succ_of_lt (hfs d (List.mem_cons_of_mem e hd))]
    have hnumbers : (fun (i : Nat) (d : Bytes × FunctionId) =>
        (d.1, m.st.functions.size + (i + 1))) = fun i d => (d.1, m.st.functions.size + 1 + i) := by
      funext i d
      rw [Nat.add_assoc, Nat.add_comm 1 i]
    rw [List.map_congr_left hrebound, hsize, List.mapIdx_cons, hnumbers]
    have happend : m.st.functions.push (m.st.rebound copy e.2) ++
        (fs.map fun d => m.st.rebound copy d.2).toArray =
          m.st.functions ++ ((e :: fs).map fun d => m.st.rebound copy d.2).toArray := by
      simp
    simp only [rebind, modifyFrame_modifyFrame, addFunction, ← happend]
    rfl

end Cloning

theorem Follows.makes {before : State} {whole t : Tour} {m : Cloning}
    (h : Follows before whole t m) : Makes before whole t t m.st m := by
  refine ⟨[], [], by simp, by simp, ?_⟩
  rw [extend_nil, ← h.seen]

theorem Tour.Within.distinct {st : State} {l : List Instance} {t : Tour} (ht : t.Within l)
    (hl : st.Closed l) : t.Distinct :=
  ht.nodup.map_on fun c hc d hd => hl.ids c (ht.subset hc) d (ht.subset hd)

/-- In a list with distinct ids, those before an instance have other ids. -/
theorem ids_ne_of_append {l all : List Instance} {c : Instance}
    (h : (all.map Instance.id).Nodup) (hl : l ++ [c] <+: all) : ∀ d ∈ l, d.id ≠ c.id := by
  obtain ⟨rest, rfl⟩ := hl
  rw [List.append_assoc, List.map_append, List.nodup_append] at h
  exact fun d hd hid => h.2.2 _ (List.mem_map_of_mem hd) c.id (by simp) hid

/-- An instance that is entered next has the number of those entered before. -/
theorem rank_eq_length {whole : Tour} (h : whole.Distinct) {l : List Instance} {c : Instance}
    (hl : l ++ [c] <+: whole.entered) : rank c whole.entered = l.length := by
  have hids := ids_ne_of_append h hl
  obtain ⟨rest, hrest⟩ := hl
  have hnone : l.findIdx (fun d => d.id = c.id) = l.length :=
    List.findIdx_eq_length.2 fun d hd => decide_eq_false (hids d hd)
  rw [← hrest, rank, List.append_assoc, List.findIdx_append, hnone, if_neg (Nat.lt_irrefl _)]
  simp [List.findIdx_cons]

/-- An instance that is left next has its functions behind those of the instances left
before. -/
theorem firstFunction_eq (before : State) {whole : Tour} (h : whole.Distinct)
    (hperm : whole.left.Perm whole.entered) {l : List Instance} {c : Instance}
    (hl : l ++ [c] <+: whole.left) :
    before.firstFunction whole c =
      before.functions.size + (l.flatMap (before.twinFunctions whole.entered)).length := by
  have hids := ids_ne_of_append ((hperm.map Instance.id).nodup_iff.2 h) hl
  obtain ⟨rest, hrest⟩ := hl
  have hbefore : (whole.left.takeWhile fun d => d.id ≠ c.id) = l := by
    rw [← hrest, List.append_assoc, List.takeWhile_append_of_pos (by simpa using hids)]
    simp
  rw [firstFunction, hbefore]

section

variable {before st : State} {whole t t' : Tour} {l new gone : List Instance} {c : Instance}
  {m : Cloning} {k : Nat}

/-- What the recursion with `k` steps does from an instance of the list, if the steps
suffice: it makes the copies of what the walk with `k` steps enters. -/
def Clones (before : State) (whole : Tour) (l : List Instance) (k : Nat) : Prop :=
  ∀ c ∈ l, ∀ (t : Tour) (m : Cloning), t.Within l → l.length < k + t.entered.length →
    (before.tour k c t).UpTo whole → Follows before whole t m →
      (Cloning.clone k c m).1 = before.twin whole.entered c ∧
        Makes before whole t (before.tour k c t) m.st (Cloning.clone k c m).2

/-- A copy whose scope stands at a place takes over a member. -/
theorem Clones.take (hk : Clones before whole l k) {copy : Instance}
    (hcopy : before.scopes.size ≤ copy.scope)
    (hf : Follows before whole t m) (hlt : copy.scope < m.st.scopes.size) (ht : t.Within l)
    (hlen : l.length < k + t.entered.length) (e : Bytes × Value)
    (he : ∀ d, .object d = e.2 → d ∈ l) (hup : (before.visit k t e.2).UpTo whole) :
    Makes before whole t (before.visit k t e.2)
      (m.st.declare ⟨copy.scope, 0⟩ e.1 (before.twinValue whole.entered e.2))
      (Cloning.take k copy m e) := by
  obtain ⟨name, v⟩ := e
  cases v with
  | object d =>
    obtain ⟨htwin, new, gone, hentered, hleft, hclone⟩ := hk d (he d rfl) t m ht hlen hup hf
    refine ⟨new, gone, hentered, hleft, ?_⟩
    show (Cloning.clone k d m).2.declare copy name (.object (Cloning.clone k d m).1) = _
    rw [htwin, hclone, Cloning.declare, State.declare, modifyFrame_extend _ _ _ hlt]
    rfl
  | _ => exact (hf.declare hcopy name _).makes

/-- A copy takes over its members, one after the other. -/
theorem Clones.foldl_take (hk : Clones before whole l k) (hl : before.Closed l)
    (copy : Instance) (hcopy : before.scopes.size ≤ copy.scope) (es : List (Bytes × Value))
    (hes : ∀ d, .object d ∈ es.map Prod.snd → d ∈ l)
    (hf : Follows before whole t m) (hlt : copy.scope < m.st.scopes.size) (ht : t.Within l)
    (hlen : l.length < k + t.entered.length)
    (hup : ((es.map Prod.snd).foldl (before.visit k) t).UpTo whole) :
    Makes before whole t ((es.map Prod.snd).foldl (before.visit k) t)
      ((es.map fun e => (e.1, before.twinValue whole.entered e.2)).foldl
        (fun st e => st.declare ⟨copy.scope, 0⟩ e.1 e.2) m.st)
      (es.foldl (Cloning.take k copy) m) := by
  -- On the members: each adds copies behind the scope that is being filled.
  induction es generalizing t m with
  | nil => exact hf.makes
  | cons e es ih =>
    simp only [List.map_cons, List.foldl_cons] at hup ⊢
    have hhead : ∀ d, .object d ∈ [e.2] → d ∈ l := fun d hd =>
      hes d (List.mem_singleton.1 hd ▸ List.mem_cons_self)
    obtain ⟨hwithin, honward, _⟩ := (tour_onward hl k).foldl_visit [e.2] hhead t ht hlen
    have hlen' := honward.longer.length_le
    -- The walk into the first member is on its way to the whole one as well.
    have hup' := hup.of_grows
      (foldl_visit_grows (before.tour_grows k) (es.map Prod.snd) _ (hwithin.distinct hl)).1
    obtain ⟨new, gone, hentered, hleft, htake⟩ := hk.take hcopy hf hlt ht hlen e
      (fun d hd => hhead d (List.mem_singleton.2 hd)) hup'
    have hf' : Follows before whole (before.visit k t e.2) (Cloning.take k copy m e) := by
      rw [htake]
      exact (hf.declare hcopy e.1 (before.twinValue whole.entered e.2)).extend hentered hleft
    have hsize : m.st.scopes.size ≤ (Cloning.take k copy m e).st.scopes.size := by
      rw [hf.scopes, hf'.scopes]
      exact Nat.add_le_add_left hlen' _
    obtain ⟨new', gone', hentered', hleft', htaken⟩ := ih
      (fun d hd => hes d (List.mem_cons_of_mem e.2 hd)) hf' (Nat.lt_of_lt_of_le hlt hsize) hwithin
      (Nat.lt_of_lt_of_le hlen (Nat.add_le_add_left hlen' k)) hup
    refine ⟨new ++ new', gone ++ gone', by rw [hentered', hentered, List.append_assoc],
      by rw [hleft', hleft, List.append_assoc], ?_⟩
    have hdeclared : copy.scope < (m.st.declare ⟨copy.scope, 0⟩ e.1
        (before.twinValue whole.entered e.2)).scopes.size :=
      (m.st.size_modifyScope _ _).symm ▸ hlt
    rw [htaken, htake, foldl_declare_extend _ _ _ hdeclared, extend_extend]

/-- Members and functions one after the other make the frame of a copy. -/
theorem Tidy.refill (htidy : before.Tidy) (c : Instance) :
    ((Frame.fresh (-1)).declareAll (before.twinRoot whole c).vars.entries).defineAll
        ((before.functionsOf c).entries.mapIdx fun i e =>
          (e.1, before.firstFunction whole c + i)) =
      before.twinRoot whole c :=
  ((htidy.twinScope whole.entered _ (Nat.le_refl c.scope)).keyed 0).refill

/-- A copy with all its members gets its functions. -/
theorem Follows.complete (hst : before.Sound l) (htidy : before.Tidy) (hc : c ∈ l)
    (hf : Follows before whole t m)
    (hfirst : before.firstFunction whole c = m.st.functions.size)
    (hplace : (before.twin whole.entered c).table = st.nextId.2.scopes.size)
    (hmade : m.st = before.extend whole new gone (st.nextId.2.withRoot (before.scope c.scope)
      ((Frame.fresh (-1)).declareAll (before.twinRoot whole c).vars.entries))) :
    ((m.st.functionsOf c).entries.foldl (·.rebind (before.twin whole.entered c)) m).finish c
        (before.twin whole.entered c) =
      ⟨before.extend whole (c :: new) (gone ++ [c]) st, m.seen⟩ := by
  have hscope := hst.counted.scope_lt c hc
  have hold : ∀ e ∈ (before.functionsOf c).entries, e.2 < before.functions.size :=
    hst.grounded.funcs ⟨c.table, 0⟩
  have hfs : ∀ e ∈ (before.functionsOf c).entries, e.2 < m.st.functions.size := by
    intro e he
    rw [hf.functions]
    exact Nat.lt_of_lt_of_le (hold e he) (Nat.le_add_right _ _)
  have hrebound : (before.functionsOf c).entries.map (fun e =>
      m.st.rebound (before.twin whole.entered c) e.2) =
        before.twinFunctions whole.entered c := by
    apply List.map_congr_left
    intro e he
    rw [rebound, rebound, hf.function_old _ (hold e he)]
  -- The functions go into the scope that was begun, which others stand behind by now.
  have hmodify : m.st.modifyFrame ⟨(before.twin whole.entered c).table, 0⟩ (fun fr =>
      fr.defineAll ((before.functionsOf c).entries.mapIdx fun i e =>
        (e.1, m.st.functions.size + i))) =
      before.extend whole new gone
        (st.nextId.2.withRoot (before.scope c.scope) (before.twinRoot whole c)) := by
    rw [← hfirst, hmade, hplace, modifyFrame_extend _ _ _ (by simp [State.withRoot, addScope]),
      modifyFrame_withRoot, htidy.refill]
  rw [hf.functionsOf (by rw [hst.counted.table c hc]; exact hscope),
    Cloning.foldl_rebind _ _ _ hfs, hrebound, hmodify, ← report_extend new gone st c, hmade]
  rfl

/-- A copy that has just been begun takes over its members. -/
theorem Clones.takeMembers (hk : Clones before whole l k) (hst : before.Sound l) (hc : c ∈ l)
    (ht : t.Within l) (hlen : l.length < k + 1 + t.entered.length) (hnew : c ∉ t.entered)
    (hf : Follows before whole t m) (hrank : rank c whole.entered = t.entered.length)
    (hwalk : (before.held (before.twin whole.entered c).id c).foldl (before.visit k)
      { t with entered := t.entered ++ [c] } = t')
    (hup : t'.UpTo whole) :
    ∃ new gone, t'.entered = t.entered ++ c :: new ∧ t'.left = t.left ++ gone ∧
      (before.membersFor (before.twin whole.entered c).id c).foldl
          (Cloning.take k (before.twin whole.entered c))
          ⟨m.st.nextId.2.withRoot (before.scope c.scope) (.fresh (-1)),
            before.memo whole { t with entered := t.entered ++ [c] }⟩ =
        ⟨before.extend whole new gone (m.st.nextId.2.withRoot (before.scope c.scope)
          ((Frame.fresh (-1)).declareAll (before.twinRoot whole c).vars.entries)),
            before.memo whole t'⟩ := by
  subst hwalk
  have hplace : (before.twin whole.entered c).scope = m.st.nextId.2.scopes.size := by
    rw [twin, hrank, nextId, hf.scopes]
  obtain ⟨new, gone, hentered, hleft, htaken⟩ := hk.foldl_take hst.closed
    (before.twin whole.entered c) (Nat.le_add_right _ _)
    (before.membersFor (before.twin whole.entered c).id c)
    (fun d hd => hst.closed.refers c hc d (mem_held.1 hd))
    (hf.withRoot c (before.scope c.scope) (.fresh (-1)))
    (by rw [hplace]; simp [withRoot, addScope]) (ht.enter hc hnew) (by simp; omega) hup
  rw [hplace, foldl_declare_withRoot] at htaken
  exact ⟨new, gone, hentered.trans (by simp), hleft, htaken⟩

/-- The copy of an instance that was not met before. -/
theorem Clones.enter (hk : Clones before whole l k) (hst : before.Sound l)
    (htidy : before.Tidy) (hwhole : whole.Distinct) (hperm : whole.left.Perm whole.entered)
    (hc : c ∈ l) (ht : t.Within l) (hlen : l.length < k + 1 + t.entered.length)
    (hnew : c ∉ t.entered)
    (hup : (before.tour (k + 1) c t).UpTo whole) (hf : Follows before whole t m) :
    (Cloning.clone (k + 1) c m).1 = before.twin whole.entered c ∧
      Makes before whole t (before.tour (k + 1) c t) m.st (Cloning.clone (k + 1) c m).2 := by
  have hmet : ¬t.met c = true := fun h => hnew ((t.met_iff hst.closed ht hc).1 h)
  have hgrows := (foldl_visit_grows (before.tour_grows k)
    (before.held (before.lastId + 1 + t.entered.length) c) _
    ((ht.enter hc hnew).distinct hst.closed)).1
  rw [tour_succ, if_neg hmet] at hup ⊢
  generalize hwalk : (before.held (before.lastId + 1 + t.entered.length) c).foldl (before.visit k)
    { t with entered := t.entered ++ [c] } = t' at hgrows hup ⊢
  -- The id, the place and the first function of the copy are those that the whole walk foretells.
  have hup' : t'.UpTo whole := ⟨hup.entered, (List.prefix_append _ _).trans hup.left⟩
  have hrank := rank_eq_length hwhole (hup'.of_grows hgrows).entered
  have hid : (before.twin whole.entered c).id = before.lastId + 1 + t.entered.length := by
    rw [twin, hrank]
  have hplace : (before.twin whole.entered c).table = m.st.nextId.2.scopes.size := by
    rw [twin, hrank, nextId, hf.scopes]
  have hscope := hst.counted.scope_lt c hc
  have hbegun := hf.withRoot c (before.scope c.scope) (.fresh (-1))
  obtain ⟨new, gone, hentered, hleft, htaken⟩ :=
    hk.takeMembers hst hc ht hlen hnew hf hrank (hid ▸ hwalk) hup'
  have hf' := (hf.withRoot c (before.scope c.scope) ((Frame.fresh (-1)).declareAll
    (before.twinRoot whole c).vars.entries)).extend (hentered.trans (List.append_cons _ _ _)) hleft
  have hfirst := before.firstFunction_eq hwhole hperm hup.left
  rw [Cloning.clone_of_begin (hf.copyOf?_of_not_met hmet)
    (hf.begin hscope (htidy c.scope).limit_pos hrank), hbegun.membersFor hscope, htaken]
  refine ⟨rfl, c :: new, gone ++ [c], hentered, ?_, ?_⟩
  · exact (congrArg (· ++ [c]) hleft).trans (List.append_assoc _ _ _)
  · exact Follows.complete hst htidy hc hf' (hfirst.trans hf'.functions.symm) hplace rfl

/-- The recursion makes the copies of what a walk enters, if the steps suffice. -/
theorem clones (hst : before.Sound l) (htidy : before.Tidy) (hwhole : whole.Distinct)
    (hperm : whole.left.Perm whole.entered) (k : Nat) : Clones before whole l k := by
  induction k with
  | zero =>
    -- All of the list has been entered before the steps run out.
    intro c _ t m ht hlen
    have hle := ht.length_le
    omega
  | succ k ih =>
    intro c hc t m ht hlen hup hf
    by_cases hmet : c ∈ t.entered
    · rw [tour_succ, if_pos ((t.met_iff hst.closed ht hc).2 hmet),
        Cloning.clone_of_copyOf? (hf.copyOf?_of_entered hst.closed ht hmet)]
      exact ⟨rfl, hf.makes⟩
    · exact ih.enter hst htidy hwhole hperm hc ht hlen hmet hup hf

end

/-- The recursion makes the copy that the two phases lay out, in every state that can come
about and whatever order the members are taken in. -/
theorem clone_eq_copy {built : List Instance} {st : State} (h : Reachable built st)
    {c : Instance} (hc : c ∈ built) : st.clone c = st.copy c := by
  have hsize := h.sound.counted.length_le
  obtain ⟨hdistinct, hperm⟩ := st.tourFrom_grows c
  obtain ⟨htwin, new, gone, hentered, hleft, hclone⟩ :=
    clones h.sound h.tidy hdistinct hperm (st.scopes.size + 1) c hc ⟨[], []⟩ ⟨st, []⟩
      ⟨List.nil_subset _, List.nodup_nil⟩ (by simp only [List.length_nil]; omega)
      ⟨List.prefix_rfl, List.prefix_rfl⟩ (Follows.start st _)
  have hstate : (Cloning.clone (st.scopes.size + 1) c ⟨st, []⟩).2.st = (st.copy c).2 := by
    rw [hclone, copy_eq_extend]
    exact congrArg₂ (st.extend (st.tourFrom c) · · st) hentered.symm hleft.symm
  exact Prod.ext htwin hstate

end State

end Quartz
