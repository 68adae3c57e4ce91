import Ripfs.NameMap

/-!
# Concurrent `ripfs add` runs

`updateCidMap` reads the published Name Map, puts its entry, and adds and publishes the result,
with no lock around the three. Nothing orders two `ripfs add` runs, so the two halves of their
updates interleave: the read (`updateCidMapRead`) and the publish (`Cluster.publish`). A
schedule is the order in which the halves of all the runs happen; writer `i` sets `(req i).1` to
`(req i).2`, and holds the map it read until it publishes it.

`ChainState` is the same schedule with the maps forgotten: for the published map and for each
map a writer holds, the writers whose entries it carries, in the order they were put.
-/

namespace Ripfs

/-- One half of one writer's `updateCidMap`. -/
inductive Half where
  /-- The resolve, get and decode of the published map, and the put of the writer's entry. -/
  | read (i : Nat)
  /-- The add and publish of the map the writer holds. -/
  | publish (i : Nat)
  deriving DecidableEq, Repr

/-- The value `i` takes in `f` after it is set to `v`. -/
def setAt {α : Type} (f : Nat → α) (i : Nat) (v : α) : Nat → α := fun j => if j = i then v else f j

@[simp] theorem setAt_self {α : Type} (f : Nat → α) (i : Nat) (v : α) : setAt f i v i = v := by
  simp [setAt]

@[simp] theorem setAt_of_ne {α : Type} (f : Nat → α) {i j : Nat} (v : α) (h : j ≠ i) :
    setAt f i v j = f j := by
  simp [setAt, h]

/-! ### The cluster under concurrent updates -/

/-- The cluster, and the map each writer read and has not yet published. -/
structure Race where
  cluster : Cluster
  held : Nat → Option NameMap

section Race

variable (self : String) (req : Nat → String × String)

/-- One half. A read that fails ends its writer's run: it holds nothing and publishes nothing.
A publish by a writer that holds no map does nothing. -/
def Race.step (r : Race) : Half → Race
  | .read i =>
    { r with held := setAt r.held i (updateCidMapRead self r.cluster (req i).1 (req i).2).toOption }
  | .publish i =>
    match r.held i with
    | some m => ⟨r.cluster.publish m, setAt r.held i none⟩
    | none => r

/-- A schedule of halves. -/
def Race.run (r : Race) (hs : List Half) : Race := hs.foldl (Race.step self req) r

/-- The cluster before any writer has read. -/
def Race.start (c : Cluster) : Race := ⟨c, fun _ => none⟩

end Race

/-! ### The writers a map carries -/

/-- The published chain, and the chain each writer read and has not yet published. -/
structure ChainState where
  published : List Nat
  held : Nat → Option (List Nat)

/-- One half: a read copies the published chain, a publish replaces it by the chain its writer
read followed by the writer. -/
def ChainState.step (s : ChainState) : Half → ChainState
  | .read i => { s with held := setAt s.held i (some s.published) }
  | .publish i =>
    match s.held i with
    | some l => ⟨l ++ [i], setAt s.held i none⟩
    | none => s

def ChainState.run (s : ChainState) (hs : List Half) : ChainState := hs.foldl ChainState.step s

/-- Before any writer has read, the published map carries no writer's entry. -/
def ChainState.start : ChainState := ⟨[], fun _ => none⟩

/-- The map `m₀` with the entries of the writers of a chain put in order. -/
def chainMap (req : Nat → String × String) (m₀ : NameMap) (l : List Nat) : NameMap :=
  l.foldl (fun m i => m.put (req i).1 (req i).2) m₀

end Ripfs
