import Ripfs.Writer

/-!
# Seeding images into the nodes

`seeder.Seed` of the offline install. Once the seed pods are up, `Seed` starts one goroutine per
pod in an `errgroup`. Each opens a tunnel to its pod's IPFS API and loads the images into it in
order: `load` adds an image with `AddImage` and creates a loader job on the pod's node that
pulls `localhost:31619/ipfs/<cid>` through the seed registry. The goroutine then sets `refs[i]`
to that reference. The goroutines of all the pods write the one `refs` slice, with nothing to
order their writes. `errs.Wait()` returns the first error in the order the goroutines return.

The model lists the seed pods in the order their goroutines return. It takes the writes to
`refs` in the order they happen, which may be any order of all the goroutines' writes. Each pod
has its own IPFS node, so a goroutine's store is its own.
-/

namespace Ripfs

variable {Bytes Cid St : Type}

/-- `path.IpfsPath(c).String()`: the path `Unixfs().Add` returns, as text. -/
def Lib.ipfsPath (L : Lib Bytes Cid) (c : Cid) : String := "/ipfs/" ++ L.cidString c

/-- The registry the loader jobs pull through: the `NodePort` of the `seeder` service. -/
def seedRegistry : String := "localhost:31619"

/-- What `load` calls besides `AddImage`: `img.Digest()`, and `NewApplier` with the `Apply` of
the loader job that runs an image on a node (`Apply` waits for the job). -/
structure SeedEnv (Bytes : Type) where
  digest : Image Bytes → Except String Hash
  applyJob : String → String → Except String Unit

/-- A seed pod, as its goroutine uses it: the node it runs on, what `connect` reaches through
the tunnel (the store of the pod's own IPFS node) or the tunnel's error, and the completion
order of the layer goroutines of the goroutine's `i`-th `AddImage`. -/
structure SeedPod (St Bytes : Type) where
  node : String
  connect : Except String St
  sched : Nat → Schedule (Layer Bytes)

section Seed

variable (L : Lib Bytes Cid) (S : Unixfs St Bytes Cid) (env : SeedEnv Bytes)

/-- `seeder.load`: the image's digest, `AddImage` into the pod's node, and the loader job on the
node for the reference `localhost:31619/ipfs/<cid>`, which it returns. -/
def load (node : String) (st : St) (img : Image Bytes) (sched : Schedule (Layer Bytes)) :
    Except String (String × St) := do
  let _ ← env.digest img
  let (p, st) ← addImage L S st img sched
  let image := seedRegistry ++ L.ipfsPath p
  env.applyJob node image
  pure (image, st)

/-- The loop of a seed pod's goroutine from the `i`-th image on: load each image and set
`refs[i]`; the first failure ends the goroutine with `loading: <err>`. The writes to `refs` in
order, and the store the loop leaves or its error. -/
def loadFrom (pod : SeedPod St Bytes) :
    Nat → St → List (Image Bytes) → List (Nat × String) × Except String St
  | _, st, [] => ([], .ok st)
  | i, st, img :: imgs =>
    match load L S env pod.node st img (pod.sched i) with
    | .error e => ([], .error ("loading: " ++ e))
    | .ok (ref, st) =>
      let rest := loadFrom pod (i + 1) st imgs
      ((i, ref) :: rest.1, rest.2)

/-- The goroutine `Seed` starts for a seed pod: `connect`, then the loop over the images. -/
def seedGoroutine (pod : SeedPod St Bytes) (imgs : List (Image Bytes)) :
    List (Nat × String) × Except String St :=
  match pod.connect with
  | .error e => ([], .error e)
  | .ok st => loadFrom L S env pod 0 st imgs

/-- `errs.Wait()`: the first error of the goroutines, in the order they return. -/
def wait : List (Except String St) → Except String Unit
  | [] => .ok ()
  | .error e :: _ => .error e
  | .ok _ :: outs => wait outs

/-- `Seed` from the seed pods on: `refs` starts as one empty reference per image and takes the
goroutines' writes in the order `writes` has them; `errs.Wait()` decides the outcome. -/
def seed (pods : List (SeedPod St Bytes)) (imgs : List (Image Bytes)) (writes : List (Nat × String)) :
    Except String (List String) := do
  wait (pods.map fun pod => (seedGoroutine L S env pod imgs).2)
  pure (writes.foldl (fun refs w => refs.set w.1 w.2) (List.replicate imgs.length ""))

end Seed

end Ripfs
