import Ripfs.AddCommand

/-!
# The Name Map in the cluster

The Name Map, `reference → root handle`, is one JSON object that the manager node adds to its
store and publishes under its own IPNS key. Four pieces of code touch it: the daemon's bootstrap
goroutine, which calls `createMapper` once the swarm has peers; `SecretReconciler`, whose
`reconcileCidMapper` initialises it when the `ripfs-cid-mapper` secret lacks its key; the
`add` command's `updateCidMap`, a read-modify-publish; and `IpnsCidMapper.Resolve`, which the
webhook calls.

The cluster state is what these read and write: the self key's IPNS record, the store, whether
the swarm has peers, the two secrets, and whether the bootstrap goroutine has run. A step of
`Cluster.step` runs to completion, and one that fails before it publishes leaves the state as it
was. `createMapper` publishes before it creates its secret, so it publishes even when that
creation fails. Nothing serialises two `ripfs add` runs, so an update is also given as its two
halves, the read (`updateCidMapRead`) and the publish, which two runs may interleave.

The states are those of one run of the manager process: `bootstrapped` is never reset. A restart
of the manager runs `Daemon.Start` again, whose bootstrap goroutine publishes `{}` once more over
whatever the map held; no event here stands for it.
-/

namespace Ripfs

/-- A decoded Name Map, `map[string]string`. -/
abbrev NameMap := GoMap String

structure Cluster where
  /-- The self key's IPNS record: the path it points at. -/
  record : Option Nat
  /-- The Name Maps added to the store, a path being a position. -/
  store : List NameMap
  peered : Bool
  /-- The `ripfs-cid-mapper` secret: absent, without its `ipns-cid` key, or with it. -/
  cidMapperSecret : Option (Option String)
  /-- The `ipns` entry of the `ripfs-index` secret, if that secret exists. -/
  indexSecret : Option String
  /-- The bootstrap goroutine has called `createMapper`. -/
  bootstrapped : Bool
  deriving DecidableEq, Repr

def Cluster.init : Cluster := ⟨none, [], false, none, none, false⟩

/-- `consts.CidMapperSecretName`. -/
def cidMapperSecretName : String := "ripfs-cid-mapper"

/-- `consts.CidMapperSecretKey`. -/
def cidMapperSecretKey : String := "ipns-cid"

/-- The `ipns-cid` entry of the `ripfs-cid-mapper` secret, as `Secrets(...).Get` and the lookup of
`Data` give it; `noKey` is the caller's error for a secret without the entry. -/
def Cluster.cidMapperName (c : Cluster) (noKey : String) : Except String String :=
  match c.cidMapperSecret with
  | none => .error ("secrets \"" ++ cidMapperSecretName ++ "\" not found")
  | some none => .error noKey
  | some (some name) => .ok name

/-- `SecretFetcher.Fetch` with the `ipns-cid` key. -/
def Cluster.secretFetch (c : Cluster) : Except String String :=
  c.cidMapperName (cidMapperSecretKey ++ " not found in secret " ++ cidMapperSecretName)

section Steps

-- The manager node's self key name, `e.Name()` of every `Name().Publish`.
variable (self : String)

/-- `Unixfs().Add` of a Name Map, then `Name().Publish` of its path under the self key. -/
def Cluster.publish (c : Cluster) (m : NameMap) : Cluster :=
  { c with store := c.store ++ [m], record := some c.store.length }

/-- `Name().Resolve(name)`, `Unixfs().Get` of the path, and the JSON decode of the map. -/
def Cluster.readMap (c : Cluster) (name : String) : Except String NameMap :=
  match (if name = self then c.record else none) with
  | none => .error ("could not resolve name: " ++ name)
  | some p =>
    match c.store.get? p with
    | some m => .ok m
    | none => .error "merkledag: not found"

/-- The bootstrap goroutine: once the swarm has peers, `createMapper` once. It publishes `{}`
under the self key, then creates the `ripfs-index` secret, a creation that fails (and leaves the
secret as it is) when the secret exists. -/
def createMapper (c : Cluster) : Cluster :=
  if c.bootstrapped || !c.peered then c
  else
    let c := c.publish []
    { c with bootstrapped := true, indexSecret := some (c.indexSecret.getD self) }

/-- `SecretReconciler.reconcileCidMapper`: when the secret exists, the swarm has peers and the
secret lacks its key, publish `{}` and record the self key's name in the secret. -/
def reconcileCidMapper (c : Cluster) : Cluster :=
  match c.cidMapperSecret with
  | some none => if c.peered then { c.publish [] with cidMapperSecret := some (some self) } else c
  | _ => c

/-- The first half of `updateCidMap`: read the published map through the secret's name and set
`ref` to `p` in it. -/
def updateCidMapRead (c : Cluster) (ref p : String) : Except String NameMap := do
  let name ← c.cidMapperName ("couldn\x27t find ipns key in secret: " ++ cidMapperSecretName)
  let m ← c.readMap self name
  pure (m.put ref p)

/-- `updateCidMap`: the read half, then `Unixfs().Add` and `Name().Publish` of the new map. -/
def updateCidMap (c : Cluster) (ref p : String) : Except String Cluster := do
  let m ← updateCidMapRead self c ref p
  pure (c.publish m)

/-- `IpnsCidMapper.fetch`: the published map, once the swarm has peers. -/
def fetch (c : Cluster) : Except String NameMap := do
  if !c.peered then throw "swarm not initialized yet, ipns cannot exist"
  let name ← c.secretFetch.mapError ("fetching ipns cid: " ++ ·)
  c.readMap self name

/-- `IpnsCidMapper.Resolve`: the map's entry for `ParseReference(reference).Name()`. -/
def resolve (isAuthority : String → Bool) (c : Cluster) (reference : String) :
    Except String String := do
  let mapper ← (fetch self c).mapError fun _ => "unable to retrieve cid mapper"
  let ref ← parseReference isAuthority reference
  match mapper.lookup ref.name with
  | some cid => pure cid
  | none => throw ("cid does not exist for reference " ++ ref.name)

/-- `addCommandOpts.Run`: load the images the argument names, then ingest each and record its
root path under its key, stopping at the first failure. `ingest` is `AddImage` followed by the
root path's `String()`; the order of the map stands for Go's map iteration order. -/
def addCommandRun {Img : Type} (ld : Loader Img) (isAuthority : String → Bool)
    (ingest : Img → Except String String) (c : Cluster) (reference : String) :
    Except String Cluster := do
  let imgs ← (loadImages ld isAuthority reference).mapError ("loading image: " ++ ·)
  imgs.foldlM (fun c (ref, img) => do
    let p ← ingest img
    updateCidMap self c ref p) c

inductive Event where
  | swarm (peered : Bool)
  /-- `SecretReconciler.Reconcile` on another secret: `ensureSecret` creates an empty
  `ripfs-cid-mapper` secret if there is none. -/
  | ensureSecret
  | createMapper
  | reconcileCidMapper
  | updateCidMap (ref p : String)
  deriving DecidableEq, Repr

def Cluster.step (c : Cluster) : Event → Cluster
  | .swarm b => { c with peered := b }
  | .ensureSecret => { c with cidMapperSecret := some (c.cidMapperSecret.getD none) }
  | .createMapper => createMapper self c
  | .reconcileCidMapper => reconcileCidMapper self c
  | .updateCidMap ref p =>
    match updateCidMap self c ref p with
    | .ok c' => c'
    | .error _ => c

def Cluster.run (c : Cluster) (es : List Event) : Cluster := es.foldl (Cluster.step self) c

end Steps

end Ripfs
