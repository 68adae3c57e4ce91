import Ripfs.Oci

/-!
# The Graph Walker

`ipfs.ReadManifest` and `ipfs.ReadBlob` of `registry.go`, with the helpers they call:
`open`, `resolveCids`, `step` and `walk`. The walker reads the store through a fixed view,
`StoreView`: a request does not write, so one snapshot of `Get` is all it sees.

`walk` hands each node to a callback whose state is a Go closure. Here that state is an explicit
accumulator: the callback takes the state so far and a node, and returns the next state or an
error that stops the walk.
-/

namespace Ripfs

variable {Bytes Cid : Type}

/-- What a request reads: `Unixfs().Get` on one store state. -/
abbrev StoreView (Bytes Cid : Type) := Cid → Except String (UnixfsNode Bytes)

/-- `ipfs.open`: the file at a CID. -/
def openFile (get : StoreView Bytes Cid) (c : Cid) : Result Bytes :=
  match get c with
  | .error msg => .error (.error msg)
  | .ok (.file data) => .ok data
  | .ok .directory => .error (.error "expected a file")

theorem openFile_of_get {get : StoreView Bytes Cid} {c : Cid} {data : Bytes}
    (h : get c = .ok (.file data)) : openFile get c = .ok data := by
  simp [openFile, h]

theorem openFile_ne_panic (get : StoreView Bytes Cid) (c : Cid) (msg : String) :
    openFile get c ≠ .error (.panic msg) := by
  unfold openFile
  split <;> simp

section Reader

variable (L : Lib Bytes Cid)

/-- The runtime error of indexing an empty slice at 0. -/
def indexOutOfRange : String := "runtime error: index out of range [0] with length 0"

/-- `ipfs.resolveCids`. It refuses more than one locator, but indexes the first without
checking that there is one. -/
def resolveCids (urls : List String) : Result Cid :=
  if urls.length > 1 then .error (.error ("expected a single cid, got " ++ toString urls.length))
  else match urls with
    | [] => .error (.panic indexOutOfRange)
    | url :: _ => do
      let u ← liftError (L.urlParse url)
      if u.scheme ≠ ipfsSchemePrefix then
        throw (.error ("expected ipfs scheme prefix, but got " ++ u.scheme))
      liftError (L.cidDecode u.hostname)

/-- `ipfs.step`: decode a pointer record, either the direct `{digest, urls}` shape or a
single-entry `{manifests: [...]}` shape, and follow its locator. The media type is the
record's own. -/
def step (data : Bytes) : Result (Node Cid) := do
  let robj ← liftError (L.decodeCatch data)
  let (ds, urls) ← match robj.urls, robj.manifests with
    | some urls, _ => pure (robj.digest, urls)
    | none, [m] => pure (m.digest, m.urls)
    | none, _ => throw (.error "nope")
  let c ← resolveCids L urls
  let d ← liftError (digestParse ds)
  pure ⟨c, d, robj.mediaType⟩

/-- The zero node `(cid.Cid{}, "", "")` that `step` returns beside an error. -/
def zeroNode : Node Cid := ⟨L.undef, "", ""⟩

/-- How `walk` takes the outer wrapper's `step`: its returned error is overwritten before it is
read, so the zero node goes on. A panic is not a returned error: it still unwinds. -/
def dropStepError : Result (Node Cid) → Result (Node Cid)
  | .error (.error _) => .ok (zeroNode L)
  | r => r

/-- The loop of `walk` over the manifest's layers. -/
def walkLayers {α : Type} (fn : α → Node Cid → Result α) : α → List OciDescriptor → Result α
  | acc, [] => .ok acc
  | acc, layer :: layers => do
    let lc ← resolveCids L layer.urls
    let acc ← fn acc ⟨lc, layer.digest, layer.mediaType⟩
    walkLayers fn acc layers

/-- The part of `walk` after the outer wrapper's node: open the index, then the manifest, its
config and its layers. -/
def walkIndex {α : Type} (get : StoreView Bytes Cid) (idxc : Cid) (fn : α → Node Cid → Result α)
    (acc : α) : Result α := do
  let idxf ← openFile get idxc
  let m ← step L idxf
  let acc ← fn acc m
  let mf ← openFile get m.cid
  let man ← liftError (L.decodeManifest mf)
  let cc ← resolveCids L man.config.urls
  let acc ← fn acc ⟨cc, man.config.digest, man.config.mediaType⟩
  walkLayers L fn acc man.layers

/-- `ipfs.walk`: outer wrapper, index, manifest, config, then each layer in manifest order. -/
def walk {α : Type} (get : StoreView Bytes Cid) (rootc : Cid) (fn : α → Node Cid → Result α)
    (acc : α) : Result α := do
  let rootf ← openFile get rootc
  let idx ← dropStepError L (step L rootf)
  let acc ← fn acc idx
  walkIndex L get idx.cid fn acc

/-- The callback of `ReadBlob`: remember the node if its digest is the one asked for. -/
def matchDigest (d : String) (found : Option (Cid × String)) (n : Node Cid) :
    Option (Cid × String) :=
  if d = n.digest then some (n.cid, n.mediaType) else found

/-- `ipfs.ReadBlob`. -/
def readBlob (get : StoreView Bytes Cid) (name d : String) : Result (Bytes × String) := do
  let rootc ← liftError (L.cidDecode name)
  let found ← walk L get rootc (fun found n => .ok (matchDigest d found n)) none
  match found with
  | none => throw (.error ("didn\x27t find desired digest " ++ d))
  | some (fcid, fmtype) => do
    let ff ← openFile get fcid
    pure (ff, fmtype)

/-- `ipfs.ReadManifest`: `latest` is one hop from the outer wrapper; anything else must parse
as a digest and is walked for. -/
def readManifest (get : StoreView Bytes Cid) (name reference : String) :
    Result (Bytes × String) := do
  let c ← liftError (L.cidDecode name)
  if reference = "latest" then
    let rootf ← openFile get c
    let idx ← step L rootf
    let idxf ← openFile get idx.cid
    pure (idxf, idx.mediaType)
  else
    match digestParse reference with
    | .error e =>
      throw (.error ("reference must either be \x27latest\x27 or a valid digest: " ++ e))
    | .ok d => readBlob L get name d

/-! ### One lemma per step of the walk -/

theorem resolveCids_nil : resolveCids L [] = .error (.panic indexOutOfRange) := rfl

theorem resolveCids_locator (hL : L.Lawful) {c : Cid} (hc : c ≠ L.undef) :
    resolveCids L [L.locator c] = .ok c := by
  obtain ⟨u, hu, hs, hh⟩ := hL.urlParse_locator c hc
  simp [resolveCids, hu, hs, hh, hL.cidDecode_cidString c hc, bind, Except.bind, pure, Except.pure]

/-- A record in the direct shape: its own digest and locators. -/
theorem step_of_urls {data : Bytes} {robj : Catch} {urls : List String}
    (h : L.decodeCatch data = .ok robj) (hu : robj.urls = some urls) :
    step L data = (do
      let c ← resolveCids L urls
      let d ← liftError (digestParse robj.digest)
      pure ⟨c, d, robj.mediaType⟩) := by
  simp only [step, h, hu, liftError_ok, bind, Except.bind, pure, Except.pure]

/-- A record in the single-entry shape: the entry's digest and locators, the record's own media
type. -/
theorem step_of_manifests {data : Bytes} {robj : Catch} {m : CatchManifest}
    (h : L.decodeCatch data = .ok robj) (hu : robj.urls = none) (hm : robj.manifests = [m]) :
    step L data = (do
      let c ← resolveCids L m.urls
      let d ← liftError (digestParse m.digest)
      pure ⟨c, d, robj.mediaType⟩) := by
  simp only [step, h, hu, hm, liftError_ok, bind, Except.bind, pure, Except.pure]

/-! ### Walking with a callback that cannot fail

Such a walk is a fold over one list of nodes, `walkNodes`, whatever the callback. -/

/-- The nodes `walk` emits, in order. -/
def walkNodes (get : StoreView Bytes Cid) (rootc : Cid) : Result (List (Node Cid)) :=
  walk L get rootc (fun ns n => .ok (ns ++ [n])) []

section Fold

variable {α β : Type} (f : α → Node Cid → α) (g : β → Node Cid → β) (h : α → β)

theorem walkLayers_map (hfg : ∀ a n, h (f a n) = g (h a) n) :
    ∀ (a : α) (layers : List OciDescriptor),
      (walkLayers L (fun a n => .ok (f a n)) a layers).map h =
        walkLayers L (fun b n => .ok (g b n)) (h a) layers
  | a, [] => rfl
  | a, layer :: layers => by
    simp only [walkLayers]
    simp only [map_bind, ok_bind, walkLayers_map hfg, hfg]

theorem walkIndex_map (hfg : ∀ a n, h (f a n) = g (h a) n) (get : StoreView Bytes Cid)
    (idxc : Cid) (a : α) :
    (walkIndex L get idxc (fun a n => .ok (f a n)) a).map h =
      walkIndex L get idxc (fun b n => .ok (g b n)) (h a) := by
  simp only [walkIndex, map_bind, ok_bind, walkLayers_map L f g h hfg, hfg]

theorem walk_map (hfg : ∀ a n, h (f a n) = g (h a) n) (get : StoreView Bytes Cid) (rootc : Cid)
    (a : α) :
    (walk L get rootc (fun a n => .ok (f a n)) a).map h =
      walk L get rootc (fun b n => .ok (g b n)) (h a) := by
  simp only [walk, map_bind, ok_bind, walkIndex_map L f g h hfg, hfg]

/-- A walk whose callback cannot fail folds the callback over `walkNodes`. -/
theorem walk_eq_fold (get : StoreView Bytes Cid) (rootc : Cid) (a : α) :
    walk L get rootc (fun a n => .ok (f a n)) a = (walkNodes L get rootc).map (·.foldl f a) := by
  rw [walkNodes, walk_map L (fun ns n => ns ++ [n]) f (·.foldl f a) (by simp)]
  rfl

end Fold

end Reader

end Ripfs
