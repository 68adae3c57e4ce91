import Ripfs.Oci

/-!
# The Image Writer

`AddImage` of `add.go` and the helpers it calls: `writeLayers`, `convertIpfs`, `writeObj`.

`writeLayers` starts one goroutine per layer and joins them with an `errgroup.Group`. Each
goroutine reads its layer, adds it and records the CID under the layer's digest; the group
returns the first error in completion order. The model runs the goroutines one after another in
a completion order `sched` picks, any order of the layer list, each to completion. The
goroutines write the shared `cidMap` without a lock, and Go's runtime may abort the process on
two map writes at once; a model in which each goroutine runs to completion cannot show that.
-/

namespace Ripfs

variable {Bytes Cid St : Type}

/-- A layer of a `v1.Image`, by the two calls `writeLayers` makes on it. -/
structure Layer (Bytes : Type) where
  compressed : Except String Bytes
  digest : Except String Hash

/-- A `v1.Image`, by the three calls `AddImage` makes on it. -/
structure Image (Bytes : Type) where
  layers : Except String (List (Layer Bytes))
  rawConfigFile : Except String Bytes
  manifest : Except String Manifest

/-- `map[v1.Hash]cid.Cid`. A write goes in front, so a lookup sees the latest write. -/
abbrev CidMap (Cid : Type) := List (Hash × Cid)

def CidMap.insert (m : CidMap Cid) (k : Hash) (v : Cid) : CidMap Cid := (k, v) :: m

@[simp] theorem CidMap.lookup_insert_self (m : CidMap Cid) (k : Hash) (v : Cid) :
    (m.insert k v).lookup k = some v := by
  simp [CidMap.insert]

theorem CidMap.lookup_insert (m : CidMap Cid) (k k' : Hash) (v : Cid) :
    (m.insert k v).lookup k' = if k' = k then some v else m.lookup k' := by
  by_cases h : k' = k
  · simp [h]
  · have hne : (k' == k) = false := beq_false_of_ne h
    simp only [CidMap.insert, List.lookup_cons, hne, if_neg h]

/-- A completion order of `writeLayers`' goroutines: a reordering of the layer list. -/
structure Schedule (α : Type) where
  order : List α → List α
  perm : ∀ xs, (order xs).Perm xs

section Writer

variable (L : Lib Bytes Cid) (S : Unixfs St Bytes Cid)

/-- One descriptor of `convertIpfs`: its locator from the table, or the error that names it.
The config and every layer go through the same check, `kind` naming which. -/
def decorate (cids : CidMap Cid) (kind : String) (d : Descriptor) : Except String Descriptor :=
  match cids.lookup d.digest with
  | none => .error (kind ++ " descriptor " ++ d.digest.toString ++ " not found")
  | some c => .ok { d with urls := [L.locator c] }

/-- `convertIpfs`: a copy of the manifest whose config and layers carry the CID locators the
table gives their digests. The copy is a value; the caller's manifest is not touched. -/
def convertIpfs (m : Manifest) (cids : CidMap Cid) : Except String Manifest := do
  let config ← decorate L cids "config" m.config
  let layers ← m.layers.mapM (decorate L cids "layer")
  pure { m with config, layers }

/-- `writeObj`, given the object's `json.Marshal` bytes: add them, and return the path with
the hash and size `v1.SHA256` computes over them. -/
def writeObj (st : St) (data : Bytes) : Except String ((Cid × Hash × Int) × St) := do
  let (p, st) ← S.add st data
  pure ((p, (L.sha256 data).toHash, L.length data), st)

/-- One goroutine of `writeLayers`, run to completion. -/
def writeLayer (acc : CidMap Cid × St) (layer : Layer Bytes) : Except String (CidMap Cid × St) := do
  let rc ← layer.compressed
  let d ← layer.digest
  let (p, st) ← S.add acc.2 rc
  pure (acc.1.insert d p, st)

/-- `writeLayers`, with the goroutines completing in the order `sched` puts the layers in. -/
def writeLayers (st : St) (img : Image Bytes) (sched : Schedule (Layer Bytes)) :
    Except String (CidMap Cid × St) := do
  let layers ← img.layers
  (sched.order layers).foldlM (writeLayer S) ([], st)

/-- The single-entry index `AddImage` wraps the decorated manifest in. -/
def indexFor (mediaType : String) (p : Cid) (h : Hash) (size : Int) : IndexManifest :=
  { schemaVersion := 2, mediaType := ociImageIndex,
    manifests := [{ mediaType, size, digest := h, urls := [L.locator p],
                    annotations := [] }] }

/-- The outer wrapper `AddImage` points at the index with; its CID is the root handle. -/
def wrapperFor (p : Cid) (h : Hash) (size : Int) : IpfsManifest :=
  { mediaType := ociImageIndex, digest := h, size, urls := [L.locator p] }

/-- `AddImage`: the layers, then the config, then the decorated manifest, the index and the
outer wrapper, each added to the store; the root handle is the wrapper's CID. -/
def addImage (st : St) (img : Image Bytes) (sched : Schedule (Layer Bytes)) :
    Except String (Cid × St) := do
  let (cidMap, st) ← writeLayers S st img sched
  let cfgData ← img.rawConfigFile
  let (cfgPath, st) ← (S.add st cfgData).mapError ("writing config to ipfs: " ++ ·)
  let manifest ← img.manifest
  let cidMap := cidMap.insert manifest.config.digest cfgPath
  let ipfsManifest ← convertIpfs L manifest cidMap
  let ((mPath, mHash, mSize), st) ← writeObj L S st (L.marshalManifest ipfsManifest)
  let idx := indexFor L ipfsManifest.mediaType mPath mHash mSize
  let ((idxPath, idxHash, idxSize), st) ← writeObj L S st (L.marshalIndexManifest idx)
  let ipfsIdx := wrapperFor L idxPath idxHash idxSize
  let ((root, _, _), st) ← writeObj L S st (L.marshalIpfsManifest ipfsIdx)
  pure (root, st)

end Writer

end Ripfs
