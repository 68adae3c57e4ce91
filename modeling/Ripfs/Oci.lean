import Ripfs.Basic

/-!
# Records, libraries and the content store

The records the Image Writer marshals (go-containerregistry's `v1` types and the registry's own
`IpfsManifest`), the records the Graph Walker decodes (`catch` and opencontainers' `v1`
manifest), and the content store both talk to.

The registry code calls four libraries it does not define: encoding/json, the SHA-256 of
go-containerregistry, go-cid's text form and net/url. `Lib` collects those calls, and
`Lib.Lawful` states what the registry relies on them for: a record it marshals decodes to the
fields it wrote, a CID's text decodes to the CID, and `ipfs://<cid>` parses with that CID as
its host. The content store is the CoreAPI's `Unixfs()`, over any state type; its
content-addressing is `Unixfs.ContentAddressed`.
-/

namespace Ripfs

/-- `IPFSSchema`, the prefix `AddImage` puts before every CID it writes into a record. -/
def IPFSSchema : String := "ipfs://"

/-- `ipfsSchemePrefix`, the scheme `resolveCids` requires. -/
def ipfsSchemePrefix : String := "ipfs"

/-- `types.OCIImageIndex`. -/
def ociImageIndex : String := "application/vnd.oci.image.index.v1+json"

/-! ### Written records -/

/-- go-containerregistry's `v1.Descriptor`, with the fields the registry code reads or copies. -/
structure Descriptor where
  mediaType : String
  size : Int
  digest : Hash
  urls : List String
  annotations : List (String × String)
  deriving DecidableEq, Repr

/-- go-containerregistry's `v1.Manifest`. -/
structure Manifest where
  schemaVersion : Int
  mediaType : String
  config : Descriptor
  layers : List Descriptor
  annotations : List (String × String)
  deriving DecidableEq, Repr

/-- go-containerregistry's `v1.IndexManifest`, with the fields `AddImage` sets. -/
structure IndexManifest where
  schemaVersion : Int
  mediaType : String
  manifests : List Descriptor
  deriving DecidableEq, Repr

/-- The registry's `IpfsManifest`: the outer wrapper, whose CID is the root handle. -/
structure IpfsManifest where
  mediaType : String
  digest : Hash
  size : Int
  urls : List String
  deriving DecidableEq, Repr

/-! ### Decoded records -/

/-- An element of `catch.Manifests`. A nil and an empty `urls` are not told apart: `step` only
takes their length. -/
structure CatchManifest where
  mediaType : String
  digest : String
  urls : List String
  deriving DecidableEq, Repr

/-- `catch`, the generic pointer record `step` decodes. `urls = none` is a nil slice: the key
was absent or `null`; `some []` is the empty list `[]`. -/
structure Catch where
  mediaType : String
  digest : String
  urls : Option (List String)
  manifests : List CatchManifest
  deriving DecidableEq, Repr

/-- An opencontainers `v1.Descriptor`, with the fields `walk` reads. -/
structure OciDescriptor where
  mediaType : String
  digest : String
  urls : List String
  deriving DecidableEq, Repr

/-- An opencontainers `v1.Manifest`, with the fields `walk` reads. -/
structure OciManifest where
  config : OciDescriptor
  layers : List OciDescriptor
  deriving DecidableEq, Repr

/-! ### What encoding/json gives back

A record marshals its `v1.Hash` digests as their strings, omits an empty `urls`
(`omitempty`), and decodes into `catch` or the opencontainers manifest by field name. -/

def Descriptor.toCatchManifest (d : Descriptor) : CatchManifest :=
  ⟨d.mediaType, d.digest.toString, d.urls⟩

def Descriptor.toOci (d : Descriptor) : OciDescriptor :=
  ⟨d.mediaType, d.digest.toString, d.urls⟩

def Manifest.toOci (m : Manifest) : OciManifest :=
  ⟨m.config.toOci, m.layers.map Descriptor.toOci⟩

def IndexManifest.toCatch (i : IndexManifest) : Catch :=
  ⟨i.mediaType, "", none, i.manifests.map Descriptor.toCatchManifest⟩

def IpfsManifest.toCatch (w : IpfsManifest) : Catch :=
  ⟨w.mediaType, w.digest.toString, (match w.urls with | [] => none | urls => some urls), []⟩

/-- The library calls the registry code makes: `json.Marshal` of the three records it writes,
the two decodes of `walk`, `v1.SHA256`, go-cid's `String`, `Decode` and `Cid{}`, and `url.Parse`. -/
structure Lib (Bytes Cid : Type) where
  marshalManifest : Manifest → Bytes
  marshalIndexManifest : IndexManifest → Bytes
  marshalIpfsManifest : IpfsManifest → Bytes
  /-- `json.NewDecoder(f).Decode(&robj)` with `robj` a `catch`. -/
  decodeCatch : Bytes → Except String Catch
  /-- `json.NewDecoder(mf).Decode(&m)` with `m` an opencontainers `v1.Manifest`. -/
  decodeManifest : Bytes → Except String OciManifest
  sha256 : Bytes → Sum256
  /-- `v1.SHA256`'s size: the byte count. -/
  length : Bytes → Nat
  cidString : Cid → String
  cidDecode : String → Except String Cid
  undef : Cid
  urlParse : String → Except String Url

variable {Bytes Cid : Type}

/-- `IPFSSchema + c.String()`: the locator `AddImage` writes for a CID. -/
def Lib.locator (L : Lib Bytes Cid) (c : Cid) : String := IPFSSchema ++ L.cidString c

/-- What the registry relies on its libraries for. -/
structure Lib.Lawful (L : Lib Bytes Cid) : Prop where
  decodeCatch_ipfsManifest : ∀ w, L.decodeCatch (L.marshalIpfsManifest w) = .ok w.toCatch
  decodeCatch_indexManifest : ∀ i, L.decodeCatch (L.marshalIndexManifest i) = .ok i.toCatch
  decodeManifest_manifest : ∀ m, L.decodeManifest (L.marshalManifest m) = .ok m.toOci
  cidDecode_cidString : ∀ c, c ≠ L.undef → L.cidDecode (L.cidString c) = .ok c
  urlParse_locator : ∀ c, c ≠ L.undef → ∃ u, L.urlParse (L.locator c) = .ok u ∧
    u.scheme = ipfsSchemePrefix ∧ u.hostname = L.cidString c

/-! ### The content store -/

/-- A UnixFS node as `Unixfs().Get` returns it. -/
inductive UnixfsNode (Bytes : Type) where
  | file (data : Bytes)
  | directory

/-- The CoreAPI's `Unixfs()` on a store state `St`: `Add` with the registry's `addOpts`
(pinned, CID version 1), and `Get`. -/
structure Unixfs (St Bytes Cid : Type) where
  add : St → Bytes → Except String (Cid × St)
  get : St → Cid → Except String (UnixfsNode Bytes)

/-- `Add` is content-addressed: the CID it returns is `cidOf` of the content, fixed by the add
options and never the undefined CID, and from then on it reads back as that content. What was
readable before stays readable (`Add` pins, and nothing here unpins). -/
structure Unixfs.ContentAddressed {St : Type} (S : Unixfs St Bytes Cid) (cidOf : Bytes → Cid)
    (undef : Cid) : Prop where
  add_cid : ∀ {st b c st'}, S.add st b = .ok (c, st') → c = cidOf b
  get_add : ∀ {st b c st'}, S.add st b = .ok (c, st') → S.get st' c = .ok (.file b)
  get_persist : ∀ {st b c st' c' n}, S.add st b = .ok (c, st') → S.get st c' = .ok n →
    S.get st' c' = .ok n
  cidOf_defined : ∀ b, cidOf b ≠ undef

/-- The arguments `walk` passes to its callback. -/
structure Node (Cid : Type) where
  cid : Cid
  digest : String
  mediaType : String

end Ripfs
