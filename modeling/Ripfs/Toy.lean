import Ripfs.Walker
import Ripfs.Writer

/-!
# A reference instance

One executable instance of the libraries and of the content store. Its records are kept as the
values they were marshalled from, its CIDs are numbers written in unary after a `b`, and its
SHA-256 has sixteen values, so a collision is easy to build. Its store refuses a write whose CID
already holds other content, which makes it content-addressed whatever its CID function is.

The instance shows that the laws of `Lib.Lawful` and `Unixfs.ContentAddressed` hold together,
instantiates the theorems that assume them, and carries the counterexamples.
-/

namespace Ripfs.Toy

/-- What the reference store holds: raw blobs, the three records the writer marshals, and two
documents for hand-built stores, one in each decoded shape. -/
inductive Blob where
  | raw (n : Nat)
  | manifest (m : Manifest)
  | index (i : IndexManifest)
  | ipfsManifest (w : IpfsManifest)
  | catchDoc (c : Catch)
  | ociDoc (m : OciManifest)
  deriving DecidableEq, Repr

theorem digit_mem (n : Nat) : lowerHexDigits.getD n '0' ∈ lowerHexDigits := by
  rw [List.getD_eq_getElem?_getD]
  cases h : lowerHexDigits[n]? with
  | none => decide
  | some c => exact List.getElem?_mem h

/-- The sum `0…0d`: sixty-three zeros and the hex digit of `n % 16`. -/
def sumOf (n : Nat) : Sum256 where
  hex := String.mk (List.replicate 63 '0' ++ [lowerHexDigits.getD (n % 16) '0'])
  hex_length := by simp [String.length]
  hex_digits := by
    intro c hc
    simp only [List.mem_append, List.mem_replicate, List.mem_singleton] at hc
    simp only [isLowerHexDigit, decide_eq_true_eq]
    rcases hc with ⟨-, rfl⟩ | rfl
    · decide
    · exact digit_mem _

def cidString (n : Nat) : String := "b" ++ String.mk (List.replicate n 'a')

def cidDecode (s : String) : Except String Nat :=
  match s.data with
  | 'b' :: rest =>
    if rest ≠ [] ∧ rest.all (· = 'a') then .ok rest.length else .error "invalid cid"
  | _ => .error "selected encoding not supported"

def urlParse (s : String) : Except String Url :=
  match s.data with
  | 'i' :: 'p' :: 'f' :: 's' :: ':' :: '/' :: '/' :: host => .ok ⟨"ipfs", String.mk host⟩
  | _ => .error "missing protocol scheme"

def decodeCatch : Blob → Except String Catch
  | .manifest m => .ok ⟨m.mediaType, "", none, []⟩
  | .index i => .ok i.toCatch
  | .ipfsManifest w => .ok w.toCatch
  | .catchDoc c => .ok c
  | .raw _ => .error "invalid character looking for beginning of value"
  | .ociDoc _ => .error "cannot unmarshal array into catch"

def decodeManifest : Blob → Except String OciManifest
  | .manifest m => .ok m.toOci
  | .ociDoc m => .ok m
  | _ => .error "cannot unmarshal into v1.Manifest"

def sha256 : Blob → Sum256
  | .raw n => sumOf n
  | .manifest _ => sumOf 10
  | .index _ => sumOf 11
  | .ipfsManifest _ => sumOf 12
  | .catchDoc _ => sumOf 13
  | .ociDoc _ => sumOf 14

def lib : Lib Blob Nat where
  marshalManifest := .manifest
  marshalIndexManifest := .index
  marshalIpfsManifest := .ipfsManifest
  decodeCatch := decodeCatch
  decodeManifest := decodeManifest
  sha256 := sha256
  length
    | .raw n => n
    | _ => 1
  cidString := cidString
  cidDecode := cidDecode
  undef := 0
  urlParse := urlParse

theorem cidString_data (c : Nat) : (cidString c).data = 'b' :: List.replicate c 'a' := rfl

theorem lib_lawful : lib.Lawful where
  decodeCatch_ipfsManifest _ := rfl
  decodeCatch_indexManifest _ := rfl
  decodeManifest_manifest _ := rfl
  cidDecode_cidString c hc := by
    have hne : List.replicate c 'a' ≠ [] := by simpa using hc
    simp [lib, cidDecode, cidString_data, hne, List.all_eq_true]
  urlParse_locator c _ := by
    refine ⟨⟨"ipfs", cidString c⟩, ?_, rfl, Url.hostname_eq_host ?_ ?_⟩
    · simp [lib, urlParse, Lib.locator, IPFSSchema, cidString_data]
      rfl
    · simp [cidString_data]
    · simp [cidString_data]

/-! ### The store -/

abbrev Store := List (Nat × Blob)

def urlWeight (urls : List String) : Nat := urls.foldr (fun u n => u.length + n) 0

/-- The reference store's CIDs: raw blobs by their number, records by the length of the
locators they carry, which is what tells two decorated manifests apart. -/
def cidOf : Blob → Nat
  | .raw n => n + 1
  | .manifest m => 10 + urlWeight m.config.urls + m.layers.foldr (fun d n => urlWeight d.urls + n) 0
  | .index i => 20 + i.manifests.foldr (fun d n => urlWeight d.urls + n) 0
  | .ipfsManifest w => 30 + urlWeight w.urls
  | .catchDoc _ => 40
  | .ociDoc _ => 50

def add (st : Store) (b : Blob) : Except String (Nat × Store) :=
  match st.lookup (cidOf b) with
  | none => .ok (cidOf b, (cidOf b, b) :: st)
  | some b' => if b' = b then .ok (cidOf b, st) else .error "cid already holds other content"

def get (st : Store) (c : Nat) : Except String (UnixfsNode Blob) :=
  match st.lookup c with
  | some b => .ok (.file b)
  | none => .error "merkledag: not found"

def unixfs : Unixfs Store Blob Nat := ⟨add, get⟩

theorem add_eq_ok {st st' : Store} {b : Blob} {c : Nat} (h : add st b = .ok (c, st')) :
    c = cidOf b ∧ ((st.lookup (cidOf b) = none ∧ st' = (cidOf b, b) :: st) ∨
      (st.lookup (cidOf b) = some b ∧ st' = st)) := by
  unfold add at h
  split at h
  · cases h
    exact ⟨rfl, .inl ⟨‹_›, rfl⟩⟩
  · split at h
    · cases h
      subst_vars
      exact ⟨rfl, .inr ⟨‹_›, rfl⟩⟩
    · cases h

theorem lookup_cons_of_ne {st : Store} {c c' : Nat} {b : Blob} (h : c' ≠ c) :
    ((c, b) :: st).lookup c' = st.lookup c' := by
  simp [List.lookup_cons, beq_false_of_ne h]

theorem unixfs_contentAddressed : unixfs.ContentAddressed cidOf lib.undef where
  add_cid h := (add_eq_ok h).1
  get_add h := by
    obtain ⟨rfl, ⟨-, rfl⟩ | ⟨hb, rfl⟩⟩ := add_eq_ok h <;> simp [unixfs, get, *]
  get_persist {st b c st' c' n} h hget := by
    obtain ⟨-, ⟨hnone, rfl⟩ | ⟨-, rfl⟩⟩ := add_eq_ok h
    · have hne : c' ≠ cidOf b := by
        rintro rfl
        simp [unixfs, get, hnone] at hget
      simpa [unixfs, get, lookup_cons_of_ne hne] using hget
    · exact hget
  cidOf_defined b := by cases b <;> simp [cidOf, lib]

/-! ### Images and completion orders -/

def inOrder {α : Type} : Schedule α := ⟨id, fun _ => List.Perm.refl _⟩

def reversed {α : Type} : Schedule α := ⟨List.reverse, List.reverse_perm⟩

def configType : String := "application/vnd.oci.image.config.v1+json"

def manifestType : String := "application/vnd.oci.image.manifest.v1+json"

def layerType : String := "application/vnd.oci.image.layer.v1.tar+gzip"

/-- The manifest's descriptor of raw blob `n`: its digest and size, no locators. -/
def rawDescriptor (mediaType : String) (n : Nat) : Descriptor :=
  ⟨mediaType, n, (sumOf n).toHash, [], []⟩

def rawLayer (n : Nat) : Layer Blob := ⟨.ok (.raw n), .ok (sumOf n).toHash⟩

/-- An image of raw blobs that keeps the content contract: config `c`, layers `ns`, and a
manifest listing them in order. -/
def rawImage (c : Nat) (ns : List Nat) : Image Blob :=
  ⟨.ok (ns.map rawLayer), .ok (.raw c),
   .ok ⟨2, manifestType, rawDescriptor configType c, ns.map (rawDescriptor layerType), []⟩⟩

/-- The two-layer image whose first layer's bytes cannot be read. -/
def unreadableImage : Image Blob :=
  ⟨.ok [⟨.error "unexpected EOF", .ok (sumOf 3).toHash⟩, rawLayer 4], .ok (.raw 2),
   .ok ⟨2, manifestType, rawDescriptor configType 2, [3, 4].map (rawDescriptor layerType), []⟩⟩

/-- The root handle and the store an `AddImage` run on the empty reference store ends with. -/
def ingest (img : Image Blob) (sched : Schedule (Layer Blob)) : Nat × Store :=
  match addImage lib unixfs [] img sched with
  | .ok r => r
  | .error _ => (0, [])

end Ripfs.Toy
