import Ripfs.Proof.Ingest
import Ripfs.Proof.Convert
import Ripfs.Proof.Walk

/-!
# Reading back what `AddImage` wrote

The writer and the walker meet at `ingestNodes`, the nodes the walk emits over a graph
`AddImage` wrote. The outer wrapper points at the index, the index at the decorated manifest,
and the manifest at the config and the layers through the locators `convertIpfs` put in; so
the walk emits one node per record and one per descriptor, the latter at the CID the final
table holds for the descriptor's digest (`walkNodes_ingested`). The other half,
`addImage_graph`, says what that table holds after a successful run; under the content contract
every pointer of the graph then has one locator, to content of its digest (`addImage_pointers`).

Two things follow that a reader of the walker would not expect. The table holds one CID per
digest and the config's entry is written last, so a layer whose digest is the config's reads
back as the config, and of two layers with one digest only one reads back; under the content
contract this is seen only through a collision of SHA-256 among the image's blobs, which
`Image.CollisionFree` rules out. And `step` returns
the media type of the record it decodes, not of the entry it follows, so the manifest node
carries the index's media type.
-/

namespace Ripfs

variable {Bytes Cid St : Type} (L : Lib Bytes Cid) (S : Unixfs St Bytes Cid) (cidOf : Bytes → Cid)

/-- The manifest `convertIpfs` returns when the table covers it. -/
def decorated (T : CidMap Cid) (m : Manifest) : Manifest :=
  { m with config := withLocator L T m.config, layers := m.layers.map (withLocator L T) }

theorem decorated_toOci (T : CidMap Cid) (m : Manifest) :
    (decorated L T m).toOci =
      ⟨(withLocator L T m.config).toOci, (m.layers.map (withLocator L T)).map Descriptor.toOci⟩ :=
  rfl

/-- The node the walk emits for a descriptor the table decorated. -/
def tableNode (T : CidMap Cid) (d : Descriptor) : Node Cid :=
  ⟨(T.lookup d.digest).getD L.undef, d.digest.toString, d.mediaType⟩

theorem tableNode_cid {T : CidMap Cid} {d : Descriptor} {c : Cid} (h : T.lookup d.digest = some c) :
    (tableNode L T d).cid = c := by
  simp [tableNode, h]

/-- The nodes the walk emits over the graph `AddImage` writes for manifest `m` and final
table `T`: the index, the decorated manifest, the config, the layers. -/
def ingestNodes (T : CidMap Cid) (m : Manifest) : List (Node Cid) :=
  let mb := L.marshalManifest (decorated L T m)
  let ib := L.marshalIndexManifest (indexOf L cidOf (decorated L T m))
  ⟨cidOf ib, (L.sha256 ib).toHash.toString, ociImageIndex⟩ ::
    ⟨cidOf mb, (L.sha256 mb).toHash.toString, ociImageIndex⟩ ::
    (m.config :: m.layers).map (tableNode L T)

/-- `ReadBlob` and `ReadManifest` both answer digest `d` under the root handle `name` with the
bytes `b` and the media type `mt`. -/
def Serves (get : StoreView Bytes Cid) (name d : String) (b : Bytes) (mt : String) : Prop :=
  readBlob L get name d = .ok (b, mt) ∧ readManifest L get name d = .ok (b, mt)

/-- The OCI content contract, on what `AddImage` reads of an image: the config digest is the
SHA-256 of the raw config, and each layer's digest is the SHA-256 of its compressed bytes. (That
every layer the manifest lists is one of the image's layers needs no assumption: a run in which
it fails has no table entry for the layer and fails in `convertIpfs`.) -/
structure Image.ContentContract (img : Image Bytes) : Prop where
  config_digest : ∀ cfg m, img.rawConfigFile = .ok cfg → img.manifest = .ok m →
    m.config.digest = (L.sha256 cfg).toHash
  layer_digest : ∀ ls, img.layers = .ok ls → ∀ l ∈ ls, ∀ b d, l.compressed = .ok b →
    l.digest = .ok d → d = (L.sha256 b).toHash

/-- The bytes `AddImage` reads of an image: the raw config and each layer's compressed bytes. -/
def Image.Blobs (img : Image Bytes) (b : Bytes) : Prop :=
  img.rawConfigFile = .ok b ∨ ∃ ls, img.layers = .ok ls ∧ ∃ l ∈ ls, l.compressed = .ok b

/-- SHA-256 has no collision among the image's own blobs. -/
def Image.CollisionFree (img : Image Bytes) : Prop :=
  ∀ b₁ b₂, img.Blobs b₁ → img.Blobs b₂ → (L.sha256 b₁).toHash = (L.sha256 b₂).toHash → b₁ = b₂

/-- Under the content contract, with no collision, layers that report one digest have the same
bytes. -/
theorem Image.ContentContract.agree {img : Image Bytes} (hC : img.ContentContract L)
    (hN : img.CollisionFree L) (ls : List (Layer Bytes)) (hls : img.layers = .ok ls) :
    LayersAgree ls := fun l₁ h₁ l₂ h₂ d b₁ b₂ e₁ e₂ f₁ f₂ =>
  hN b₁ b₂ (.inr ⟨ls, hls, l₁, h₁, f₁⟩) (.inr ⟨ls, hls, l₂, h₂, f₂⟩)
    ((hC.layer_digest ls hls l₁ h₁ b₁ d f₁ e₁).symm.trans (hC.layer_digest ls hls l₂ h₂ b₂ d f₂ e₂))

/-- **Same image, same root.** Two successful runs of `AddImage` on one image that keeps the
content contract and whose blobs SHA-256 tells apart, over two stores content-addressed by the
same `cidOf` and in any two completion orders, return the same root handle, and both stores end
up holding the same decorated manifest, index and outer wrapper records. -/
theorem addImage_root_eq {St₁ St₂ : Type} {S₁ : Unixfs St₁ Bytes Cid} {S₂ : Unixfs St₂ Bytes Cid}
    {u₁ u₂ : Cid} (hS₁ : S₁.ContentAddressed cidOf u₁) (hS₂ : S₂.ContentAddressed cidOf u₂)
    {img : Image Bytes} (hC : img.ContentContract L) (hN : img.CollisionFree L)
    {sched₁ sched₂ : Schedule (Layer Bytes)} {st₁ st₁' : St₁} {st₂ st₂' : St₂} {r₁ r₂ : Cid}
    (hrun₁ : addImage L S₁ st₁ img sched₁ = .ok (r₁, st₁'))
    (hrun₂ : addImage L S₂ st₂ img sched₂ = .ok (r₂, st₂')) :
    r₁ = r₂ ∧ ∃ m', r₁ = rootOf L cidOf m' ∧ Stores S₁ cidOf st₁' (records L cidOf m') ∧
      Stores S₂ cidOf st₂' (records L cidOf m') :=
  addImage_same_graph L cidOf hS₁ hS₂ (hC.agree L hN) hrun₁ hrun₂

namespace Toy

theorem rawImage_contract (c : Nat) (ns : List Nat) : (rawImage c ns).ContentContract lib where
  config_digest := by
    rintro cfg m ⟨⟩ ⟨⟩
    rfl
  layer_digest := by
    rintro ls ⟨⟩ l hl b d hb hd
    obtain ⟨n, -, rfl⟩ := List.mem_map.mp hl
    cases hb
    cases hd
    rfl

theorem rawImage_collisionFree : (rawImage 2 [3, 4]).CollisionFree lib := by
  have hblob : ∀ b, (rawImage 2 [3, 4]).Blobs b → b = .raw 2 ∨ b = .raw 3 ∨ b = .raw 4 := by
    rintro b (hb | ⟨ls, ⟨⟩, l, hl, hb⟩)
    · exact .inl (Except.ok.inj hb).symm
    · simp only [rawImage, List.map, List.mem_cons, List.mem_singleton, List.not_mem_nil,
        or_false] at hl
      rcases hl with rfl | rfl <;> cases hb <;> simp
  intro b₁ b₂ h₁ h₂ h
  rcases hblob b₁ h₁ with rfl | rfl | rfl <;> rcases hblob b₂ h₂ with rfl | rfl | rfl <;>
    first | rfl | exact absurd h (by decide)

theorem addImage_root_eq_twoLayers :
    (ingest (rawImage 2 [3, 4]) inOrder).1 = (ingest (rawImage 2 [3, 4]) reversed).1 ∧
      ∃ m', (ingest (rawImage 2 [3, 4]) inOrder).1 = rootOf lib Toy.cidOf m' ∧
        Stores unixfs Toy.cidOf (ingest (rawImage 2 [3, 4]) inOrder).2 (records lib Toy.cidOf m') ∧
        Stores unixfs Toy.cidOf (ingest (rawImage 2 [3, 4]) reversed).2 (records lib Toy.cidOf m') :=
  addImage_root_eq lib Toy.cidOf unixfs_contentAddressed unixfs_contentAddressed
    (rawImage_contract 2 [3, 4]) rawImage_collisionFree
    (rfl : addImage lib unixfs [] (rawImage 2 [3, 4]) inOrder =
      .ok ((ingest (rawImage 2 [3, 4]) inOrder).1, (ingest (rawImage 2 [3, 4]) inOrder).2))
    (rfl : addImage lib unixfs [] (rawImage 2 [3, 4]) reversed =
      .ok ((ingest (rawImage 2 [3, 4]) reversed).1, (ingest (rawImage 2 [3, 4]) reversed).2))

end Toy

theorem convertIpfs_ok {T : CidMap Cid} {m m' : Manifest} (h : convertIpfs L m T = .ok m') :
    m' = decorated L T m ∧ ∀ d ∈ m.config :: m.layers, (T.lookup d.digest).isSome := by
  rw [convertIpfs_eq] at h
  by_cases hc : missing T m.config
  · simp only [hc, if_true, reduceCtorEq] at h
  · simp only [hc, if_false, Bool.false_eq_true] at h
    cases hf : m.layers.find? (missing T) with
    | some d => simp only [hf, reduceCtorEq] at h
    | none =>
      simp only [hf, Except.ok.injEq] at h
      rw [List.find?_eq_none] at hf
      refine ⟨h.symm, fun d hd => ?_⟩
      rcases List.mem_cons.mp hd with rfl | hd
      · simpa [missing] using hc
      · simpa [missing] using hf d hd

/-! ### What the final table holds -/

section Table

variable {S cidOf} {undef : Cid} (hS : S.ContentAddressed cidOf undef)
include hS

/-- **A successful `AddImage`, as the walker sees it.** With `T` the final table (the layer
entries, then the config's), the root handle is that of the manifest decorated over `T`, the
three records are stored, the config digest's entry is the config, and each layer digest's entry
holds the bytes of a layer reporting that digest, or the config if the config has it. -/
theorem addImage_graph {st st' : St} {img : Image Bytes} {sched : Schedule (Layer Bytes)}
    {root : Cid} (hrun : addImage L S st img sched = .ok (root, st')) :
    ∃ ls cfg m T, img.layers = .ok ls ∧ img.rawConfigFile = .ok cfg ∧ img.manifest = .ok m ∧
      root = rootOf L cidOf (decorated L T m) ∧
      Stores S cidOf st' (records L cidOf (decorated L T m)) ∧
      T.lookup m.config.digest = some (cidOf cfg) ∧ S.get st' (cidOf cfg) = .ok (.file cfg) ∧
      ∀ d ∈ m.layers, ∃ b, T.lookup d.digest = some (cidOf b) ∧
        S.get st' (cidOf b) = .ok (.file b) ∧
        ((d.digest = m.config.digest ∧ b = cfg) ∨
          ∃ l ∈ ls, l.digest = .ok d.digest ∧ l.compressed = .ok b) := by
  obtain ⟨ls, T, st₁, cfg, m, m', hls, hw, hcfg, hm, hconv, rfl, hext, hst⟩ := addImage_ok L hS hrun
  obtain ⟨hsound, -, -⟩ := writeLayers_table hS hw
  obtain ⟨rfl, hcov⟩ := convertIpfs_ok L hconv
  have hgc := hst cfg (List.mem_cons_self _ _)
  refine ⟨ls, cfg, m, _, hls, hcfg, hm, rfl, fun b hb => hst b (List.mem_cons_of_mem _ hb),
    by simp, hgc, fun d hd => ?_⟩
  obtain ⟨c, hc⟩ := Option.isSome_iff_exists.mp (hcov d (List.mem_cons_of_mem _ hd))
  rw [CidMap.lookup_insert] at hc ⊢
  by_cases hdc : d.digest = m.config.digest
  · rw [if_pos hdc]
    exact ⟨cfg, rfl, hgc, .inl ⟨hdc, rfl⟩⟩
  · rw [if_neg hdc] at hc ⊢
    obtain ⟨l, hl, b, hd', hb, rfl, hgb⟩ := hsound d.digest c hc
    exact ⟨b, hc, hext _ _ hgb, .inr ⟨l, hl, hd', hb⟩⟩

end Table

/-! ### The walk over an ingested graph -/

section Walk

variable {S cidOf} (hL : L.Lawful) (hS : S.ContentAddressed cidOf L.undef)

/-- The three records of a stored graph open as files. -/
theorem openFile_records {m' : Manifest} {st : St} (hst : Stores S cidOf st (records L cidOf m')) :
    openFile (S.get st) (cidOf (L.marshalManifest m')) = .ok (L.marshalManifest m') ∧
      openFile (S.get st) (cidOf (L.marshalIndexManifest (indexOf L cidOf m'))) =
        .ok (L.marshalIndexManifest (indexOf L cidOf m')) ∧
      openFile (S.get st) (cidOf (L.marshalIpfsManifest (wrapperOf L cidOf m'))) =
        .ok (L.marshalIpfsManifest (wrapperOf L cidOf m')) :=
  ⟨openFile_of_get (hst _ (by simp [records])), openFile_of_get (hst _ (by simp [records])),
    openFile_of_get (hst _ (by simp [records]))⟩

include hL

theorem resolveCids_withLocator {T : CidMap Cid} {d : Descriptor} {c : Cid} (hc : c ≠ L.undef)
    (h : T.lookup d.digest = some c) :
    resolveCids L (withLocator L T d).toOci.urls = .ok (tableNode L T d).cid := by
  simp only [withLocator, Descriptor.toOci, tableNode, h, Option.toList_some, List.map_cons,
    List.map_nil, Option.getD_some]
  exact resolveCids_locator L hL hc

/-- The layer loop over decorated layers emits their table nodes. -/
theorem walkLayers_decorated (T : CidMap Cid) :
    ∀ (ds : List Descriptor) (acc : List (Node Cid)),
      (∀ d ∈ ds, ∃ c, c ≠ L.undef ∧ T.lookup d.digest = some c) →
      walkLayers L (fun ns n => .ok (ns ++ [n])) acc
          ((ds.map (withLocator L T)).map Descriptor.toOci) =
        .ok (acc ++ ds.map (tableNode L T))
  | [], acc, _ => by simp [walkLayers]
  | d :: ds, acc, h => by
    obtain ⟨c, hc, hl⟩ := h d (List.mem_cons_self d ds)
    simp only [List.map_cons, walkLayers, resolveCids_withLocator L hL hc hl, ok_bind]
    rw [walkLayers_decorated T ds _ fun d' hd' => h d' (List.mem_cons_of_mem d hd')]
    simp only [List.append_assoc, List.singleton_append]
    rfl

include hS

/-- The root handle's text decodes back to the root. -/
theorem cidDecode_rootOf (m' : Manifest) :
    L.cidDecode (L.cidString (rootOf L cidOf m')) = .ok (rootOf L cidOf m') :=
  hL.cidDecode_cidString _ (hS.cidOf_defined _)

/-- The outer wrapper's `step`: the index, with the wrapper's own media type. -/
theorem step_wrapperOf (m' : Manifest) :
    step L (L.marshalIpfsManifest (wrapperOf L cidOf m')) =
      .ok ⟨cidOf (L.marshalIndexManifest (indexOf L cidOf m')),
        (L.sha256 (L.marshalIndexManifest (indexOf L cidOf m'))).toHash.toString,
        ociImageIndex⟩ := by
  simp only [step, hL.decodeCatch_ipfsManifest, liftError_ok, ok_bind, pure_bind, wrapperOf,
    wrapperFor, IpfsManifest.toCatch, resolveCids_locator L hL (hS.cidOf_defined _), digestParse_sum256]
  rfl

/-- The index's `step`: the decorated manifest, with the index's own media type. -/
theorem step_indexOf (m' : Manifest) :
    step L (L.marshalIndexManifest (indexOf L cidOf m')) =
      .ok ⟨cidOf (L.marshalManifest m'), (L.sha256 (L.marshalManifest m')).toHash.toString,
        ociImageIndex⟩ := by
  simp only [step, hL.decodeCatch_indexManifest, liftError_ok, ok_bind, pure_bind, indexOf, indexFor,
    IndexManifest.toCatch, List.map, Descriptor.toCatchManifest,
    resolveCids_locator L hL (hS.cidOf_defined _), digestParse_sum256]
  rfl

/-- **The walk over an ingested graph.** When the table has an entry for the config and each
layer and the three records are stored, the walk from the root handle emits `ingestNodes`. -/
theorem walkNodes_ingested {T : CidMap Cid} {m : Manifest} {st : St}
    (hT : ∀ d ∈ m.config :: m.layers, ∃ b, T.lookup d.digest = some (cidOf b))
    (hst : Stores S cidOf st (records L cidOf (decorated L T m))) :
    walkNodes L (S.get st) (rootOf L cidOf (decorated L T m)) = .ok (ingestNodes L cidOf T m) := by
  have hc : ∀ d ∈ m.config :: m.layers, ∃ c, c ≠ L.undef ∧ T.lookup d.digest = some c := by
    intro d hd
    obtain ⟨b, hb⟩ := hT d hd
    exact ⟨cidOf b, hS.cidOf_defined b, hb⟩
  obtain ⟨c, hcu, hcl⟩ := hc m.config (List.mem_cons_self _ _)
  obtain ⟨hM, hI, hW⟩ := openFile_records L hst
  simp only [walkNodes, walk, rootOf, hW, ok_bind, step_wrapperOf L hL hS, dropStepError,
    walkIndex, hI, step_indexOf L hL hS, hM, hL.decodeManifest_manifest, liftError_ok,
    decorated_toOci, resolveCids_withLocator L hL hcu hcl,
    walkLayers_decorated L hL T m.layers _ fun d hd => hc d (List.mem_cons_of_mem _ hd)]
  rfl

/-- `ReadManifest(root, "latest")` on an ingested graph: the index, with the outer wrapper's
media type. -/
theorem readManifest_latest_ingested {m' : Manifest} {st : St}
    (hst : Stores S cidOf st (records L cidOf m')) :
    readManifest L (S.get st) (L.cidString (rootOf L cidOf m')) "latest" =
      .ok (L.marshalIndexManifest (indexOf L cidOf m'), ociImageIndex) := by
  obtain ⟨-, hI, hW⟩ := openFile_records L hst
  simp only [readManifest, rootOf, hL.cidDecode_cidString _ (hS.cidOf_defined _), liftError_ok,
    ok_bind, if_true, hW, step_wrapperOf L hL hS, hI]
  rfl

end Walk

/-! ### What a read returns -/

section Read

variable {get : StoreView Bytes Cid} {name : String} {rootc : Cid} {ns : List (Node Cid)}

theorem serves_of_lastMatch {d : String} {n : Node Cid} {b : Bytes} {s : Sum256}
    (hname : L.cidDecode name = .ok rootc) (hwalk : walkNodes L get rootc = .ok ns)
    (hlast : lastMatch d ns = some n) (hget : get n.cid = .ok (.file b)) (hd : d = s.toHash.toString) :
    Serves L get name d b n.mediaType := by
  have hrb := readBlob_of_lastMatch L hname hwalk hlast hget
  refine ⟨hrb, ?_⟩
  subst hd
  rw [readManifest_of_digest L hname (digestParse_sum256 s) (Sum256.toString_ne_latest s), hrb]

/-- A walk whose every node holds bytes of the node's digest serves each of its digests with
bytes of that digest. -/
theorem serves_of_mem (hname : L.cidDecode name = .ok rootc) (hwalk : walkNodes L get rootc = .ok ns)
    (hhold : ∀ n ∈ ns, ∃ b, get n.cid = .ok (.file b) ∧ (L.sha256 b).toHash.toString = n.digest)
    {n₀ : Node Cid} (hn₀ : n₀ ∈ ns) :
    ∃ b mt, Serves L get name n₀.digest b mt ∧ (L.sha256 b).toHash.toString = n₀.digest := by
  obtain ⟨n, hlast⟩ := lastMatch_isSome hn₀ rfl
  obtain ⟨hn, hd⟩ := lastMatch_spec hlast
  obtain ⟨b, hgb, hb⟩ := hhold n hn
  exact ⟨b, n.mediaType, serves_of_lastMatch L hname hwalk hlast hgb (hd.trans hb.symm),
    hd.trans hb.symm |>.symm⟩

/-- The last table node of a digest is one whose descriptor has that digest, when every
descriptor's digest is a SHA-256 sum. -/
theorem lastMatch_tableNodes (T : CidMap Cid) (pre : List (Node Cid)) {ds : List Descriptor}
    {d : Descriptor} (hd : d ∈ ds) (hsum : ∀ x ∈ ds, ∃ s : Sum256, x.digest = s.toHash) :
    ∃ x ∈ ds, x.digest = d.digest ∧
      lastMatch d.digest.toString (pre ++ ds.map (tableNode L T)) = some (tableNode L T x) := by
  have hmem : tableNode L T d ∈ ds.map (tableNode L T) := List.mem_map_of_mem _ hd
  obtain ⟨n, hlast⟩ := lastMatch_isSome hmem rfl
  obtain ⟨hn, hdn⟩ := lastMatch_spec hlast
  obtain ⟨x, hx, rfl⟩ := List.mem_map.mp hn
  obtain ⟨s, hs⟩ := hsum x hx
  obtain ⟨t, ht⟩ := hsum d hd
  have hst : t.toHash.toString = s.toHash.toString := by simpa [tableNode, hs, ht] using hdn
  exact ⟨x, hx, by rw [hs, ht, Sum256.toHash_inj_of_toString hst.symm],
    (lastMatch_append hmem rfl).trans hlast⟩

/-- A descriptor's digest is served with the bytes its table entry holds, whichever of the
descriptors with that digest the walk meets last. -/
theorem serves_of_entry {T : CidMap Cid} {m : Manifest} (hname : L.cidDecode name = .ok rootc)
    (hwalk : walkNodes L get rootc = .ok (ingestNodes L cidOf T m))
    (hsum : ∀ x ∈ m.config :: m.layers, ∃ s : Sum256, x.digest = s.toHash)
    {d : Descriptor} (hd : d ∈ m.config :: m.layers) {c : Cid} {b : Bytes}
    (hc : T.lookup d.digest = some c) (hget : get c = .ok (.file b)) :
    ∃ mt, Serves L get name d.digest.toString b mt := by
  obtain ⟨x, -, hxd, hlast⟩ := lastMatch_tableNodes L T ((ingestNodes L cidOf T m).take 2) hd hsum
  obtain ⟨s, hs⟩ := hsum d hd
  exact ⟨_, serves_of_lastMatch L hname hwalk hlast
    (by rw [tableNode_cid L (hxd ▸ hc)]; exact hget) (by rw [hs])⟩

/-- Every digest the round trip names is a SHA-256 sum that some node of the walk carries. -/
theorem graphDigest_mem {T : CidMap Cid} {m : Manifest}
    (hsum : ∀ x ∈ m.config :: m.layers, ∃ s : Sum256, x.digest = s.toHash) {h : Hash}
    (hh : h ∈ (wrapperOf L cidOf (decorated L T m)).digest ::
        (L.sha256 (L.marshalManifest (decorated L T m))).toHash :: m.config.digest ::
          m.layers.map (·.digest)) :
    (∃ n ∈ ingestNodes L cidOf T m, n.digest = h.toString) ∧ ∃ s : Sum256, h = s.toHash := by
  change h ∈ _ :: _ :: (m.config :: m.layers).map (·.digest) at hh
  rcases List.mem_cons.mp hh with rfl | hh
  · exact ⟨⟨_, List.mem_cons_self _ _, rfl⟩, _, rfl⟩
  rcases List.mem_cons.mp hh with rfl | hh
  · exact ⟨⟨_, List.mem_cons_of_mem _ (List.mem_cons_self _ _), rfl⟩, _, rfl⟩
  obtain ⟨x, hx, rfl⟩ := List.mem_map.mp hh
  exact ⟨⟨tableNode L T x, List.mem_cons_of_mem _ (List.mem_cons_of_mem _
    (List.mem_map_of_mem _ hx)), rfl⟩, hsum x hx⟩

/-- Every node of the walk over an ingested graph carries one of the graph's digests. -/
theorem ingestNodes_digest {T : CidMap Cid} {m : Manifest} {n : Node Cid}
    (hn : n ∈ ingestNodes L cidOf T m) :
    ∃ h ∈ (wrapperOf L cidOf (decorated L T m)).digest ::
        (L.sha256 (L.marshalManifest (decorated L T m))).toHash :: m.config.digest ::
          m.layers.map (·.digest), n.digest = h.toString := by
  rcases List.mem_cons.mp hn with rfl | hn
  · exact ⟨_, List.mem_cons_self _ _, rfl⟩
  rcases List.mem_cons.mp hn with rfl | hn
  · exact ⟨_, List.mem_cons_of_mem _ (List.mem_cons_self _ _), rfl⟩
  obtain ⟨x, hx, rfl⟩ := List.mem_map.mp hn
  exact ⟨x.digest, List.mem_cons_of_mem _ (List.mem_cons_of_mem _
    (List.mem_map_of_mem (·.digest) hx)), rfl⟩

end Read

/-! ### The entries under the content contract -/

section Entries

variable {S cidOf} {img : Image Bytes} {st' : St} {ls : List (Layer Bytes)} {cfg : Bytes}
  {m : Manifest} {T : CidMap Cid}

/-- Under the content contract every entry of the final table that a descriptor of the manifest
finds holds bytes whose SHA-256 is the descriptor's digest. -/
theorem entries_sha256 (hC : img.ContentContract L) (hls : img.layers = .ok ls)
    (hcfg : img.rawConfigFile = .ok cfg) (hm : img.manifest = .ok m)
    (hcl : T.lookup m.config.digest = some (cidOf cfg)) (hgc : S.get st' (cidOf cfg) = .ok (.file cfg))
    (hlayers : ∀ d ∈ m.layers, ∃ b, T.lookup d.digest = some (cidOf b) ∧
      S.get st' (cidOf b) = .ok (.file b) ∧
      ((d.digest = m.config.digest ∧ b = cfg) ∨
        ∃ l ∈ ls, l.digest = .ok d.digest ∧ l.compressed = .ok b)) :
    ∀ d ∈ m.config :: m.layers, ∃ b, T.lookup d.digest = some (cidOf b) ∧
      S.get st' (cidOf b) = .ok (.file b) ∧ d.digest = (L.sha256 b).toHash := by
  have hcd := hC.config_digest cfg m hcfg hm
  intro d hd
  rcases List.mem_cons.mp hd with rfl | hd
  · exact ⟨cfg, hcl, hgc, hcd⟩
  obtain ⟨b, hlb, hgb, hsrc⟩ := hlayers d hd
  refine ⟨b, hlb, hgb, ?_⟩
  rcases hsrc with ⟨hdc, rfl⟩ | ⟨l, hl, hld, hlb'⟩
  · exact hdc.trans hcd
  · exact hC.layer_digest ls hls l hl b _ hlb' hld

/-- Every node of the walk over an ingested graph holds bytes whose SHA-256 is its digest. -/
theorem ingestNodes_hold
    (hE : ∀ d ∈ m.config :: m.layers, ∃ b, T.lookup d.digest = some (cidOf b) ∧
      S.get st' (cidOf b) = .ok (.file b) ∧ d.digest = (L.sha256 b).toHash)
    (hst : Stores S cidOf st' (records L cidOf (decorated L T m))) :
    ∀ n ∈ ingestNodes L cidOf T m,
      ∃ b, S.get st' n.cid = .ok (.file b) ∧ (L.sha256 b).toHash.toString = n.digest := by
  intro n hn
  rcases List.mem_cons.mp hn with rfl | hn
  · exact ⟨_, hst _ (by simp [records]), rfl⟩
  rcases List.mem_cons.mp hn with rfl | hn
  · exact ⟨_, hst _ (by simp [records]), rfl⟩
  obtain ⟨x, hx, rfl⟩ := List.mem_map.mp hn
  obtain ⟨b, hb, hgb, hxb⟩ := hE x hx
  exact ⟨b, by rw [tableNode_cid L hb]; exact hgb, by rw [← hxb]; rfl⟩

end Entries

/-! ### The pointers of an ingested graph

Every record `AddImage` writes above the blobs points at the next level with a descriptor: the
outer wrapper at the index, the index's one entry at the decorated manifest, and the manifest at
the config and the layers. Each such pointer has exactly one locator, and it names content of the
pointer's digest that the store holds. -/

/-- The pointers of the graph over the decorated manifest `m'`, as digest and locators: the outer
wrapper's, the index's entry, the config's and each layer's. -/
def pointers (m' : Manifest) : List (Hash × List String) :=
  ((wrapperOf L cidOf m').digest, (wrapperOf L cidOf m').urls) ::
    ((indexOf L cidOf m').manifests ++ m'.config :: m'.layers).map fun d => (d.digest, d.urls)

/-- A pointer is sound in `st`: one locator, to a CID at which `st` holds content whose SHA-256
is the pointer's digest. -/
def PointerSound (st : St) (p : Hash × List String) : Prop :=
  ∃ b, p.2 = [L.locator (cidOf b)] ∧ S.get st (cidOf b) = .ok (.file b) ∧ (L.sha256 b).toHash = p.1

section Pointers

variable {S cidOf}

/-- **Every pointer of an ingested graph has one locator, to its content.** After a successful
`AddImage` of an image that keeps the content contract, over a content-addressed store, the root
handle is the outer wrapper's CID, and every pointer of the graph below it is sound. -/
theorem addImage_pointers {undef : Cid} (hS : S.ContentAddressed cidOf undef)
    {img : Image Bytes} {st st' : St} {sched : Schedule (Layer Bytes)} {root : Cid}
    (hC : img.ContentContract L) (hrun : addImage L S st img sched = .ok (root, st')) :
    ∃ m', root = rootOf L cidOf m' ∧ ∀ p ∈ pointers L cidOf m', PointerSound L S cidOf st' p := by
  obtain ⟨ls, cfg, m, T, hls, hcfg, hm, rfl, hst, hcl, hgc, hlayers⟩ := addImage_graph L hS hrun
  have hE := entries_sha256 L hC hls hcfg hm hcl hgc hlayers
  refine ⟨decorated L T m, rfl, fun p hp => ?_⟩
  rcases List.mem_cons.mp hp with rfl | hp
  · exact ⟨_, rfl, hst _ (by simp [records]), rfl⟩
  obtain ⟨d, hd, rfl⟩ := List.mem_map.mp hp
  rcases List.mem_append.mp hd with hd | hd
  -- the index's entry
  · simp only [indexOf, indexFor, List.mem_singleton] at hd
    subst hd
    exact ⟨_, rfl, hst _ (by simp [records]), rfl⟩
  -- the config and the layers, decorated over the final table
  · obtain ⟨x, hx, rfl⟩ := List.mem_map.mp (show d ∈ (m.config :: m.layers).map (withLocator L T) from hd)
    obtain ⟨b, hb, hgb, hxb⟩ := hE x hx
    exact ⟨b, by simp [withLocator, hb, Lib.locator], hgb, hxb.symm⟩

theorem Toy.addImage_pointers_rawImage :
    ∃ m', (Toy.ingest (Toy.rawImage 2 [3, 4]) Toy.inOrder).1 = rootOf Toy.lib Toy.cidOf m' ∧
      ∀ p ∈ pointers Toy.lib Toy.cidOf m',
        PointerSound Toy.lib Toy.unixfs Toy.cidOf (Toy.ingest (Toy.rawImage 2 [3, 4]) Toy.inOrder).2 p :=
  addImage_pointers Toy.lib Toy.unixfs_contentAddressed (Toy.rawImage_contract 2 [3, 4])
    (rfl : addImage Toy.lib Toy.unixfs [] (Toy.rawImage 2 [3, 4]) Toy.inOrder =
      .ok ((Toy.ingest (Toy.rawImage 2 [3, 4]) Toy.inOrder).1,
        (Toy.ingest (Toy.rawImage 2 [3, 4]) Toy.inOrder).2))

end Pointers

/-! ### Round trip -/

section RoundTrip

variable {S cidOf} (hL : L.Lawful) (hS : S.ContentAddressed cidOf L.undef)
  {img : Image Bytes} {st st' : St} {sched : Schedule (Layer Bytes)} {root : Cid}
include hL hS

/-- Every digest of the graph a run wrote is served, with bytes whose SHA-256 it is. -/
theorem graph_served {T : CidMap Cid} {m : Manifest}
    (hE : ∀ d ∈ m.config :: m.layers, ∃ b, T.lookup d.digest = some (cidOf b) ∧
      S.get st' (cidOf b) = .ok (.file b) ∧ d.digest = (L.sha256 b).toHash)
    (hst : Stores S cidOf st' (records L cidOf (decorated L T m))) :
    ∀ h ∈ (wrapperOf L cidOf (decorated L T m)).digest ::
        (L.sha256 (L.marshalManifest (decorated L T m))).toHash :: m.config.digest ::
          m.layers.map (·.digest),
      ∃ b mt, Serves L (S.get st') (L.cidString (rootOf L cidOf (decorated L T m))) h.toString b mt ∧
        (L.sha256 b).toHash = h := by
  have hsum : ∀ x ∈ m.config :: m.layers, ∃ s : Sum256, x.digest = s.toHash := fun x hx =>
    let ⟨_, _, _, h⟩ := hE x hx
    ⟨_, h⟩
  have hwalk := walkNodes_ingested L hL hS (fun d hd => (hE d hd).imp fun _ hb => hb.1) hst
  have hname := cidDecode_rootOf L hL hS (decorated L T m)
  intro h hh
  obtain ⟨⟨n, hn, hnd⟩, s, rfl⟩ := graphDigest_mem L cidOf hsum hh
  obtain ⟨b, mt, hserve, hb⟩ := serves_of_mem L hname hwalk (ingestNodes_hold L hE hst) hn
  rw [hnd] at hserve hb
  exact ⟨b, mt, hserve, Sum256.toHash_inj_of_toString hb⟩

/-- **Reading back an ingested image.** After a successful `AddImage` of an image that keeps
the content contract and whose blobs SHA-256 tells apart, over a content-addressed store, with
`c` the root handle's text: `ReadManifest(c, "latest")` returns the index the outer wrapper at
the root points at, whose SHA-256 the wrapper records; every digest of the graph (the index's,
the decorated manifest's, the config's and each layer's) is served by `ReadBlob` and
`ReadManifest` alike, with bytes whose SHA-256 it is; the config digest serves the raw config;
and a layer digest serves the compressed bytes of every layer reporting it. -/
theorem addImage_readBack (hC : img.ContentContract L) (hN : img.CollisionFree L)
    (hrun : addImage L S st img sched = .ok (root, st')) :
    ∃ ls cfg m m', img.layers = .ok ls ∧ img.rawConfigFile = .ok cfg ∧ img.manifest = .ok m ∧
      root = rootOf L cidOf m' ∧
      S.get st' root = .ok (.file (L.marshalIpfsManifest (wrapperOf L cidOf m'))) ∧
      readManifest L (S.get st') (L.cidString root) "latest" =
        .ok (L.marshalIndexManifest (indexOf L cidOf m'), ociImageIndex) ∧
      (L.sha256 (L.marshalIndexManifest (indexOf L cidOf m'))).toHash =
        (wrapperOf L cidOf m').digest ∧
      (∀ h ∈ (wrapperOf L cidOf m').digest :: (L.sha256 (L.marshalManifest m')).toHash ::
          m.config.digest :: m.layers.map (·.digest),
        ∃ b mt, Serves L (S.get st') (L.cidString root) h.toString b mt ∧
          (L.sha256 b).toHash = h) ∧
      (∃ mt, Serves L (S.get st') (L.cidString root) m.config.digest.toString cfg mt) ∧
      ∀ d ∈ m.layers, ∀ l ∈ ls, l.digest = .ok d.digest → ∀ b, l.compressed = .ok b →
        ∃ mt, Serves L (S.get st') (L.cidString root) d.digest.toString b mt := by
  obtain ⟨ls, cfg, m, T, hls, hcfg, hm, rfl, hst, hcl, hgc, hlayers⟩ := addImage_graph L hS hrun
  have hE := entries_sha256 L hC hls hcfg hm hcl hgc hlayers
  have hsum : ∀ x ∈ m.config :: m.layers, ∃ s : Sum256, x.digest = s.toHash := fun x hx =>
    let ⟨_, _, _, h⟩ := hE x hx
    ⟨_, h⟩
  have hwalk := walkNodes_ingested L hL hS (fun d hd => (hE d hd).imp fun _ hb => hb.1) hst
  have hname := cidDecode_rootOf L hL hS (decorated L T m)
  refine ⟨ls, cfg, m, decorated L T m, hls, hcfg, hm, rfl, hst _ (by simp [records]),
    readManifest_latest_ingested L hL hS hst, rfl, graph_served L hL hS hE hst,
    serves_of_entry L cidOf hname hwalk hsum (List.mem_cons_self _ _) hcl hgc,
    fun d hd l hl hld b hb => ?_⟩
  -- a layer digest: its entry holds the bytes of the config or of a layer with that digest,
  -- which are `b` when SHA-256 tells the image's blobs apart
  obtain ⟨b', hlb, hgb, hsrc⟩ := hlayers d hd
  obtain ⟨mt, hserve⟩ :=
    serves_of_entry L cidOf hname hwalk hsum (List.mem_cons_of_mem _ hd) hlb hgb
  have hbb : b' = b := by
    rcases hsrc with ⟨hdc, rfl⟩ | ⟨l', hl', hd', hb'⟩
    · refine hN _ _ (.inl hcfg) (.inr ⟨ls, hls, l, hl, hb⟩) ?_
      calc (L.sha256 b').toHash = m.config.digest := (hC.config_digest _ _ hcfg hm).symm
        _ = d.digest := hdc.symm
        _ = (L.sha256 b).toHash := hC.layer_digest ls hls l hl b _ hb hld
    · exact hC.agree L hN ls hls l' hl' l hl _ b' b hd' hld hb' hb
  exact ⟨mt, hbb ▸ hserve⟩

/-- The walk from the root handle of a successful run emits `ingestNodes`, and the root
handle's text decodes back to it. -/
theorem addImage_walk (hrun : addImage L S st img sched = .ok (root, st')) :
    ∃ m T, img.manifest = .ok m ∧ root = rootOf L cidOf (decorated L T m) ∧
      Stores S cidOf st' (records L cidOf (decorated L T m)) ∧
      L.cidDecode (L.cidString root) = .ok root ∧
      walkNodes L (S.get st') root = .ok (ingestNodes L cidOf T m) := by
  obtain ⟨_, cfg, m, T, -, -, hm, rfl, hst, hcl, -, hlayers⟩ := addImage_graph L hS hrun
  refine ⟨m, T, hm, rfl, hst, cidDecode_rootOf L hL hS _,
    walkNodes_ingested L hL hS (fun d hd => ?_) hst⟩
  exact (List.mem_cons.mp hd).elim (fun h => ⟨cfg, h ▸ hcl⟩) fun hd => (hlayers d hd).imp fun _ h => h.1

/-- After a successful `AddImage`, `ReadBlob` of a digest string that is none of the graph's
digests reports it not found, and `ReadManifest` of it, unless it is `latest`, fails without a
panic. -/
theorem addImage_not_found (hrun : addImage L S st img sched = .ok (root, st')) :
    ∃ m m', img.manifest = .ok m ∧ root = rootOf L cidOf m' ∧
      Stores S cidOf st' (records L cidOf m') ∧ ∀ d : String,
      (∀ h ∈ (wrapperOf L cidOf m').digest :: (L.sha256 (L.marshalManifest m')).toHash ::
          m.config.digest :: m.layers.map (·.digest), h.toString ≠ d) →
      readBlob L (S.get st') (L.cidString root) d =
        .error (.error ("didn\x27t find desired digest " ++ d)) ∧
      (d ≠ "latest" → ∃ e, readManifest L (S.get st') (L.cidString root) d = .error (.error e)) := by
  obtain ⟨m, T, hm, rfl, hst, hname, hwalk⟩ := addImage_walk L hL hS hrun
  refine ⟨m, decorated L T m, hm, rfl, hst, fun d hd => ?_⟩
  have hblob := readBlob_of_lastMatch_none L hname hwalk (lastMatch_eq_none fun n hn hdn => by
    obtain ⟨h, hh, hnh⟩ := ingestNodes_digest L cidOf hn
    exact hd h hh (hnh ▸ hdn).symm)
  refine ⟨hblob, fun hl => ?_⟩
  cases hp : digestParse d with
  | error e => exact ⟨_, by simp [readManifest, hname, hl, hp]; rfl⟩
  | ok d' =>
    obtain rfl := eq_of_digestParse hp
    exact ⟨_, (readManifest_of_digest L hname hp hl).trans hblob⟩

/-- What a successful `AddImage` leaves for a reader, in the terms of the root handle alone:
`ReadManifest(c, "latest")` returns the index, and every digest of the graph is served with
bytes whose SHA-256 it is. -/
theorem addImage_served (hC : img.ContentContract L)
    (hrun : addImage L S st img sched = .ok (root, st')) :
    ∃ m m', img.manifest = .ok m ∧ root = rootOf L cidOf m' ∧
      Stores S cidOf st' (records L cidOf m') ∧
      readManifest L (S.get st') (L.cidString root) "latest" =
        .ok (L.marshalIndexManifest (indexOf L cidOf m'), ociImageIndex) ∧
      ∀ h ∈ (wrapperOf L cidOf m').digest :: (L.sha256 (L.marshalManifest m')).toHash ::
          m.config.digest :: m.layers.map (·.digest),
        ∃ b mt, Serves L (S.get st') (L.cidString root) h.toString b mt ∧ (L.sha256 b).toHash = h := by
  obtain ⟨ls, cfg, m, T, hls, hcfg, hm, rfl, hst, hcl, hgc, hlayers⟩ := addImage_graph L hS hrun
  exact ⟨m, decorated L T m, hm, rfl, hst, readManifest_latest_ingested L hL hS hst,
    graph_served L hL hS (entries_sha256 L hC hls hcfg hm hcl hgc hlayers) hst⟩

end RoundTrip

namespace Toy

theorem addImage_readBack_rawImage :
    ∃ ls cfg m m', (rawImage 2 [3, 4]).layers = .ok ls ∧
      (rawImage 2 [3, 4]).rawConfigFile = .ok cfg ∧ (rawImage 2 [3, 4]).manifest = .ok m ∧
      (ingest (rawImage 2 [3, 4]) inOrder).1 = rootOf lib Toy.cidOf m' ∧
      get (ingest (rawImage 2 [3, 4]) inOrder).2 (ingest (rawImage 2 [3, 4]) inOrder).1 =
        .ok (.file (lib.marshalIpfsManifest (wrapperOf lib Toy.cidOf m'))) ∧
      readManifest lib (get (ingest (rawImage 2 [3, 4]) inOrder).2)
          (cidString (ingest (rawImage 2 [3, 4]) inOrder).1) "latest" =
        .ok (lib.marshalIndexManifest (indexOf lib Toy.cidOf m'), ociImageIndex) ∧
      (lib.sha256 (lib.marshalIndexManifest (indexOf lib Toy.cidOf m'))).toHash =
        (wrapperOf lib Toy.cidOf m').digest ∧
      (∀ h ∈ (wrapperOf lib Toy.cidOf m').digest ::
          (lib.sha256 (lib.marshalManifest m')).toHash :: m.config.digest ::
            m.layers.map (·.digest),
        ∃ b mt, Serves lib (get (ingest (rawImage 2 [3, 4]) inOrder).2)
          (cidString (ingest (rawImage 2 [3, 4]) inOrder).1) h.toString b mt ∧
          (lib.sha256 b).toHash = h) ∧
      (∃ mt, Serves lib (get (ingest (rawImage 2 [3, 4]) inOrder).2)
        (cidString (ingest (rawImage 2 [3, 4]) inOrder).1) m.config.digest.toString cfg mt) ∧
      ∀ d ∈ m.layers, ∀ l ∈ ls, l.digest = .ok d.digest → ∀ b, l.compressed = .ok b →
        ∃ mt, Serves lib (get (ingest (rawImage 2 [3, 4]) inOrder).2)
          (cidString (ingest (rawImage 2 [3, 4]) inOrder).1) d.digest.toString b mt :=
  addImage_readBack lib lib_lawful unixfs_contentAddressed (rawImage_contract 2 [3, 4])
    rawImage_collisionFree
    (rfl : addImage lib unixfs [] (rawImage 2 [3, 4]) inOrder =
      .ok ((ingest (rawImage 2 [3, 4]) inOrder).1, (ingest (rawImage 2 [3, 4]) inOrder).2))

end Toy

section ManifestType

variable {S cidOf} (hL : L.Lawful) (hS : S.ContentAddressed cidOf L.undef)
  {img : Image Bytes} {st st' : St} {sched : Schedule (Layer Bytes)} {root : Cid}
include hL hS

/-- **The manifest node carries the index's media type.** After a successful `AddImage`, the
index entry that points at the decorated manifest carries the image manifest's media type, but
the walk emits the manifest node with the media type of the index record it decoded,
`ociImageIndex`; the config and the layers carry their descriptors' own. So, unless a config or
layer digest prints as the decorated manifest's digest, `ReadBlob` and `ReadManifest` of that
digest return the manifest's bytes with the index media type. -/
theorem addImage_manifest_mediaType (hrun : addImage L S st img sched = .ok (root, st')) :
    ∃ m m', img.manifest = .ok m ∧ root = rootOf L cidOf m' ∧
      (indexOf L cidOf m').manifests.map (·.mediaType) = [m.mediaType] ∧
      (∃ ns, walkNodes L (S.get st') root = .ok ns ∧
        ns.map (·.mediaType) =
          ociImageIndex :: ociImageIndex :: (m.config :: m.layers).map (·.mediaType)) ∧
      ((∀ d ∈ m.config :: m.layers,
          d.digest.toString ≠ (L.sha256 (L.marshalManifest m')).toHash.toString) →
        Serves L (S.get st') (L.cidString root) (L.sha256 (L.marshalManifest m')).toHash.toString
          (L.marshalManifest m') ociImageIndex) := by
  obtain ⟨m, T, hm, rfl, hst, hname, hwalk⟩ := addImage_walk L hL hS hrun
  refine ⟨m, decorated L T m, hm, rfl, rfl, ⟨_, hwalk, by simp [ingestNodes, tableNode]⟩,
    fun hne => ?_⟩
  have hlast : lastMatch (L.sha256 (L.marshalManifest (decorated L T m))).toHash.toString
      (ingestNodes L cidOf T m) = some ⟨cidOf (L.marshalManifest (decorated L T m)),
        (L.sha256 (L.marshalManifest (decorated L T m))).toHash.toString, ociImageIndex⟩ := by
    show lastMatch _ ([_] ++ (_ :: (m.config :: m.layers).map (tableNode L T))) = _
    refine (lastMatch_append (List.mem_cons_self _ _) ?_).trans
      (lastMatch_cons_of_unique rfl fun n hn => ?_)
    · rfl
    obtain ⟨x, hx, rfl⟩ := List.mem_map.mp hn
    exact (hne x hx).symm
  exact serves_of_lastMatch L hname hwalk hlast (hst _ (List.mem_cons_self _ _)) rfl

end ManifestType

namespace Toy

/-- The sample image's manifest is an image manifest, and its node comes back as an index. -/
theorem addImage_manifest_mediaType_rawImage :
    (rawImage 2 [3, 4]).manifest.map (·.mediaType) = .ok manifestType ∧
    ∃ m m', (rawImage 2 [3, 4]).manifest = .ok m ∧
      (ingest (rawImage 2 [3, 4]) inOrder).1 = rootOf lib Toy.cidOf m' ∧
      (indexOf lib Toy.cidOf m').manifests.map (·.mediaType) = [m.mediaType] ∧
      (∃ ns, walkNodes lib (get (ingest (rawImage 2 [3, 4]) inOrder).2)
          (ingest (rawImage 2 [3, 4]) inOrder).1 = .ok ns ∧
        ns.map (·.mediaType) =
          ociImageIndex :: ociImageIndex :: (m.config :: m.layers).map (·.mediaType)) ∧
      ((∀ d ∈ m.config :: m.layers,
          d.digest.toString ≠ (lib.sha256 (lib.marshalManifest m')).toHash.toString) →
        Serves lib (get (ingest (rawImage 2 [3, 4]) inOrder).2)
          (cidString (ingest (rawImage 2 [3, 4]) inOrder).1)
          (lib.sha256 (lib.marshalManifest m')).toHash.toString (lib.marshalManifest m')
          ociImageIndex) :=
  ⟨rfl, addImage_manifest_mediaType lib lib_lawful unixfs_contentAddressed
    (rfl : addImage lib unixfs [] (rawImage 2 [3, 4]) inOrder =
      .ok ((ingest (rawImage 2 [3, 4]) inOrder).1, (ingest (rawImage 2 [3, 4]) inOrder).2))⟩

end Toy

end Ripfs
