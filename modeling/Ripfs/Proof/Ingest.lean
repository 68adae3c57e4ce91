import Ripfs.Toy

/-!
# What `AddImage` writes

Over a content-addressed store every CID `AddImage` obtains is `cidOf` of the bytes it added, so
a successful run is determined by three things: the image, the digest-to-CID table the layer
writes leave behind, and `cidOf`. The table is the only place the completion order of the layer
writes shows: two layers with one digest race for its entry, and the last to complete wins.

This module proves what each step of a run leaves in the store (`Extends`, `TableSound`,
`TableCovers`), takes a successful `AddImage` apart into the records it wrote (`addImage_ok`),
and from that shows the root handle depends on the image alone once layers with one digest have
the same bytes.
-/

namespace Ripfs

variable {Bytes Cid St : Type} (L : Lib Bytes Cid) (S : Unixfs St Bytes Cid) (cidOf : Bytes → Cid)

/-- Everything readable in `st` reads the same in `st'`. -/
def Extends (st st' : St) : Prop := ∀ c n, S.get st c = .ok n → S.get st' c = .ok n

theorem Extends.refl (st : St) : Extends S st st := fun _ _ h => h

theorem Extends.trans {st₁ st₂ st₃ : St} (h₁ : Extends S st₁ st₂) (h₂ : Extends S st₂ st₃) :
    Extends S st₁ st₃ := fun c n h => h₂ c n (h₁ c n h)

/-- Each of `bs` reads back from `st` at its CID. -/
def Stores (st : St) (bs : List Bytes) : Prop := ∀ b ∈ bs, S.get st (cidOf b) = .ok (.file b)

/-- Each entry of the table is the CID of a layer of `ls` with that digest, readable in `st`. -/
def TableSound (ls : List (Layer Bytes)) (st : St) (T : CidMap Cid) : Prop :=
  ∀ d c, T.lookup d = some c → ∃ l ∈ ls, ∃ b, l.digest = .ok d ∧ l.compressed = .ok b ∧
    c = cidOf b ∧ S.get st c = .ok (.file b)

/-- Every digest a layer of `ls` reports has an entry in the table. -/
def TableCovers (ls : List (Layer Bytes)) (T : CidMap Cid) : Prop :=
  ∀ l ∈ ls, ∀ d, l.digest = .ok d → (T.lookup d).isSome

/-! ### The records over the decorated manifest

Over a content-addressed store the index and the outer wrapper `AddImage` writes are functions
of the decorated manifest `m'`, and so is the root handle. -/

section Records

/-- The single-entry index `AddImage` writes over the decorated manifest. -/
def indexOf (m' : Manifest) : IndexManifest :=
  indexFor L m'.mediaType (cidOf (L.marshalManifest m')) (L.sha256 (L.marshalManifest m')).toHash
    (L.length (L.marshalManifest m'))

/-- The outer wrapper `AddImage` writes over the decorated manifest. -/
def wrapperOf (m' : Manifest) : IpfsManifest :=
  let ib := L.marshalIndexManifest (indexOf L cidOf m')
  wrapperFor L (cidOf ib) (L.sha256 ib).toHash (L.length ib)

/-- The root handle: the outer wrapper's CID. -/
def rootOf (m' : Manifest) : Cid := cidOf (L.marshalIpfsManifest (wrapperOf L cidOf m'))

/-- The bytes of the three records `AddImage` writes after the config. -/
def records (m' : Manifest) : List Bytes :=
  [L.marshalManifest m', L.marshalIndexManifest (indexOf L cidOf m'),
   L.marshalIpfsManifest (wrapperOf L cidOf m')]

end Records

/-- One layer write, taken apart: it read the layer's bytes and digest, added the bytes, and
entered the CID under the digest. -/
theorem writeLayer_ok {l : Layer Bytes} {T T' : CidMap Cid} {st st' : St}
    (hw : writeLayer S (T, st) l = .ok (T', st')) :
    ∃ b d c, l.compressed = .ok b ∧ l.digest = .ok d ∧ S.add st b = .ok (c, st') ∧
      T' = T.insert d c := by
  obtain ⟨b, hb, hw⟩ := bind_eq_ok.mp hw
  obtain ⟨d, hd, hw⟩ := bind_eq_ok.mp hw
  obtain ⟨⟨c, st''⟩, hadd, hw⟩ := bind_eq_ok.mp hw
  cases hw
  exact ⟨b, d, c, hb, hd, hadd, rfl⟩

theorem isSome_lookup_insert {T : CidMap Cid} {d k : Hash} {c : Cid} (h : (T.lookup d).isSome) :
    ((T.insert k c).lookup d).isSome := by
  rw [CidMap.lookup_insert]
  split <;> simp [h]

/-- A run of layer writes keeps every entry and enters every layer's digest. -/
theorem foldlM_writeLayer_covers :
    ∀ {ls : List (Layer Bytes)} {T T' : CidMap Cid} {st st' : St},
      ls.foldlM (writeLayer S) (T, st) = .ok (T', st') →
        (∀ d, (T.lookup d).isSome → (T'.lookup d).isSome) ∧ TableCovers ls T'
  | [], T, T', st, st', hrun => by
    cases hrun
    exact ⟨fun _ h => h, fun _ hl => nomatch hl⟩
  | l :: ls, T, T', st, st', hrun => by
    obtain ⟨⟨T₁, st₁⟩, hw, hrun⟩ := bind_eq_ok.mp hrun
    obtain ⟨-, d₀, c, -, hd₀, -, rfl⟩ := writeLayer_ok S hw
    obtain ⟨hkeep, hcov⟩ := foldlM_writeLayer_covers hrun
    refine ⟨fun d h => hkeep d (isSome_lookup_insert h), fun l' hl' d hd => ?_⟩
    rcases List.mem_cons.mp hl' with rfl | hl'
    · rw [hd₀] at hd
      cases hd
      exact hkeep _ (by simp)
    · exact hcov l' hl' d hd

/-- A run of layer writes read every layer's bytes and digest. -/
theorem foldlM_writeLayer_read :
    ∀ {ls : List (Layer Bytes)} {T T' : CidMap Cid} {st st' : St},
      ls.foldlM (writeLayer S) (T, st) = .ok (T', st') →
        ∀ l ∈ ls, (∃ b, l.compressed = .ok b) ∧ ∃ d, l.digest = .ok d
  | [], _, _, _, _, _ => fun _ hl => nomatch hl
  | l :: ls, T, T', st, st', hrun => by
    obtain ⟨⟨T₁, st₁⟩, hw, hrun⟩ := bind_eq_ok.mp hrun
    obtain ⟨b, d, -, hb, hd, -, -⟩ := writeLayer_ok S hw
    intro l' hl'
    rcases List.mem_cons.mp hl' with rfl | hl'
    · exact ⟨⟨b, hb⟩, d, hd⟩
    · exact foldlM_writeLayer_read hrun l' hl'

/-- **A layer that cannot be read fails the ingestion.** If `Compressed()` or `Digest()` of one
of the image's layers fails, `AddImage` returns an error and no root handle, whatever the store
holds and in every completion order of the layer writes. -/
theorem addImage_error_of_layer {img : Image Bytes} {ls : List (Layer Bytes)} {l : Layer Bytes}
    (hls : img.layers = .ok ls) (hl : l ∈ ls)
    (hfail : (∃ e, l.compressed = .error e) ∨ ∃ e, l.digest = .error e) (st : St)
    (sched : Schedule (Layer Bytes)) : ∃ e, addImage L S st img sched = .error e := by
  cases hrun : addImage L S st img sched with
  | error e => exact ⟨e, rfl⟩
  | ok r =>
    obtain ⟨⟨T, st₁⟩, hw, -⟩ := bind_eq_ok.mp hrun
    obtain ⟨ls', hls', hw⟩ := bind_eq_ok.mp hw
    rw [hls] at hls'
    cases hls'
    obtain ⟨⟨b, hb⟩, d, hd⟩ := foldlM_writeLayer_read S hw l ((sched.perm ls).symm.subset hl)
    rcases hfail with ⟨e, he⟩ | ⟨e, he⟩
    · rw [hb] at he
      cases he
    · rw [hd] at he
      cases he

/-- A layer whose bytes cannot be read, in either completion order. -/
theorem Toy.addImage_error_of_unreadable_layer :
    (∃ e, addImage Toy.lib Toy.unixfs [] Toy.unreadableImage Toy.inOrder = .error e) ∧
    ∃ e, addImage Toy.lib Toy.unixfs [] Toy.unreadableImage Toy.reversed = .error e :=
  ⟨addImage_error_of_layer Toy.lib Toy.unixfs rfl (List.mem_cons_self _ _) (.inl ⟨_, rfl⟩) _ _,
    addImage_error_of_layer Toy.lib Toy.unixfs rfl (List.mem_cons_self _ _) (.inl ⟨_, rfl⟩) _ _⟩

section Store

variable {S cidOf} {undef : Cid} (hS : S.ContentAddressed cidOf undef)
include hS

theorem add_extends {st st' : St} {b : Bytes} {c : Cid} (h : S.add st b = .ok (c, st')) :
    Extends S st st' := fun _ _ hget => hS.get_persist h hget

theorem get_of_add {st st' : St} {b : Bytes} {c : Cid} (h : S.add st b = .ok (c, st')) :
    c = cidOf b ∧ S.get st' (cidOf b) = .ok (.file b) := by
  obtain rfl := hS.add_cid h
  exact ⟨rfl, hS.get_add h⟩

theorem writeObj_ok {st st' : St} {data : Bytes} {p : Cid} {h : Hash} {n : Int}
    (hw : writeObj L S st data = .ok ((p, h, n), st')) :
    p = cidOf data ∧ h = (L.sha256 data).toHash ∧ n = L.length data ∧
      S.get st' (cidOf data) = .ok (.file data) ∧ Extends S st st' := by
  obtain ⟨⟨p', st''⟩, hadd, hw⟩ := bind_eq_ok.mp hw
  cases hw
  obtain ⟨rfl, hget⟩ := get_of_add hS hadd
  exact ⟨rfl, rfl, rfl, hget, add_extends hS hadd⟩

/-- One layer write keeps the table sound and the store extended. -/
theorem writeLayer_sound {U : List (Layer Bytes)} {l : Layer Bytes} {T T' : CidMap Cid}
    {st st' : St} (hl : l ∈ U) (hw : writeLayer S (T, st) l = .ok (T', st'))
    (hT : TableSound S cidOf U st T) : TableSound S cidOf U st' T' ∧ Extends S st st' := by
  obtain ⟨b, d, c, hb, hd, hadd, rfl⟩ := writeLayer_ok S hw
  obtain ⟨rfl, hget⟩ := get_of_add hS hadd
  have hext := add_extends hS hadd
  refine ⟨fun d' c' hlook => ?_, hext⟩
  rw [CidMap.lookup_insert] at hlook
  split at hlook
  · cases hlook
    subst_vars
    exact ⟨l, hl, b, hd, hb, rfl, hget⟩
  · obtain ⟨l', hl', b', hd', hb', rfl, hget'⟩ := hT d' c' hlook
    exact ⟨l', hl', b', hd', hb', rfl, hext _ _ hget'⟩

/-- A run of layer writes keeps the table sound and the store extended. -/
theorem foldlM_writeLayer_sound {U : List (Layer Bytes)} :
    ∀ {ls : List (Layer Bytes)} {T T' : CidMap Cid} {st st' : St}, (∀ l ∈ ls, l ∈ U) →
      ls.foldlM (writeLayer S) (T, st) = .ok (T', st') → TableSound S cidOf U st T →
        TableSound S cidOf U st' T' ∧ Extends S st st'
  | [], T, T', st, st', _, hrun, hT => by
    cases hrun
    exact ⟨hT, Extends.refl S st⟩
  | l :: ls, T, T', st, st', hsub, hrun, hT => by
    obtain ⟨⟨T₁, st₁⟩, hw, hrun⟩ := bind_eq_ok.mp hrun
    obtain ⟨hT₁, hext₁⟩ := writeLayer_sound hS (hsub l (List.mem_cons_self l ls)) hw hT
    obtain ⟨hT', hext'⟩ :=
      foldlM_writeLayer_sound (fun l' hl' => hsub l' (List.mem_cons_of_mem l hl')) hrun hT₁
    exact ⟨hT', hext₁.trans S hext'⟩

/-- The table the layer writes of a whole schedule leave: sound and covering for the image's
layers, whatever the completion order. -/
theorem writeLayers_table {ls : List (Layer Bytes)} {sched : Schedule (Layer Bytes)}
    {T : CidMap Cid} {st st' : St}
    (hrun : (sched.order ls).foldlM (writeLayer S) ([], st) = .ok (T, st')) :
    TableSound S cidOf ls st' T ∧ TableCovers ls T ∧ Extends S st st' := by
  have hmem : ∀ l ∈ sched.order ls, l ∈ ls := fun l hl => (sched.perm ls).subset hl
  obtain ⟨hT, hext⟩ := foldlM_writeLayer_sound hS hmem hrun (fun _ _ h => nomatch h)
  refine ⟨hT, fun l hl => (foldlM_writeLayer_covers S hrun).2 l ((sched.perm ls).symm.subset hl),
    hext⟩

/-- **A successful `AddImage`, taken apart.** The layer writes of the schedule leave a table
`T`; the config is added and entered under the manifest's config digest; `m'` is what
`convertIpfs` makes of the manifest over that table; the root handle is fixed by `m'`; and the
config and the three records read back at the end. -/
theorem addImage_ok {st st' : St} {img : Image Bytes} {sched : Schedule (Layer Bytes)}
    {root : Cid} (hrun : addImage L S st img sched = .ok (root, st')) :
    ∃ ls T st₁ cfg m m', img.layers = .ok ls ∧
      (sched.order ls).foldlM (writeLayer S) ([], st) = .ok (T, st₁) ∧
      img.rawConfigFile = .ok cfg ∧ img.manifest = .ok m ∧
      convertIpfs L m (T.insert m.config.digest (cidOf cfg)) = .ok m' ∧
      root = rootOf L cidOf m' ∧ Extends S st₁ st' ∧
      Stores S cidOf st' (cfg :: records L cidOf m') := by
  obtain ⟨⟨T, st₁⟩, hw, hrun⟩ := bind_eq_ok.mp hrun
  obtain ⟨ls, hls, hw⟩ := bind_eq_ok.mp hw
  obtain ⟨cfg, hcfg, hrun⟩ := bind_eq_ok.mp hrun
  obtain ⟨⟨cp, st₂⟩, hadd, hrun⟩ := bind_eq_ok.mp hrun
  obtain ⟨m, hm, hrun⟩ := bind_eq_ok.mp hrun
  obtain ⟨m', hconv, hrun⟩ := bind_eq_ok.mp hrun
  obtain ⟨⟨⟨mp, mh, ms⟩, st₃⟩, hwm, hrun⟩ := bind_eq_ok.mp hrun
  obtain ⟨⟨⟨ip, ih, is⟩, st₄⟩, hwi, hrun⟩ := bind_eq_ok.mp hrun
  obtain ⟨⟨⟨rp, rh, rs⟩, st₅⟩, hwr, hrun⟩ := bind_eq_ok.mp hrun
  cases hrun
  obtain ⟨rfl, hgc⟩ := get_of_add hS (mapError_eq_ok.mp hadd)
  obtain ⟨rfl, rfl, rfl, hgm, hx₃⟩ := writeObj_ok L hS hwm
  obtain ⟨rfl, rfl, rfl, hgi, hx₄⟩ := writeObj_ok L hS hwi
  obtain ⟨rfl, -, -, hgr, hx₅⟩ := writeObj_ok L hS hwr
  have hx₂ := add_extends hS (mapError_eq_ok.mp hadd)
  refine ⟨ls, T, st₁, cfg, m, m', hls, hw, hcfg, hm, hconv, rfl,
    hx₂.trans S (hx₃.trans S (hx₄.trans S hx₅)), ?_⟩
  simp only [Stores, records, List.mem_cons, List.mem_singleton, List.not_mem_nil, or_false]
  rintro b (rfl | rfl | rfl | rfl)
  · exact hx₃ _ _ hgc |> hx₄ _ _ |> hx₅ _ _
  · exact hx₄ _ _ hgm |> hx₅ _ _
  · exact hx₅ _ _ hgi
  · exact hgr

end Store

/-! ### The root handle does not depend on the completion order

Only the table can tell two runs apart, and only through its entries for digests that several
layers report. When those layers have the same bytes the entries agree, and so does everything
written after them. -/

/-- Layers of the list that report one digest and read their bytes have the same bytes. -/
def LayersAgree (ls : List (Layer Bytes)) : Prop :=
  ∀ l₁ ∈ ls, ∀ l₂ ∈ ls, ∀ d b₁ b₂, l₁.digest = .ok d → l₂.digest = .ok d →
    l₁.compressed = .ok b₁ → l₂.compressed = .ok b₂ → b₁ = b₂

/-- Layers of the image that report one digest have the same compressed bytes. -/
def Image.LayerDigestsIdentify (img : Image Bytes) : Prop :=
  ∀ ls, img.layers = .ok ls → ∀ l₁ ∈ ls, ∀ l₂ ∈ ls, ∀ d, l₁.digest = .ok d → l₂.digest = .ok d →
    l₁.compressed = l₂.compressed

theorem Image.LayerDigestsIdentify.agree {img : Image Bytes} (h : img.LayerDigestsIdentify)
    (ls : List (Layer Bytes)) (hls : img.layers = .ok ls) : LayersAgree ls :=
  fun l₁ h₁ l₂ h₂ d _ _ e₁ e₂ f₁ f₂ => Except.ok.inj (f₁.symm.trans ((h ls hls l₁ h₁ l₂ h₂ d e₁ e₂).trans f₂))

section TwoStores

variable {St₁ St₂ : Type} {S₁ : Unixfs St₁ Bytes Cid} {S₂ : Unixfs St₂ Bytes Cid}
  {ls : List (Layer Bytes)} {st₁ : St₁} {st₂ : St₂} {T₁ T₂ : CidMap Cid}

theorem lookup_some_of_tables (hU : LayersAgree ls)
    (hs₁ : TableSound S₁ cidOf ls st₁ T₁) (hc₂ : TableCovers ls T₂)
    (hs₂ : TableSound S₂ cidOf ls st₂ T₂) {d : Hash} {c : Cid} (h : T₁.lookup d = some c) :
    T₂.lookup d = some c := by
  obtain ⟨l₁, hl₁, b₁, hd₁, hb₁, rfl, -⟩ := hs₁ d c h
  obtain ⟨c₂, hc⟩ := Option.isSome_iff_exists.mp (hc₂ l₁ hl₁ d hd₁)
  obtain ⟨l₂, hl₂, b₂, hd₂, hb₂, rfl, -⟩ := hs₂ d c₂ hc
  obtain rfl := hU l₁ hl₁ l₂ hl₂ d b₁ b₂ hd₁ hd₂ hb₁ hb₂
  exact hc

/-- Two sound and covering tables for one list of layers agree on every digest, when layers
with one digest have the same bytes. -/
theorem lookup_eq_of_tables (hU : LayersAgree ls)
    (hs₁ : TableSound S₁ cidOf ls st₁ T₁) (hc₁ : TableCovers ls T₁)
    (hs₂ : TableSound S₂ cidOf ls st₂ T₂) (hc₂ : TableCovers ls T₂) (d : Hash) :
    T₁.lookup d = T₂.lookup d :=
  Option.ext fun _ => ⟨lookup_some_of_tables cidOf hU hs₁ hc₂ hs₂,
    lookup_some_of_tables cidOf
      (fun l₂ h₂ l₁ h₁ d b₂ b₁ e₂ e₁ f₂ f₁ => (hU l₁ h₁ l₂ h₂ d b₁ b₂ e₁ e₂ f₁ f₂).symm) hs₂ hc₁ hs₁⟩

end TwoStores

theorem decorate_congr {T₁ T₂ : CidMap Cid} (h : ∀ d, T₁.lookup d = T₂.lookup d) (kind : String) :
    decorate L T₁ kind = decorate L T₂ kind := by
  funext d
  simp only [decorate, h]

/-- `convertIpfs` reads the table only through its lookups. -/
theorem convertIpfs_congr {T₁ T₂ : CidMap Cid} (h : ∀ d, T₁.lookup d = T₂.lookup d) (m : Manifest) :
    convertIpfs L m T₁ = convertIpfs L m T₂ := by
  simp only [convertIpfs, decorate_congr L h]

theorem lookup_insert_congr {T₁ T₂ : CidMap Cid} (h : ∀ d, T₁.lookup d = T₂.lookup d) (k : Hash)
    (c : Cid) (d : Hash) : (T₁.insert k c).lookup d = (T₂.insert k c).lookup d := by
  simp only [CidMap.lookup_insert, h]

/-- Two successful runs of `AddImage` on one image whose layers with one digest have the same
bytes, over two stores content-addressed by the same `cidOf` and in any two completion orders,
return the same root handle, and both stores end up holding the same decorated manifest, index
and outer wrapper records. -/
theorem addImage_same_graph {St₁ St₂ : Type} {S₁ : Unixfs St₁ Bytes Cid}
    {S₂ : Unixfs St₂ Bytes Cid} {u₁ u₂ : Cid} (hS₁ : S₁.ContentAddressed cidOf u₁)
    (hS₂ : S₂.ContentAddressed cidOf u₂) {img : Image Bytes}
    (hU : ∀ ls, img.layers = .ok ls → LayersAgree ls) {sched₁ sched₂ : Schedule (Layer Bytes)}
    {st₁ st₁' : St₁} {st₂ st₂' : St₂} {r₁ r₂ : Cid}
    (hrun₁ : addImage L S₁ st₁ img sched₁ = .ok (r₁, st₁'))
    (hrun₂ : addImage L S₂ st₂ img sched₂ = .ok (r₂, st₂')) :
    r₁ = r₂ ∧ ∃ m', r₁ = rootOf L cidOf m' ∧ Stores S₁ cidOf st₁' (records L cidOf m') ∧
      Stores S₂ cidOf st₂' (records L cidOf m') := by
  obtain ⟨ls, T₁, _, cfg, m, m'₁, hls, hw₁, hcfg, hm, hconv₁, rfl, -, hst₁⟩ := addImage_ok L hS₁ hrun₁
  obtain ⟨ls₂, T₂, _, cfg₂, m₂, m'₂, hls₂, hw₂, hcfg₂, hm₂, hconv₂, rfl, -, hst₂⟩ :=
    addImage_ok L hS₂ hrun₂
  cases hls.symm.trans hls₂
  cases hcfg.symm.trans hcfg₂
  cases hm.symm.trans hm₂
  obtain ⟨hs₁, hc₁, -⟩ := writeLayers_table hS₁ hw₁
  obtain ⟨hs₂, hc₂, -⟩ := writeLayers_table hS₂ hw₂
  have hT := lookup_insert_congr (lookup_eq_of_tables cidOf (hU ls hls) hs₁ hc₁ hs₂ hc₂)
    m.config.digest (cidOf cfg)
  rw [convertIpfs_congr L hT, hconv₂] at hconv₁
  cases hconv₁
  exact ⟨rfl, m'₁, rfl, fun b hb => hst₁ b (List.mem_cons_of_mem _ hb),
    fun b hb => hst₂ b (List.mem_cons_of_mem _ hb)⟩

end Ripfs
