import Ripfs.Proof.Server

/-!
# Later writes do not change what an ingested image serves

The store only grows: every `Unixfs().Add` keeps what was readable (`Extends`), and so does every
`AddImage` run (`addImage_extends`). The readers only read through successful `Get`s, so a walk
that completed in a store completes the same way in every store that extends it. An ingested
image's walk completes, and every node it emits names a stored file. So every reply the registry
gives about the image's root handle (its content, its not-found answers, and its errors for a
reference that is neither `latest` nor a digest) is the same in every later store, whatever was
ingested or published in between.
-/

namespace Ripfs

/-! ### The readers over a larger store -/

section Mono

variable {Bytes Cid : Type} (L : Lib Bytes Cid) {get get' : StoreView Bytes Cid}
  (hle : ∀ c n, get c = .ok n → get' c = .ok n)
include hle

theorem openFile_mono {c : Cid} {b : Bytes} (h : openFile get c = .ok b) :
    openFile get' c = .ok b := by
  unfold openFile at h
  split at h
  · cases h
  · rename_i hget
    cases h
    exact openFile_of_get (hle _ _ hget)
  · cases h

theorem walkIndex_mono {α : Type} {idxc : Cid} {fn : α → Node Cid → Result α} {acc r : α}
    (h : walkIndex L get idxc fn acc = .ok r) : walkIndex L get' idxc fn acc = .ok r := by
  obtain ⟨idxf, h₁, h⟩ := bind_eq_ok.mp h
  obtain ⟨m, h₂, h⟩ := bind_eq_ok.mp h
  obtain ⟨acc₁, h₃, h⟩ := bind_eq_ok.mp h
  obtain ⟨mf, h₄, h⟩ := bind_eq_ok.mp h
  simp only [walkIndex, openFile_mono hle h₁, ok_bind, h₂, h₃, openFile_mono hle h₄]
  exact h

theorem walk_mono {α : Type} {rootc : Cid} {fn : α → Node Cid → Result α} {acc r : α}
    (h : walk L get rootc fn acc = .ok r) : walk L get' rootc fn acc = .ok r := by
  obtain ⟨rootf, h₁, h⟩ := bind_eq_ok.mp h
  obtain ⟨idx, h₂, h⟩ := bind_eq_ok.mp h
  obtain ⟨acc₁, h₃, h⟩ := bind_eq_ok.mp h
  simp only [walk, openFile_mono hle h₁, ok_bind, h₂, h₃, walkIndex_mono L hle h]

theorem readBlob_mono {name d : String} {r : Bytes × String} (h : readBlob L get name d = .ok r) :
    readBlob L get' name d = .ok r := by
  obtain ⟨rootc, h₁, h⟩ := bind_eq_ok.mp h
  obtain ⟨found, h₂, h⟩ := bind_eq_ok.mp h
  cases found with
  | none => cases h
  | some f =>
    obtain ⟨ff, h₃, h⟩ := bind_eq_ok.mp h
    simp only [readBlob, h₁, ok_bind, walk_mono L hle h₂, openFile_mono hle h₃]
    exact h

theorem readManifest_mono {name reference : String} {r : Bytes × String}
    (h : readManifest L get name reference = .ok r) : readManifest L get' name reference = .ok r := by
  obtain ⟨c, hc, h⟩ := bind_eq_ok.mp h
  by_cases hl : reference = "latest"
  · simp only [hl, if_true] at h
    obtain ⟨rootf, h₁, h⟩ := bind_eq_ok.mp h
    obtain ⟨idx, h₂, h⟩ := bind_eq_ok.mp h
    obtain ⟨idxf, h₃, h⟩ := bind_eq_ok.mp h
    simp only [readManifest, hc, ok_bind, hl, if_true, openFile_mono hle h₁, h₂, openFile_mono hle h₃]
    exact h
  · simp only [hl, if_false] at h
    cases hp : digestParse reference with
    | error e => simp [hp] at h
    | ok d =>
      simp only [hp] at h
      simp only [readManifest, hc, ok_bind, hl, if_false, hp, readBlob_mono L hle h]

theorem Serves.mono {name d : String} {b : Bytes} {mt : String} (h : Serves L get name d b mt) :
    Serves L get' name d b mt :=
  ⟨readBlob_mono L hle h.1, readManifest_mono L hle h.2⟩

/-- Over a walk that completed with stored nodes, `ReadBlob` answers every digest alike in the
larger store. -/
theorem readBlob_congr {name : String} {rootc : Cid} {ns : List (Node Cid)}
    (hname : L.cidDecode name = .ok rootc) (hwalk : walkNodes L get rootc = .ok ns)
    (hfiles : ∀ n ∈ ns, ∃ b, get n.cid = .ok (.file b)) (d : String) :
    readBlob L get' name d = readBlob L get name d := by
  have hwalk' : walkNodes L get' rootc = .ok ns := walk_mono L hle hwalk
  cases hl : lastMatch d ns with
  | none =>
    rw [readBlob_of_lastMatch_none L hname hwalk' hl, readBlob_of_lastMatch_none L hname hwalk hl]
  | some n =>
    obtain ⟨b, hb⟩ := hfiles n (lastMatch_spec hl).1
    rw [readBlob_of_lastMatch L hname hwalk' hl (hle _ _ hb), readBlob_of_lastMatch L hname hwalk hl hb]

/-- ... and `ReadManifest` every reference, once `latest` reads. -/
theorem readManifest_congr {name : String} {rootc : Cid} {ns : List (Node Cid)}
    (hname : L.cidDecode name = .ok rootc) (hwalk : walkNodes L get rootc = .ok ns)
    (hfiles : ∀ n ∈ ns, ∃ b, get n.cid = .ok (.file b))
    (hlatest : ∃ r, readManifest L get name "latest" = .ok r) (reference : String) :
    readManifest L get' name reference = readManifest L get name reference := by
  by_cases hl : reference = "latest"
  · subst hl
    obtain ⟨r, hr⟩ := hlatest
    rw [hr, readManifest_mono L hle hr]
  cases hp : digestParse reference with
  | error e => simp [readManifest, hname, hl, hp]
  | ok d =>
    obtain rfl := eq_of_digestParse hp
    rw [readManifest_of_digest L hname hp hl, readManifest_of_digest L hname hp hl,
      readBlob_congr L hle hname hwalk hfiles]

end Mono

/-! ### Replies over a larger store -/

/-- The root handle a dispatched request reads under, if it reads the store at all. -/
def Dispatch.readsUnder : Dispatch → Option String
  | .handler (.manifests cid _) | .handler (.blobs cid _) => some cid
  | _ => none

/-- A request that reads no store, or reads under `name`, is answered alike by two stores whose
readers agree under `name`. -/
theorem serveHTTP_congr {Bytes Cid : Type} (L : Lib Bytes Cid) {get get' : StoreView Bytes Cid}
    {name : String} (hm : ∀ reference, readManifest L get' name reference = readManifest L get name reference)
    (hb : ∀ d, readBlob L get' name d = readBlob L get name d) {method path : String}
    (hpath : (dispatch method path).readsUnder = none ∨
      (dispatch method path).readsUnder = some name) :
    serveHTTP L get' method path = serveHTTP L get method path := by
  unfold serveHTTP
  cases hd : dispatch method path with
  | handler r =>
    rw [hd] at hpath
    cases r with
    | health => rfl
    | manifests cid reference =>
      obtain rfl : cid = name := by simpa [Dispatch.readsUnder] using hpath
      simp only [handle, buildGetManifestHandler, hm]
    | blobs cid reference =>
      obtain rfl : cid = name := by simpa [Dispatch.readsUnder] using hpath
      simp only [handle, buildGetBlobsHandler, hb]
  | methodNotAllowed => rfl
  | notFound => rfl

/-! ### An ingested image -/

section Ingested

variable {Bytes Cid St : Type} (L : Lib Bytes Cid) {S : Unixfs St Bytes Cid} {cidOf : Bytes → Cid}
  {img : Image Bytes} {st st₁ : St} {sched : Schedule (Layer Bytes)} {root : Cid}

/-- A run only adds to the store. -/
theorem addImage_extends {undef : Cid} (hS : S.ContentAddressed cidOf undef)
    (hrun : addImage L S st img sched = .ok (root, st₁)) : Extends S st st₁ := by
  obtain ⟨_, _, _, _, _, _, _, hw, -, -, -, -, hext, -⟩ := addImage_ok L hS hrun
  exact (writeLayers_table hS hw).2.2.trans S hext

/-- Every node the walk emits over an ingested graph names a stored file. -/
theorem ingestNodes_files {T : CidMap Cid} {m : Manifest}
    (hT : ∀ d ∈ m.config :: m.layers, ∃ b, T.lookup d.digest = some (cidOf b) ∧
      S.get st₁ (cidOf b) = .ok (.file b))
    (hst : Stores S cidOf st₁ (records L cidOf (decorated L T m))) :
    ∀ n ∈ ingestNodes L cidOf T m, ∃ b, S.get st₁ n.cid = .ok (.file b) := by
  intro n hn
  rcases List.mem_cons.mp hn with rfl | hn
  · exact ⟨_, hst _ (by simp [records])⟩
  rcases List.mem_cons.mp hn with rfl | hn
  · exact ⟨_, hst _ (by simp [records])⟩
  obtain ⟨x, hx, rfl⟩ := List.mem_map.mp hn
  obtain ⟨b, hb, hgb⟩ := hT x hx
  exact ⟨b, by rw [tableNode_cid L hb]; exact hgb⟩

/-- **Later writes do not change what an ingested image serves.** After a successful
`AddImage` over a content-addressed store, in every later store that keeps what this one holds
(every further `AddImage` run and every other `Unixfs().Add` only adds), every request whose
handler reads under the root handle, and every request that reads no store, gets the reply it
gets right after the run: the same content, the same not-found answer, the same status. -/
theorem addImage_replies_stable (hL : L.Lawful) (hS : S.ContentAddressed cidOf L.undef)
    (hrun : addImage L S st img sched = .ok (root, st₁)) {st₂ : St} (hext : Extends S st₁ st₂)
    (method path : String)
    (hpath : (dispatch method path).readsUnder = none ∨
      (dispatch method path).readsUnder = some (L.cidString root)) :
    serveHTTP L (S.get st₂) method path = serveHTTP L (S.get st₁) method path := by
  obtain ⟨_, cfg, m, T, -, -, -, rfl, hst, hcl, hgc, hlayers⟩ := addImage_graph L hS hrun
  have hT : ∀ d ∈ m.config :: m.layers, ∃ b, T.lookup d.digest = some (cidOf b) ∧
      S.get st₁ (cidOf b) = .ok (.file b) := fun d hd =>
    (List.mem_cons.mp hd).elim (fun h => ⟨cfg, h ▸ hcl, hgc⟩)
      fun hd => (hlayers d hd).imp fun _ h => ⟨h.1, h.2.1⟩
  have hwalk := walkNodes_ingested L hL hS (fun d hd => (hT d hd).imp fun _ h => h.1) hst
  have hname := cidDecode_rootOf L hL hS (decorated L T m)
  have hfiles := ingestNodes_files L hT hst
  exact serveHTTP_congr L
    (readManifest_congr L hext hname hwalk hfiles ⟨_, readManifest_latest_ingested L hL hS hst⟩)
    (readBlob_congr L hext hname hwalk hfiles) hpath

/-- An `AddImage` run on a reference store, and the store it leaves. -/
def Toy.ingestOn (st : Toy.Store) (img : Image Toy.Blob) : Nat × Toy.Store :=
  match addImage Toy.lib Toy.unixfs st img Toy.inOrder with
  | .ok r => r
  | .error _ => (0, st)

/-- A second image, sharing the layer `4`, ingested after the two-layer image: its first layer
is served as before. -/
theorem Toy.addImage_replies_stable_second :
    serveHTTP Toy.lib (Toy.unixfs.get (Toy.ingestOn (Toy.ingest (Toy.rawImage 2 [3, 4]) Toy.inOrder).2
        (Toy.rawImage 5 [4, 6])).2) "GET"
        (Route.blobs (Toy.lib.cidString 112) (Toy.sumOf 3).toHash.toString).path =
      serveHTTP Toy.lib (Toy.unixfs.get (Toy.ingest (Toy.rawImage 2 [3, 4]) Toy.inOrder).2) "GET"
        (Route.blobs (Toy.lib.cidString 112) (Toy.sumOf 3).toHash.toString).path :=
  addImage_replies_stable Toy.lib Toy.lib_lawful Toy.unixfs_contentAddressed
    (rfl : addImage Toy.lib Toy.unixfs [] (Toy.rawImage 2 [3, 4]) Toy.inOrder =
      .ok (112, (Toy.ingest (Toy.rawImage 2 [3, 4]) Toy.inOrder).2))
    (addImage_extends Toy.lib Toy.unixfs_contentAddressed
      (rfl : addImage Toy.lib Toy.unixfs (Toy.ingest (Toy.rawImage 2 [3, 4]) Toy.inOrder).2
          (Toy.rawImage 5 [4, 6]) Toy.inOrder =
        .ok (Toy.ingestOn (Toy.ingest (Toy.rawImage 2 [3, 4]) Toy.inOrder).2 (Toy.rawImage 5 [4, 6]))))
    "GET" _ (Or.inr rfl)

end Ingested

end Ripfs
