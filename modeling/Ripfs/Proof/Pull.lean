import Ripfs.Proof.Server
import Ripfs.Proof.Admission
import Ripfs.Proof.NameMap
import Mathlib.Tactic.IntervalCases

/-!
# Pulling a relocated image

The way an image takes through the system. `ripfs add` ingests it with `AddImage` and records
the root path `/ipfs/<cid>` in the Name Map under the name of the reference it was given; the
webhook rewrites the image of a container that names that reference to `<registry>/ipfs/<cid>`;
and the kubelet pulls that image from the registry `ripfs serve` runs on the node.

A puller parses the new image as the tag `latest` of the repository `ipfs/<cid>` on the registry
host (`parseReference_ipfsImage`), asks for the manifest under the tag, and then for each digest
it needs, as a manifest or as a blob (`Pulls`). Those requests are the registry's routes with
the CID and the tag or digest as the two parameters. Each is a clean path, so `ServeMux` hands
it to the router unchanged and the router to the readers, which serve the graph `AddImage`
wrote (`pull_ipfsImage`). `pull_after_add` puts the three programs together.
-/

namespace Ripfs

/-! ### The new image as a reference -/

theorem mem_repositoryChars_of_isLowerAlnum {c : Char} (h : isLowerAlnum c = true) :
    c ∈ repositoryChars := by
  have hn : (97 ≤ c.toNat ∧ c.toNat ≤ 122) ∨ (48 ≤ c.toNat ∧ c.toNat ≤ 57) := by
    simpa [isLowerAlnum, Char.isDigit, Char.le_def, UInt32.le_def, BitVec.le_def] using h
  rw [← Char.ofNat_toNat c]
  rcases hn with ⟨h1, h2⟩ | ⟨h1, h2⟩ <;> interval_cases c.toNat <;> decide

/-- The last part of a list split at a separator ends in what follows the last separator. -/
theorem splitOnP_go_getLast_append {α : Type} (P : α → Bool) {r : List α} (hr : ∀ x ∈ r, ¬P x) :
    ∀ (l acc : List α), ∃ s, (List.splitOnP.go P (l ++ r) acc).getLast? = some (s ++ r)
  | [], acc => ⟨acc.reverse, by simp [List.splitOnP.go_acc, List.splitOnP_eq_single _ _ hr]⟩
  | x :: l, acc => by
    rw [List.cons_append, List.splitOnP.go]
    split
    · obtain ⟨s, hs⟩ := splitOnP_go_getLast_append P hr l []
      exact ⟨s, by rw [List.getLast?_cons, hs, Option.getD_some]⟩
    · exact splitOnP_go_getLast_append P hr l (x :: acc)

section Parse

variable {isAuthority : String → Bool}

/-- A name whose text after its last `:` holds a `/` has no tag: `NewTag` gives it `latest`. -/
theorem newTag_of_untagged {name : String} {s : List Char}
    (hs : (name.data.splitOn ':').getLast? = some s) (hslash : '/' ∈ s) :
    newTag isAuthority name = (.tag · defaultTag) <$> newRepository isAuthority name := by
  simp [newTag, hs, hslash]

theorem checkRepository_ipfs {cid : String} (hcid : cidPattern cid = true)
    (hlen : cid.length ≤ 250) : checkRepository ("ipfs/" ++ cid) = .ok () := by
  have hall : ∀ c ∈ ("ipfs/" ++ cid).data, c ∈ repositoryChars := by
    simp only [cidPattern, Bool.and_eq_true, List.all_eq_true] at hcid
    intro c hc
    rcases List.mem_append.mp hc with hc | hc
    · exact (by decide : ∀ c ∈ "ipfs/".data, c ∈ repositoryChars) c hc
    · exact mem_repositoryChars_of_isLowerAlnum (hcid.2 c hc)
  have hl : ("ipfs/" ++ cid).length = 5 + cid.length := by rw [String.length_append]; rfl
  unfold checkRepository checkElement
  rw [hl, if_neg (by omega), if_neg]
  simpa using hall

/-- `SplitN(name, "/", 2)` of `host/repo` with a host without `/`. -/
theorem splitRegistry_host {host repo : List Char} (hslash : '/' ∉ host) :
    splitRegistry (host ++ '/' :: repo) = [host, repo] := by
  have hp : ∀ c ∈ host, (fun c => decide (c ≠ '/')) c = true := fun c hc =>
    decide_eq_true fun h => hslash (h ▸ hc)
  rw [splitRegistry, List.span_eq_take_drop, List.takeWhile_append_of_pos hp,
    List.dropWhile_append_of_pos hp]
  simp

/-- A name `host/repo` whose host has a `.` or a `:` and no `/` is the repository `repo` on
`host`. -/
theorem newRepository_host {host repo : String} (hA : isAuthority host = true)
    (hhost : '.' ∈ host.data ∨ ':' ∈ host.data) (hslash : '/' ∉ host.data)
    (halias : host ≠ defaultRegistryAlias) (hrepo : checkRepository repo = .ok ()) :
    newRepository isAuthority (host ++ "/" ++ repo) = .ok ⟨⟨host⟩, repo⟩ := by
  have hne : host ≠ "" := by rintro rfl; simp at hhost
  have hlen : (host ++ "/" ++ repo).length ≠ 0 := by
    rw [String.length_append, String.length_append, show "/".length = 1 from rfl]
    omega
  have hreg : newRegistry isAuthority host = .ok ⟨host⟩ := by
    simp [newRegistry, hA, hne, halias]
  have hdata : (host ++ "/" ++ repo).data = host.data ++ '/' :: repo.data := by simp
  simp only [newRepository, hlen, if_false, hdata, splitRegistry_host hslash]
  simp [hhost, hrepo, hreg]

/-- The image the webhook writes, `host/ipfs/<cid>`, is the tag `latest` of the repository
`ipfs/<cid>` on `host`, for a host that `NewRepository` takes for a registry. -/
theorem parseReference_ipfsImage {host cid : String} (hA : isAuthority host = true)
    (hhost : '.' ∈ host.data ∨ ':' ∈ host.data) (hslash : '/' ∉ host.data)
    (halias : host ≠ defaultRegistryAlias) (hcid : cidPattern cid = true)
    (hlen : cid.length ≤ 250) :
    parseReference isAuthority (host ++ "/ipfs/" ++ cid) =
      .ok (.tag ⟨⟨host⟩, "ipfs/" ++ cid⟩ defaultTag) := by
  have hr : ∀ x ∈ "/ipfs/".data ++ cid.data, ¬(x == ':') = true := by
    simp only [cidPattern, Bool.and_eq_true, List.all_eq_true] at hcid
    intro x hx
    rcases List.mem_append.mp hx with hx | hx
    · exact (by decide : ∀ x ∈ "/ipfs/".data, ¬(x == ':') = true) x hx
    · exact fun h => absurd (hcid.2 x hx) (by rw [beq_iff_eq.mp h]; decide)
  obtain ⟨s, hs⟩ := splitOnP_go_getLast_append (· == ':') hr host.data []
  have hdata : (host ++ "/ipfs/" ++ cid).data = host.data ++ ("/ipfs/".data ++ cid.data) := by
    simp
  have htag : newTag isAuthority (host ++ "/ipfs/" ++ cid) = _ :=
    newTag_of_untagged (by rw [hdata]; exact hs) (by simp)
  have hname : host ++ "/ipfs/" ++ cid = host ++ "/" ++ ("ipfs/" ++ cid) := by
    simp only [String.append_assoc]
    rfl
  rw [parseReference, htag, hname,
    newRepository_host hA hhost hslash halias (checkRepository_ipfs hcid hlen)]
  rfl

end Parse

/-! ### A pull -/

theorem repositoryStr_ipfs (reg : Registry) (cid : String) :
    (⟨reg, "ipfs/" ++ cid⟩ : Repository).repositoryStr = "ipfs/" ++ cid := by
  simp [Repository.repositoryStr, hasImplicitNamespace]

/-- The requests for `ipfs/<cid>` are the registry's reading routes. -/
theorem fetcherUrl_manifests_ipfs (reg : Registry) (cid identifier : String) :
    (fetcherUrl ⟨reg, "ipfs/" ++ cid⟩ "manifests" identifier).2 =
      (Route.manifests cid identifier).path := by
  rw [Route.path_manifests]
  exact String.ext (by simp [fetcherUrl, repositoryStr_ipfs])

theorem fetcherUrl_blobs_ipfs (reg : Registry) (cid identifier : String) :
    (fetcherUrl ⟨reg, "ipfs/" ++ cid⟩ "blobs" identifier).2 = (Route.blobs cid identifier).path := by
  rw [Route.path_blobs]
  exact String.ext (by simp [fetcherUrl, repositoryStr_ipfs])

section Pull

variable {Bytes Cid : Type} (L : Lib Bytes Cid)

/-- The requests of a pull of `ref` from a registry at `host` that answers `serve method path`
are answered: the requests go to `host`; `GET` of the manifest under the reference's identifier
answers the index `index` with the index media type; and `GET` of each digest `h` of `ds`, as a
manifest and as a blob, answers one content whose SHA-256 is `h`, with one media type that is
not pinned here. -/
structure Pulls (serve : String → String → Result (Reply Bytes)) (host : String) (ref : Reference)
    (index : Bytes) (ds : List Hash) : Prop where
  registry : ref.context.registry.registryStr = host
  tag : serve "GET" (fetcherUrl ref.context "manifests" ref.identifier).2 =
    .ok (serveContent ociImageIndex index)
  digest : ∀ h ∈ ds, ∃ b mt, (L.sha256 b).toHash = h ∧
    serve "GET" (fetcherUrl ref.context "manifests" h.toString).2 = .ok (serveContent mt b) ∧
    serve "GET" (fetcherUrl ref.context "blobs" h.toString).2 = .ok (serveContent mt b)

variable {L} {get : StoreView Bytes Cid} {cid : String}

theorem listenAndServe_manifests {reference : String} {b : Bytes} {mt : String}
    (hcid : cidPattern cid = true) (hr : PlainElem reference)
    (hs : readManifest L get cid reference = .ok (b, mt)) :
    listenAndServe L get "GET" (Route.manifests cid reference).path = .ok (serveContent mt b) := by
  rw [listenAndServe, if_neg fun h => h.2 (cleanPath_route ⟨hcid, hr⟩)]
  exact serveHTTP_manifests L get ⟨hcid, fun he => hr.1 (by rw [he]), hr.2.1⟩ hs

theorem listenAndServe_blobs {s : Sum256} {b : Bytes} {mt : String} (hcid : cidPattern cid = true)
    (hs : readBlob L get cid s.toHash.toString = .ok (b, mt)) :
    listenAndServe L get "GET" (Route.blobs cid s.toHash.toString).path = .ok (serveContent mt b) := by
  have hr := Sum256.plainElem_toString s
  rw [listenAndServe, if_neg fun h => h.2 (cleanPath_route ⟨hcid, hr⟩)]
  exact serveHTTP_blobs L get ⟨hcid, fun he => hr.1 (by rw [he]), hr.2.1⟩
    (digestParse_sum256 s) hs

variable {isAuthority : String → Bool} {host : String}

/-- A registry whose readers answer `latest` under a CID with `index`, and every digest of `ds`
with content that hashes to it, answers a pull of the image `host/ipfs/<cid>`, the tag
`latest` of `ipfs/<cid>` on `host`. -/
theorem pulls_of_served {index : Bytes} {ds : List Hash} (hA : isAuthority host = true)
    (hhost : '.' ∈ host.data ∨ ':' ∈ host.data) (hplain : PlainElem host)
    (halias : host ≠ defaultRegistryAlias) (hcid : cidPattern cid = true) (hlen : cid.length ≤ 250)
    (hindex : readManifest L get cid "latest" = .ok (index, ociImageIndex))
    (hds : ∀ h ∈ ds, ∃ b mt, Serves L get cid h.toString b mt ∧ (L.sha256 b).toHash = h) :
    parseReference isAuthority (host ++ "/ipfs/" ++ cid) =
        .ok (.tag ⟨⟨host⟩, "ipfs/" ++ cid⟩ defaultTag) ∧
      Pulls L (listenAndServe L get) host (.tag ⟨⟨host⟩, "ipfs/" ++ cid⟩ defaultTag) index ds := by
  refine ⟨parseReference_ipfsImage hA hhost hplain.2.1 halias hcid hlen, ?_, ?_, ?_⟩
  · exact if_pos (show host ≠ "" from fun he => hplain.1 (by rw [he]))
  · rw [Reference.context, Reference.identifier, fetcherUrl_manifests_ipfs]
    exact listenAndServe_manifests hcid (by decide) hindex
  · intro h hh
    obtain ⟨b, mt, hs, rfl⟩ := hds h hh
    refine ⟨b, mt, rfl, ?_, ?_⟩
    · rw [Reference.context, fetcherUrl_manifests_ipfs]
      exact listenAndServe_manifests hcid (Sum256.plainElem_toString _) hs.2
    · rw [Reference.context, fetcherUrl_blobs_ipfs]
      exact listenAndServe_blobs hcid hs.1

end Pull

/-! ### The image `AddImage` wrote -/

section Ingested

variable {Bytes Cid St : Type} (L : Lib Bytes Cid) {S : Unixfs St Bytes Cid} {cidOf : Bytes → Cid}
  {img : Image Bytes} {st st' : St} {sched : Schedule (Layer Bytes)} {root : Cid}
  {isAuthority : String → Bool} {host : String}

/-- **A relocated image is served by the store.** After a successful `AddImage` of an image that
keeps the content contract, over a content-addressed store, whose root handle is a CID the
registry routes: for a registry host that `NewRepository` takes for one (an authority with a `.`
or a `:`, one path element, not `docker.io`), the image `host/ipfs/<cid>` parses as the tag
`latest` of `ipfs/<cid>` on `host`, and a puller of it from `ripfs serve` over the store gets the
index under the tag and, for every digest of the graph the run wrote (the index's, the decorated
manifest's, the config's and each layer's), content whose SHA-256 it is, as a manifest and as a
blob. -/
theorem pull_ipfsImage (hL : L.Lawful) (hS : S.ContentAddressed cidOf L.undef)
    (hC : img.ContentContract L)
    (hrun : addImage L S st img sched = .ok (root, st'))
    (hcid : cidPattern (L.cidString root) = true) (hlen : (L.cidString root).length ≤ 250)
    (hA : isAuthority host = true) (hhost : '.' ∈ host.data ∨ ':' ∈ host.data)
    (hplain : PlainElem host) (halias : host ≠ defaultRegistryAlias) :
    ∃ m m', img.manifest = .ok m ∧ root = rootOf L cidOf m' ∧
      Stores S cidOf st' (records L cidOf m') ∧
      parseReference isAuthority (host ++ "/ipfs/" ++ L.cidString root) =
        .ok (.tag ⟨⟨host⟩, "ipfs/" ++ L.cidString root⟩ defaultTag) ∧
      Pulls L (listenAndServe L (S.get st')) host (.tag ⟨⟨host⟩, "ipfs/" ++ L.cidString root⟩ defaultTag)
        (L.marshalIndexManifest (indexOf L cidOf m'))
        ((wrapperOf L cidOf m').digest :: (L.sha256 (L.marshalManifest m')).toHash ::
          m.config.digest :: m.layers.map (·.digest)) := by
  obtain ⟨m, m', hm, hroot, hst, hindex, hds⟩ := addImage_served L hL hS hC hrun
  exact ⟨m, m', hm, hroot, hst, pulls_of_served hA hhost hplain halias hcid hlen hindex hds⟩

/-- The two-layer image served through `localhost:31609`, the webhook's default registry. -/
theorem Toy.pull_rawImage :
    ∃ m m', (Toy.rawImage 2 [3, 4]).manifest = .ok m ∧ 112 = rootOf Toy.lib Toy.cidOf m' ∧
      Stores Toy.unixfs Toy.cidOf (Toy.ingest (Toy.rawImage 2 [3, 4]) Toy.inOrder).2
        (records Toy.lib Toy.cidOf m') ∧
      parseReference Toy.authority ("localhost:31609" ++ "/ipfs/" ++ Toy.lib.cidString 112) =
        .ok (.tag ⟨⟨"localhost:31609"⟩, "ipfs/" ++ Toy.lib.cidString 112⟩ defaultTag) ∧
      Pulls Toy.lib
        (listenAndServe Toy.lib (Toy.unixfs.get (Toy.ingest (Toy.rawImage 2 [3, 4]) Toy.inOrder).2))
        "localhost:31609" (.tag ⟨⟨"localhost:31609"⟩, "ipfs/" ++ Toy.lib.cidString 112⟩ defaultTag)
        (Toy.lib.marshalIndexManifest (indexOf Toy.lib Toy.cidOf m'))
        ((wrapperOf Toy.lib Toy.cidOf m').digest :: (Toy.lib.sha256 (Toy.lib.marshalManifest m')).toHash ::
          m.config.digest :: m.layers.map (·.digest)) :=
  pull_ipfsImage Toy.lib Toy.lib_lawful Toy.unixfs_contentAddressed (Toy.rawImage_contract 2 [3, 4])
    (rfl : addImage Toy.lib Toy.unixfs [] (Toy.rawImage 2 [3, 4]) Toy.inOrder =
      .ok (112, (Toy.ingest (Toy.rawImage 2 [3, 4]) Toy.inOrder).2))
    (by decide) (by decide) (by decide) (by decide) (by decide) (by decide)

/-- **Admission moves a pull onto the store.** Take a cluster whose Name Map is published and
whose swarm has peers, and a remote reference whose image (not a schema 1 manifest) `AddImage`
ingests, as the add command's `ingest` does, with root `root`. Then `ripfs add reference`
completes; and from then on the webhook, resolving through that cluster and pointing at a
registry host `host` that `NewRepository` takes for one (an authority with a `.` or a `:`, one
path element, not `docker.io`), rewrites every container whose image is `reference` to
`host/ipfs/<cid>`, which a puller parses as the tag `latest` of `ipfs/<cid>` on `host`; and
`ripfs serve` over the store `AddImage` wrote answers the pull's requests: the index under the
tag, and every digest of the graph the run wrote with content whose SHA-256 it is. -/
theorem pull_after_add {CRest PRest Raw : Type} (self : String) (hL : L.Lawful)
    (hS : S.ContentAddressed cidOf L.undef) {ld : Loader (Image Bytes)}
    {ingest : Image Bytes → Except String String} {c : Cluster} {m₀ : NameMap}
    {reference mt : String} {ref : Reference} (hc : Published self c m₀) (hpeer : c.peered = true)
    (hp : parseReference isAuthority reference = .ok ref) (hmt : ld.remoteMediaType ref = .ok mt)
    (hmt1 : mt ≠ dockerManifestSchema1 ∧ mt ≠ dockerManifestSchema1Signed)
    (himg : ld.remoteImage ref = .ok img) (hi : ingest img = .ok ("/ipfs/" ++ L.cidString root))
    (hC : img.ContentContract L) (hrun : addImage L S st img sched = .ok (root, st'))
    (hcid : cidPattern (L.cidString root) = true) (hlen : (L.cidString root).length ≤ 250)
    (hA : isAuthority host = true) (hhost : '.' ∈ host.data ∨ ':' ∈ host.data)
    (hplain : PlainElem host) (halias : host ≠ defaultRegistryAlias) :
    ∃ c', addCommandRun self ld isAuthority ingest c reference = .ok c' ∧
      ∀ (h : PodRelocator CRest PRest Raw) (ctr : Container CRest),
        h.resolve = resolve self isAuthority c' → h.registry = host → ctr.image = reference →
        ∃ m m', img.manifest = .ok m ∧ root = rootOf L cidOf m' ∧
          Stores S cidOf st' (records L cidOf m') ∧
          (h.relocated ctr).image = host ++ "/ipfs/" ++ L.cidString root ∧
          parseReference isAuthority (h.relocated ctr).image =
            .ok (.tag ⟨⟨host⟩, "ipfs/" ++ L.cidString root⟩ defaultTag) ∧
          Pulls L (listenAndServe L (S.get st')) host
            (.tag ⟨⟨host⟩, "ipfs/" ++ L.cidString root⟩ defaultTag)
            (L.marshalIndexManifest (indexOf L cidOf m'))
            ((wrapperOf L cidOf m').digest :: (L.sha256 (L.marshalManifest m')).toHash ::
              m.config.digest :: m.layers.map (·.digest)) := by
  have hs : (parseReference isAuthority reference).map Reference.name = .ok ref.name := by
    rw [hp]
    rfl
  refine ⟨c.publish (m₀.put ref.name ("/ipfs/" ++ L.cidString root)), ?_, ?_⟩
  · simp [addCommandRun, loadImages_remote ld isAuthority hp hmt hmt1 himg, hi,
      updateCidMap_of_published self hc]
  rintro h ctr hres rfl himage
  -- the webhook resolves the image to the root path the add command recorded
  have hresolve : h.resolve ctr.image = .ok ("/ipfs/" ++ L.cidString root) := by
    rw [hres, himage, resolve_of_published self isAuthority (hc.publish self _) hs,
      GoMap.lookup_put_self]
    exact if_pos hpeer
  have hne : h.registry ≠ "" := fun he => hplain.1 (by rw [he])
  have hnew : (h.relocated ctr).image = h.registry ++ "/ipfs/" ++ L.cidString root := by
    simp [PodRelocator.relocated, PodRelocator.resolved, hresolve, Except.toOption,
      PodRelocator.prefixIpfsRegistry, pathJoin, hne,
      pathClean_ipfsPath hplain (plainElem_of_cidPattern hcid)]
  -- and the registry serves what `AddImage` wrote under that root
  obtain ⟨m, m', hm, hroot, hst, hindex, hds⟩ := addImage_served L hL hS hC hrun
  obtain ⟨hp', hpull⟩ := pulls_of_served hA hhost hplain halias hcid hlen hindex hds
  exact ⟨m, m', hm, hroot, hst, hnew, hnew ▸ hp', hpull⟩

/-- A remote loader serving the two-layer image for every reference. -/
def Toy.imageLoader : Loader (Image Toy.Blob) where
  remoteMediaType _ := .ok Toy.manifestType
  remoteImage _ := .ok (Toy.rawImage 2 [3, 4])
  stat _ := .error "no such file or directory"
  layoutIndex _ := .error "not a layout"
  layoutImage _ _ := .error "not a layout"
  tarballImage _ := .error "not a tarball"

/-- The add command's `ingest` over the empty store: `AddImage`, then the root's path. -/
def Toy.addImagePath (img : Image Toy.Blob) : Except String String :=
  (addImage Toy.lib Toy.unixfs [] img Toy.inOrder).map fun r => "/ipfs/" ++ Toy.lib.cidString r.1

/-- `ripfs add alpine` of the two-layer image, then a pod of `alpine` admitted by a webhook at
`localhost:31609`. -/
theorem Toy.pull_after_add_alpine :
    ∃ c', addCommandRun Toy.selfKey Toy.imageLoader Toy.authority Toy.addImagePath Toy.reconciled
        "alpine" = .ok c' ∧
      ∀ (h : PodRelocator Unit Unit Unit) (ctr : Container Unit),
        h.resolve = resolve Toy.selfKey Toy.authority c' → h.registry = "localhost:31609" →
        ctr.image = "alpine" →
        ∃ m m', (Toy.rawImage 2 [3, 4]).manifest = .ok m ∧ 112 = rootOf Toy.lib Toy.cidOf m' ∧
          Stores Toy.unixfs Toy.cidOf (Toy.ingest (Toy.rawImage 2 [3, 4]) Toy.inOrder).2
            (records Toy.lib Toy.cidOf m') ∧
          (h.relocated ctr).image = "localhost:31609" ++ "/ipfs/" ++ Toy.lib.cidString 112 ∧
          parseReference Toy.authority (h.relocated ctr).image =
            .ok (.tag ⟨⟨"localhost:31609"⟩, "ipfs/" ++ Toy.lib.cidString 112⟩ defaultTag) ∧
          Pulls Toy.lib
            (listenAndServe Toy.lib (Toy.unixfs.get (Toy.ingest (Toy.rawImage 2 [3, 4]) Toy.inOrder).2))
            "localhost:31609" (.tag ⟨⟨"localhost:31609"⟩, "ipfs/" ++ Toy.lib.cidString 112⟩ defaultTag)
            (Toy.lib.marshalIndexManifest (indexOf Toy.lib Toy.cidOf m'))
            ((wrapperOf Toy.lib Toy.cidOf m').digest ::
              (Toy.lib.sha256 (Toy.lib.marshalManifest m')).toHash ::
              m.config.digest :: m.layers.map (·.digest)) :=
  pull_after_add Toy.lib Toy.selfKey Toy.lib_lawful Toy.unixfs_contentAddressed
    (⟨rfl, rfl⟩ : Published Toy.selfKey Toy.reconciled []) rfl
    (rfl : parseReference Toy.authority "alpine" = .ok (.tag ⟨⟨defaultRegistry⟩, "alpine"⟩ defaultTag))
    rfl (by decide) rfl rfl (Toy.rawImage_contract 2 [3, 4])
    (rfl : addImage Toy.lib Toy.unixfs [] (Toy.rawImage 2 [3, 4]) Toy.inOrder =
      .ok (112, (Toy.ingest (Toy.rawImage 2 [3, 4]) Toy.inOrder).2))
    (by decide) (by decide) (by decide) (by decide) (by decide) (by decide)

end Ingested

end Ripfs
