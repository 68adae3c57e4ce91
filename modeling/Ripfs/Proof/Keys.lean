import Ripfs.AddCommand

/-!
# The keys `ripfs add` records

`IpnsCidMapper.Resolve` looks an image up under `ParseReference(s).Name()`, and every such name
has a slash: the registry's name and the repository's are joined by one, and the registry's is
never empty. A tarball's image is recorded under `temp`, which has none, so no pod image string
finds it. A layout's images are all recorded under one key, the title annotation of the layout's
index (not of each manifest), so the map keeps the last and the others are never ingested.
-/

namespace Ripfs

theorem registryStr_ne_empty (r : Registry) : r.registryStr ≠ "" := by
  unfold Registry.registryStr
  split
  · assumption
  · decide

theorem slash_mem_repository_name (r : Repository) : '/' ∈ r.name.data := by
  simp [Repository.name, registryStr_ne_empty]

/-- Every reference's `Name()` has a slash. -/
theorem slash_mem_name (r : Reference) : '/' ∈ r.name.data := by
  cases r <;> simp [Reference.name, slash_mem_repository_name]

section Parse

variable {isAuthority : String → Bool}

theorem newRegistry_empty (hA : isAuthority "" = true) :
    newRegistry isAuthority "" = .ok ⟨defaultRegistry⟩ := by
  simp [newRegistry, hA, defaultRegistry, defaultRegistryAlias]

/-- `ParseReference("temp")` is the tag `latest` of Docker Hub's `library/temp`. -/
theorem parseReference_temp (hA : isAuthority "" = true) :
    parseReference isAuthority "temp" = .ok (.tag ⟨⟨defaultRegistry⟩, "temp"⟩ defaultTag) := by
  have hrepo : newRepository isAuthority "temp" =
      (newRegistry isAuthority "").map fun reg => ⟨reg, "temp"⟩ := rfl
  have htag : newTag isAuthority "temp" =
      (newRepository isAuthority "temp").map fun repo => .tag repo defaultTag := rfl
  rw [parseReference, htag, hrepo, newRegistry_empty hA]
  rfl

end Parse

section Layout

variable {Img : Type}

/-- Putting a run of images under one key leaves the last. -/
theorem foldlM_put (f : Hash → Except String Img) (g : String → String) (k : String) :
    ∀ (ds : List Hash) (m : ImageMap Img) (imgs : List Img), ds.mapM f = .ok imgs →
      ds.foldlM (fun m d => do
          let img ← (f d).mapError g
          pure (m.put k img)) m =
        .ok (match imgs.getLast? with
          | some img => m.put k img
          | none => m)
  | [], m, imgs, h => by
    cases h
    rfl
  | d :: ds, m, imgs, h => by
    rw [List.mapM_cons] at h
    obtain ⟨img, hd, h⟩ := bind_eq_ok.mp h
    obtain ⟨imgs', hds, h⟩ := bind_eq_ok.mp h
    cases h
    simp only [List.foldlM_cons, hd, mapError_ok, ok_bind, pure_bind]
    rw [foldlM_put f g k ds _ imgs' hds]
    cases imgs' with
    | nil => rfl
    | cons i is =>
      simp only [List.getLast?_cons_cons, List.getLast?_cons, Option.getD_some, GoMap.put_put]

end Layout

section Loaders

variable {Img : Type} (ld : Loader Img) (isAuthority : String → Bool)

/-- **The keys of local images.** A path `ParseReference` refuses that is a file loads as one
tarball image under `temp`; `ParseReference("temp")` succeeds and names
`index.docker.io/library/temp:latest`, and no reference is named `temp`. A directory loads every
image of the layout's index under the index's title annotation, so the map keeps only the last
image. -/
theorem loadImages_keys (hA : isAuthority "" = true) :
    (∀ path img, (parseReference isAuthority path).toOption = none → ld.stat path = .ok false →
      ld.tarballImage path = .ok img → loadImages ld isAuthority path = .ok [("temp", img)]) ∧
    (parseReference isAuthority "temp").map Reference.name =
      .ok "index.docker.io/library/temp:latest" ∧
    (∀ r : Reference, r.name ≠ "temp") ∧
    (∀ path idx imgs, (parseReference isAuthority path).toOption = none →
      ld.stat path = .ok true → ld.layoutIndex path = .ok idx →
      idx.manifests.mapM (ld.layoutImage path) = .ok imgs →
      loadImages ld isAuthority path =
        .ok (imgs.getLast?.toList.map fun img => (idx.title, img))) := by
  refine ⟨fun path img hp hs ht => ?_, by rw [parseReference_temp hA]; rfl,
    fun r h => by simpa [h] using slash_mem_name r, fun path idx imgs hp hs hi himgs => ?_⟩
  · cases hpr : parseReference isAuthority path with
    | ok r => simp [hpr, Except.toOption] at hp
    | error e => simp [loadImages, hpr, hs, loadImagesFromTar, ht, GoMap.put]
  · cases hpr : parseReference isAuthority path with
    | ok r => simp [hpr, Except.toOption] at hp
    | error e =>
      simp only [loadImages, hpr, hs, if_true, loadImagesFromLayout, hi, ok_bind,
        foldlM_put _ _ _ _ _ imgs himgs]
      cases imgs.getLast? <;> rfl

/-- A reference `ParseReference` takes loads as the one remote image, under its `Name()`. -/
theorem loadImages_remote {reference mt : String} {ref : Reference} {img : Img}
    (hp : parseReference isAuthority reference = .ok ref) (hmt : ld.remoteMediaType ref = .ok mt)
    (hmt1 : mt ≠ dockerManifestSchema1 ∧ mt ≠ dockerManifestSchema1Signed)
    (himg : ld.remoteImage ref = .ok img) :
    loadImages ld isAuthority reference = .ok [(ref.name, img)] := by
  simp [loadImages, hp, loadImagesFromRemote, hmt, hmt1, himg, GoMap.put]

end Loaders

namespace Toy

/-- A stand-in for net/url's authority check: no path, query, fragment or user info. -/
def authority (s : String) : Bool := !s.data.any (fun c => c ∈ ['/', '?', '#', '@'])

/-- A loader with a tarball at `/tmp/Alpine.tar` and a two-image layout at `/tmp/Layout`. -/
def loader : Loader Nat where
  remoteMediaType _ := .error "no network"
  remoteImage _ := .error "no network"
  stat p := if p = "/tmp/Layout" then .ok true else if p = "/tmp/Alpine.tar" then .ok false
    else .error "no such file or directory"
  layoutIndex _ := .ok ⟨[(annotationTitle, "alpine")], [⟨"sha256", "1"⟩, ⟨"sha256", "2"⟩]⟩
  layoutImage _ h := if h = ⟨"sha256", "1"⟩ then .ok 1 else .ok 2
  tarballImage _ := .ok 7

/-- The tarball goes under `temp`; of the layout's two images only the second is kept. -/
theorem loadImages_keys_samples :
    loadImages loader authority "/tmp/Alpine.tar" = .ok [("temp", 7)] ∧
    (parseReference authority "temp").map Reference.name =
      .ok "index.docker.io/library/temp:latest" ∧
    loadImages loader authority "/tmp/Layout" = .ok [("alpine", 2)] := by
  obtain ⟨htar, htemp, -, hlayout⟩ := loadImages_keys loader authority rfl
  exact ⟨htar "/tmp/Alpine.tar" 7 rfl rfl rfl, htemp,
    hlayout "/tmp/Layout" _ [1, 2] rfl rfl rfl rfl⟩

end Toy

end Ripfs
