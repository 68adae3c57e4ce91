import Ripfs.Reference

/-!
# Loading images for `ripfs add`

`addCommandOpts.loadImages` and its three loaders. The argument is first tried as a remote
reference; if `ParseReference` refuses it, it is a local path, a directory being an OCI layout
and anything else a docker tarball. Each loader fills the `map[string]v1.Image` that `Run` then
walks, ingesting every image and recording its root handle in the Name Map under the image's
key.

What the loaders read outside the registry code (the remote registry, the file system, the
layout and tarball readers) is a `Loader`.
-/

namespace Ripfs

/-- `ocispec.AnnotationTitle`. -/
def annotationTitle : String := "org.opencontainers.image.title"

def dockerManifestSchema1 : String := "application/vnd.docker.distribution.manifest.v1+json"

def dockerManifestSchema1Signed : String :=
  "application/vnd.docker.distribution.manifest.v1+prettyjws"

/-- The `map[string]v1.Image` the loaders fill. -/
abbrev ImageMap (Img : Type) := GoMap Img

/-- An OCI layout's index manifest, by the fields `loadImagesFromLayout` reads. -/
structure LayoutIndex where
  annotations : List (String × String)
  manifests : List Hash

/-- `idxm.Annotations[ocispec.AnnotationTitle]`: the empty string when it is absent. -/
def LayoutIndex.title (idx : LayoutIndex) : String := (idx.annotations.lookup annotationTitle).getD ""

/-- The calls the loaders make outside the registry code. -/
structure Loader (Img : Type) where
  /-- `remote.Get(ref).MediaType`. -/
  remoteMediaType : Reference → Except String String
  /-- `remote.Image(ref)`. -/
  remoteImage : Reference → Except String Img
  /-- `os.Stat(path)`, by `IsDir()`. -/
  stat : String → Except String Bool
  /-- `layout.FromPath(path)`, then `ImageIndex()` and `IndexManifest()`. -/
  layoutIndex : String → Except String LayoutIndex
  /-- `idx.Image(digest)` on the layout at the path. -/
  layoutImage : String → Hash → Except String Img
  /-- `tarball.ImageFromPath(path, nil)`. -/
  tarballImage : String → Except String Img

section Loaders

variable {Img : Type} (ld : Loader Img)

/-- `loadImagesFromRemote`: refuse a schema 1 manifest, record the image under `ref.Name()`. -/
def loadImagesFromRemote (ref : Reference) (imgMap : ImageMap Img) :
    Except String (ImageMap Img) := do
  let mt ← ld.remoteMediaType ref
  if mt = dockerManifestSchema1 ∨ mt = dockerManifestSchema1Signed then throw ("lol no: " ++ mt)
  let img ← ld.remoteImage ref
  pure (imgMap.put ref.name img)

/-- `loadImagesFromTar`: the one image, under `temp`. -/
def loadImagesFromTar (path : String) (imgMap : ImageMap Img) : Except String (ImageMap Img) := do
  let img ← ld.tarballImage path
  pure (imgMap.put "temp" img)

/-- `loadImagesFromLayout`: every manifest's image, each under the index's title annotation. -/
def loadImagesFromLayout (path : String) (imgMap : ImageMap Img) :
    Except String (ImageMap Img) := do
  let idx ← ld.layoutIndex path
  idx.manifests.foldlM (fun imgMap d => do
    let img ← (ld.layoutImage path d).mapError ("layout appears to be mismatched: " ++ ·)
    pure (imgMap.put idx.title img)) imgMap

/-- `loadImages`: a remote reference if `ParseReference` takes the argument, else a layout
directory or a tarball. -/
def loadImages (isAuthority : String → Bool) (reference : String) : Except String (ImageMap Img) :=
  match parseReference isAuthority reference with
  | .ok iref => loadImagesFromRemote ld iref []
  | .error _ =>
    match ld.stat reference with
    | .error _ => .error ("provided reference " ++ reference ++
        " is neither a valid remote image or local path")
    | .ok isDir =>
      if isDir then loadImagesFromLayout ld reference [] else loadImagesFromTar ld reference []

end Loaders

end Ripfs
