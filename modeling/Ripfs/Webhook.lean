import Ripfs.Basic

/-!
# The admission webhook

`podRelocatorHandler.Handle` of the webhook package: decode the pod under admission, resolve the
image of every init container and then of every container through the `CidMapper`, point each
image that resolves at the registry, and answer with a patch when one did.

The handler reads its decoder, the mapper's `Resolve` and the registry host; each is a field of
`PodRelocator`. Go's `path.Join`, which builds the new image, is `pathJoin` of `Basic`.
-/

namespace Ripfs

/-! ### The handler -/

/-- A `corev1.Container`: the two fields `Handle` reads, and the rest it carries along. -/
structure Container (Rest : Type) where
  name : String
  image : String
  rest : Rest

/-- A `corev1.Pod`: its init containers, its containers, and every other field. -/
structure Pod (CRest PRest : Type) where
  initContainers : List (Container CRest)
  containers : List (Container CRest)
  rest : PRest

/-- An `admission.Response`, by the three ways `Handle` builds one. -/
inductive Response (Raw : Type) where
  /-- `admission.Errored(code, err)`. -/
  | errored (code : Nat) (msg : String)
  /-- `admission.PatchResponseFromRaw(original, current)`: the patch from the request's object
  to the marshalled pod. -/
  | patch (original current : Raw)
  /-- `admission.Allowed(reason)`, with no patch. -/
  | allowed (reason : String)
  deriving DecidableEq, Repr

/-- `http.StatusBadRequest`. -/
def statusBadRequest : Nat := 400

/-- `podRelocatorHandler`: its decoder, its `CidMapper.Resolve` and its registry host. A pod's
`json.Marshal` is total (a `corev1.Pod` has no field encoding/json refuses), so the handler's
`StatusInternalServerError` branch is never taken and `marshal` returns the bytes. -/
structure PodRelocator (CRest PRest Raw : Type) where
  decode : Raw → Except String (Pod CRest PRest)
  marshal : Pod CRest PRest → Raw
  resolve : String → Except String String
  registry : String

section Handler

variable {CRest PRest Raw : Type} (h : PodRelocator CRest PRest Raw)

/-- `prefixIpfsRegistry`. -/
def PodRelocator.prefixIpfsRegistry (cid : String) : String := pathJoin h.registry cid

/-- One of `Handle`'s two loops: resolve each container's image in order; a hit rewrites the
image and is written to `changed` under the old image, a miss is skipped. `changed` is the list
of its writes: the handler only asks whether it is empty. -/
def PodRelocator.relocate :
    List (Container CRest) → List (String × String) → List (Container CRest) × List (String × String)
  | [], changed => ([], changed)
  | c :: cs, changed =>
    match h.resolve c.image with
    | .error _ =>
      let (cs', changed) := PodRelocator.relocate cs changed
      (c :: cs', changed)
    | .ok cid =>
      let resolved := h.prefixIpfsRegistry cid
      let (cs', changed) := PodRelocator.relocate cs ((c.image, resolved) :: changed)
      ({ c with image := resolved } :: cs', changed)

/-- `podRelocatorHandler.Handle` on a request whose object is `req`. -/
def PodRelocator.handle (req : Raw) : Response Raw :=
  match h.decode req with
  | .error err => .errored statusBadRequest err
  | .ok pod =>
    let (initContainers, changed) := h.relocate pod.initContainers []
    let (containers, changed) := h.relocate pod.containers changed
    let pod := { pod with initContainers, containers }
    if changed.length > 0 then .patch req (h.marshal pod)
    else .allowed "no image resolutions found"

end Handler

end Ripfs
