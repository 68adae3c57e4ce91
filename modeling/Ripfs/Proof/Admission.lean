import Ripfs.Webhook

/-!
# What admission does to a pod

`Handle` is pointwise. Each container leaves admission rewritten by its own image alone, through
the partial function the mapper stands for, and the two container lists keep their length and
order; the response is a patch exactly when some image resolved, and only a pod that does not
decode is refused. The loop's `changed` map is where this is not obvious: it is shared by the two
loops and read once, for emptiness.

A resolved image is `path.Join(registry, v)` for the value `v` the Name Map holds, a root path
`/ipfs/<cid>`. For a registry host and a CID that are each one plain path element, as the default
`localhost:31609` and every CID text are, that is the host, `/ipfs/` and the CID: the doubled
slash goes.
-/

namespace Ripfs

section Handler

variable {CRest PRest Raw : Type} (h : PodRelocator CRest PRest Raw)

/-- The partial function the mapper stands for: `Resolve(s)` returns `c` exactly when this is
`some c`. -/
def PodRelocator.resolved (s : String) : Option String := (h.resolve s).toOption

/-- A container as it should leave admission: its image `path.Join(registry, cid)` when it
resolves to `cid`, untouched otherwise. -/
def PodRelocator.relocated (c : Container CRest) : Container CRest :=
  match h.resolved c.image with
  | some cid => { c with image := pathJoin h.registry cid }
  | none => c

/-- The writes one loop makes to `changed`, in order. -/
def PodRelocator.hits (cs : List (Container CRest)) : List (String × String) :=
  cs.filterMap fun c => (h.resolved c.image).map fun cid => (c.image, pathJoin h.registry cid)

/-- One loop maps every container to its relocation and puts its hits, last first, in front of
`changed`. -/
theorem relocate_eq :
    ∀ (cs : List (Container CRest)) (changed : List (String × String)),
      h.relocate cs changed = (cs.map h.relocated, (h.hits cs).reverse ++ changed)
  | [], _ => rfl
  | c :: cs, changed => by
    unfold PodRelocator.relocate
    cases hr : h.resolve c.image <;>
      simp [relocate_eq cs, PodRelocator.relocated, PodRelocator.resolved, PodRelocator.hits, hr,
        Except.toOption, PodRelocator.prefixIpfsRegistry]

theorem hits_eq_nil (cs : List (Container CRest)) :
    h.hits cs = [] ↔ ∀ c ∈ cs, h.resolved c.image = none := by
  simp [PodRelocator.hits, List.filterMap_eq_nil_iff]

/-- **Admission is pointwise.** A request whose pod does not decode is refused with 400 and the
decoder's error. Otherwise the response is a patch to the pod in which every init container and
every container whose image resolves to `cid` gets the image `path.Join(registry, cid)`, and
nothing else changes, exactly when some image resolves; when none does it is `Allowed` with no
patch. A failed `Resolve` only leaves its container as it was. -/
theorem handle_pointwise (req : Raw) :
    h.handle req =
      match h.decode req with
      | .error err => .errored statusBadRequest err
      | .ok pod =>
        if (pod.initContainers ++ pod.containers).any fun c => (h.resolved c.image).isSome then
          .patch req (h.marshal { pod with initContainers := pod.initContainers.map h.relocated,
                                           containers := pod.containers.map h.relocated })
        else .allowed "no image resolutions found" := by
  unfold PodRelocator.handle
  cases h.decode req with
  | error err => rfl
  | ok pod =>
    simp only [relocate_eq, List.append_nil]
    have hnil : (h.hits pod.containers).reverse ++ (h.hits pod.initContainers).reverse = [] ↔
        (pod.initContainers ++ pod.containers).any (fun c => (h.resolved c.image).isSome) = false := by
      rw [List.append_eq_nil, List.reverse_eq_nil_iff, List.reverse_eq_nil_iff, hits_eq_nil,
        hits_eq_nil]
      simp [List.any_eq_false, or_imp, forall_and, and_comm]
    cases hc : (pod.initContainers ++ pod.containers).any fun c => (h.resolved c.image).isSome
    · simp [hnil.mpr hc]
    · rw [if_pos (List.length_pos.mpr (mt hnil.mp (by rw [hc]; decide))), if_pos rfl]

end Handler

/-! ### A second admission

The webhook is registered for `UPDATE` as well as `CREATE`, and the API server may call a
mutating webhook again on the pod it patched, so a relocated pod comes back to `Handle`. A
relocated image names the registry. When no image the mapper resolves is a relocated one, the
second admission finds nothing to change. -/

section Readmission

variable {CRest PRest Raw : Type} (h : PodRelocator CRest PRest Raw)
  (hfix : ∀ s cid, h.resolved s = some cid → h.resolved (h.prefixIpfsRegistry cid) = none)
include hfix

theorem resolved_relocated (c : Container CRest) : h.resolved (h.relocated c).image = none := by
  unfold PodRelocator.relocated
  cases hc : h.resolved c.image with
  | none => exact hc
  | some cid => exact hfix _ _ hc

theorem hits_map_relocated (cs : List (Container CRest)) : h.hits (cs.map h.relocated) = [] :=
  (hits_eq_nil h _).mpr fun c hc => by
    obtain ⟨c₀, -, rfl⟩ := List.mem_map.mp hc
    exact resolved_relocated h hfix c₀

/-- **A second admission changes nothing.** For a mapper that resolves no relocated image, and a
decoder that reads back what the handler marshals, the pod a patch answer carries is admitted
again with no patch. -/
theorem handle_readmit (hdec : ∀ pod, h.decode (h.marshal pod) = .ok pod) {req current : Raw}
    (hreq : h.handle req = .patch req current) :
    h.handle current = .allowed "no image resolutions found" := by
  unfold PodRelocator.handle at hreq ⊢
  cases hd : h.decode req with
  | error e => simp [hd] at hreq
  | ok pod =>
    simp only [hd, relocate_eq, List.append_nil] at hreq
    split at hreq
    · cases hreq
      simp [hdec, relocate_eq, hits_map_relocated h hfix]
    · cases hreq

end Readmission

/-! ### The new image -/

/-- `path.Clean` of a plain element joined to a root path of one plain element under `ipfs`
drops the doubled slash. -/
theorem pathClean_ipfsPath {a c : String} (ha : PlainElem a) (hc : PlainElem c) :
    pathClean (a ++ "/" ++ ("/ipfs/" ++ c)) = a ++ "/ipfs/" ++ c := by
  obtain ⟨x, xs, hax⟩ := List.exists_cons_of_ne_nil ha.1
  have hx : (x == '/') = false :=
    beq_false_of_ne fun h => ha.2.1 (h ▸ hax ▸ List.mem_cons_self x xs)
  have hjoin : (a ++ "/" ++ ("/ipfs/" ++ c)).data =
      ['/'].intercalate [a.data, [], "ipfs".data, c.data] := by
    simp [List.intercalate]
  have hdata : (a ++ "/" ++ ("/ipfs/" ++ c)).data =
      x :: (xs ++ '/' :: '/' :: 'i' :: 'p' :: 'f' :: 's' :: '/' :: c.data) := by
    simp [hax]
  have hsplit : (x :: (xs ++ '/' :: '/' :: 'i' :: 'p' :: 'f' :: 's' :: '/' :: c.data)).splitOn '/' =
      [a.data, [], "ipfs".data, c.data] := by
    rw [← hdata, hjoin]
    refine List.splitOn_intercalate _ _ ?_ (List.cons_ne_nil _ _)
    simpa using ⟨ha.2.1, hc.2.1⟩
  have hclean :
      cleanElems false [] [a.data, [], "ipfs".data, c.data] = [c.data, "ipfs".data, a.data] := by
    rw [cleanElems_of_plain false [] _ (by simpa [PlainElem] using ⟨.inr ha, .inr hc⟩)]
    simp [ha.1, hc.1]
  unfold pathClean
  simp only [hdata, hx, hsplit, hclean, Bool.false_eq_true, if_false, List.reverse_cons,
    List.reverse_nil, List.nil_append, List.cons_append, List.singleton_append]
  rw [if_neg (by simp [List.intercalate])]
  exact String.ext (by simp [List.intercalate])

/-- **The new image of a resolved container.** The Name Map holds root paths `/ipfs/<cid>`. With
a registry host and a CID that are each one plain path element, as the default
`localhost:31609` and every CID text are, `prefixIpfsRegistry` of such a path is the host,
`/ipfs/` and the CID. -/
theorem prefixIpfsRegistry_ipfsPath {CRest PRest Raw : Type} (h : PodRelocator CRest PRest Raw)
    {cid : String} (hreg : PlainElem h.registry) (hcid : PlainElem cid) :
    h.prefixIpfsRegistry ("/ipfs/" ++ cid) = h.registry ++ "/ipfs/" ++ cid := by
  have hne : h.registry ≠ "" := fun he => hreg.1 (by rw [he])
  simp only [PodRelocator.prefixIpfsRegistry, pathJoin, if_pos hne, pathClean_ipfsPath hreg hcid]

/-- The handler the `ripfs` webhook starts with its default registry flag. -/
def defaultRelocator : PodRelocator Unit Unit Unit :=
  ⟨fun _ => .ok ⟨[], [], ()⟩, fun _ => (), fun s => .ok s, "localhost:31609"⟩

theorem prefixIpfsRegistry_default :
    defaultRelocator.prefixIpfsRegistry "/ipfs/bafybeigdyrzt" = "localhost:31609/ipfs/bafybeigdyrzt" :=
  prefixIpfsRegistry_ipfsPath defaultRelocator (by decide) (by decide)

/-- A handler whose mapper knows only `alpine`, over pods carried as they are. -/
def alpineRelocator : PodRelocator Unit Unit (Pod Unit Unit) :=
  ⟨.ok, id, fun s => if s = "alpine" then .ok "/ipfs/bafyalpine" else .error "cid does not exist",
    "localhost:31609"⟩

def alpinePod : Pod Unit Unit := ⟨[], [⟨"app", "alpine", ()⟩], ()⟩

/-- A pod of `alpine` is patched once, and its patched pod is admitted again unchanged. -/
theorem handle_readmit_alpine :
    alpineRelocator.handle alpinePod =
        .patch alpinePod ⟨[], [⟨"app", "localhost:31609/ipfs/bafyalpine", ()⟩], ()⟩ ∧
      alpineRelocator.handle ⟨[], [⟨"app", "localhost:31609/ipfs/bafyalpine", ()⟩], ()⟩ =
        .allowed "no image resolutions found" :=
  ⟨rfl, handle_readmit alpineRelocator
    (fun s cid hs => by
      by_cases ha : s = "alpine"
      · simp only [PodRelocator.resolved, alpineRelocator, ha, if_true, Except.toOption,
          Option.some.injEq] at hs
        subst hs
        rfl
      · simp [PodRelocator.resolved, alpineRelocator, ha, Except.toOption] at hs)
    (fun _ => rfl) (rfl : alpineRelocator.handle alpinePod = .patch alpinePod _)⟩

end Ripfs
