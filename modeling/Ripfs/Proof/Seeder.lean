import Ripfs.Seeder
import Ripfs.Proof.Stable
import Ripfs.Proof.Pull

/-!
# What seeding leaves in the nodes

With content addressing, every pod's goroutine computes the same reference for each image. So
the unordered writes to `refs` agree: whatever their order, `Seed` returns the references each
pod computed. Each pod's store also keeps every image it loaded, so every seed pod's registry
answers a pull of every reference `Seed` returns. Seed pods are not reached one by one: the
loader jobs pull through the `seeder` service, which may route a pull to any of them.
-/

namespace Ripfs

variable {Bytes Cid St : Type} (L : Lib Bytes Cid) {S : Unixfs St Bytes Cid} {cidOf : Bytes → Cid}
  {u : Cid}

/-! ### One goroutine -/

section Goroutine

variable (S) (env : SeedEnv Bytes)

/-- `r` is the root of an `AddImage` run of `img` whose store `st'` extends. -/
def LoadedAt (st' : St) (r : Cid) (img : Image Bytes) : Prop :=
  ∃ st₀ sched st₁, addImage L S st₀ img sched = .ok (r, st₁) ∧ Extends S st₁ st'

/-- The reference `load` returns for the root `r`. -/
def seedRef (r : Cid) : String := seedRegistry ++ L.ipfsPath r

variable {S}

theorem load_ok {node : String} {st st' : St} {img : Image Bytes} {sched : Schedule (Layer Bytes)}
    {ref : String} (h : load L S env node st img sched = .ok (ref, st')) :
    ∃ r, addImage L S st img sched = .ok (r, st') ∧ ref = seedRef L r := by
  obtain ⟨_, -, h⟩ := bind_eq_ok.mp h
  obtain ⟨⟨r, st₁⟩, hadd, h⟩ := bind_eq_ok.mp h
  obtain ⟨_, -, h⟩ := bind_eq_ok.mp h
  cases h
  exact ⟨r, hadd, rfl⟩

/-- A goroutine's loop that ends without error wrote, at each index from `i` on, the reference
of a root of its image, and its store keeps every image it loaded. -/
theorem loadFrom_ok (hS : S.ContentAddressed cidOf u) (pod : SeedPod St Bytes) :
    ∀ {imgs : List (Image Bytes)} {i : Nat} {st st' : St},
      (loadFrom L S env pod i st imgs).2 = .ok st' →
      ∃ roots, (loadFrom L S env pod i st imgs).1 = (roots.map (seedRef L)).enumFrom i ∧
        List.Forall₂ (LoadedAt L S st') roots imgs ∧ Extends S st st'
  | [], _, st, _, h => by
    cases h
    exact ⟨[], rfl, .nil, Extends.refl S st⟩
  | img :: imgs, i, st, st', h => by
    simp only [loadFrom] at h ⊢
    cases hl : load L S env pod.node st img (pod.sched i) with
    | error e => simp [hl] at h
    | ok p =>
      obtain ⟨ref, st₁⟩ := p
      simp only [hl] at h ⊢
      obtain ⟨r, hadd, rfl⟩ := load_ok L env hl
      obtain ⟨roots, hw, hF, hext⟩ := loadFrom_ok hS pod h
      have hext₀ : Extends S st st₁ := addImage_extends L hS hadd
      exact ⟨r :: roots, by rw [hw]; rfl, .cons ⟨st, _, st₁, hadd, hext⟩ hF, hext₀.trans S hext⟩

theorem seedGoroutine_ok (hS : S.ContentAddressed cidOf u) {pod : SeedPod St Bytes}
    {imgs : List (Image Bytes)} {st' : St} (h : (seedGoroutine L S env pod imgs).2 = .ok st') :
    ∃ roots, (seedGoroutine L S env pod imgs).1 = (roots.map (seedRef L)).enum ∧
      List.Forall₂ (LoadedAt L S st') roots imgs := by
  unfold seedGoroutine at h ⊢
  cases hc : pod.connect with
  | error e => simp [hc] at h
  | ok st =>
    simp only [hc] at h ⊢
    obtain ⟨roots, hw, hF, -⟩ := loadFrom_ok L env hS pod h
    exact ⟨roots, hw, hF⟩

/-- Two goroutines load the same roots. -/
theorem roots_eq_of_loaded (hS : S.ContentAddressed cidOf u) {st₁ st₂ : St} :
    ∀ {roots₁ roots₂ : List Cid} {imgs : List (Image Bytes)},
      (∀ img ∈ imgs, img.LayerDigestsIdentify) → List.Forall₂ (LoadedAt L S st₁) roots₁ imgs →
      List.Forall₂ (LoadedAt L S st₂) roots₂ imgs → roots₁ = roots₂
  | _, _, _, _, .nil, .nil => rfl
  | _, _, img :: imgs, himgs, .cons ⟨_, _, _, h₁, _⟩ hF₁, .cons ⟨_, _, _, h₂, _⟩ hF₂ => by
    rw [(addImage_same_graph L cidOf hS hS ((himgs img (List.mem_cons_self _ _)).agree) h₁ h₂).1,
      roots_eq_of_loaded hS (fun i hi => himgs i (List.mem_cons_of_mem _ hi)) hF₁ hF₂]

end Goroutine

theorem forall₂_getElem? {α β : Type} {R : α → β → Prop} :
    ∀ {l₁ : List α} {l₂ : List β}, List.Forall₂ R l₁ l₂ → ∀ {k : Nat} {b : β}, l₂[k]? = some b →
      ∃ a, l₁[k]? = some a ∧ R a b
  | _, _, .nil, _, _, h => by simp at h
  | _, _, .cons hab _, 0, _, h => by
    rw [List.getElem?_cons_zero, Option.some.injEq] at h
    exact ⟨_, List.getElem?_cons_zero, h ▸ hab⟩
  | _, _, .cons _ hF, _ + 1, _, h => by
    rw [List.getElem?_cons_succ] at h ⊢
    exact forall₂_getElem? hF h

/-! ### The writes to `refs` -/

theorem wait_ok : ∀ (outs : List (Except String St)), wait outs = .ok () →
    ∀ o ∈ outs, ∃ st, o = .ok st
  | [], _, o, ho => absurd ho (List.not_mem_nil o)
  | .error _ :: _, h, _, _ => (nomatch h)
  | .ok st :: outs, h, o, ho => (List.mem_cons.mp ho).elim (fun h => ⟨st, h⟩) (wait_ok outs h o)

/-- Writes of `R`'s own entries leave every slot as it was or as `R` has it. -/
theorem getElem?_foldl_set {R : List String} :
    ∀ (ws : List (Nat × String)) (refs : List String), (∀ w ∈ ws, w ∈ R.enum) → ∀ i,
      (ws.foldl (fun refs w => refs.set w.1 w.2) refs)[i]? =
        if i ∈ ws.map Prod.fst then refs[i]?.bind fun _ => R[i]? else refs[i]?
  | [], _, _, _ => rfl
  | w :: ws, refs, hws, i => by
    rw [List.foldl_cons, getElem?_foldl_set ws _ (fun w' h => hws w' (List.mem_cons_of_mem _ h))]
    by_cases hi : w.1 = i
    · have hR : R[i]? = some w.2 := hi ▸ List.mem_enum_iff_getElem?.mp (hws w (List.mem_cons_self _ _))
      subst hi
      cases h : refs[w.1]? <;> simp [hR, List.getElem?_set_self', h]
    · rw [List.getElem?_set_ne hi]
      simp only [List.map_cons, List.mem_cons, Ne.symm hi, false_or]

/-- Writes that are exactly the entries of `R`, each at least once, in any order, turn the
empty references into `R`. -/
theorem foldl_set_replicate {R : List String} {ws : List (Nat × String)}
    (hR : ∀ w ∈ ws, w ∈ R.enum) (hcov : ∀ w ∈ R.enum, w ∈ ws) :
    ws.foldl (fun refs w => refs.set w.1 w.2) (List.replicate R.length "") = R := by
  refine List.ext_getElem? fun i => ?_
  rw [getElem?_foldl_set ws _ hR]
  by_cases hi : i < R.length
  · have hmem : i ∈ ws.map Prod.fst :=
      List.mem_map.mpr ⟨_, hcov (i, R[i]) (List.mem_enum_iff_getElem?.mpr (List.getElem?_eq_getElem hi)),
        rfl⟩
    simp [hmem, hi]
  · rw [List.getElem?_eq_none (by simpa using Nat.le_of_not_lt hi),
      List.getElem?_eq_none (Nat.le_of_not_lt hi)]
    simp

/-! ### `Seed` -/

section Seed

variable (env : SeedEnv Bytes) {pods : List (SeedPod St Bytes)} {imgs : List (Image Bytes)}
  {writes : List (Nat × String)} {refs : List String}

theorem seed_ok (hok : seed L S env pods imgs writes = .ok refs) :
    (∀ pod ∈ pods, ∃ st', (seedGoroutine L S env pod imgs).2 = .ok st') ∧
      refs = writes.foldl (fun refs w => refs.set w.1 w.2) (List.replicate imgs.length "") := by
  obtain ⟨_, hw, h⟩ := bind_eq_ok.mp hok
  cases h
  exact ⟨fun pod hp => wait_ok _ hw _ (List.mem_map.mpr ⟨pod, hp, rfl⟩), rfl⟩

/-- Over a successful `Seed`, each pod loaded roots whose references are what `Seed` returns. -/
theorem seed_roots (hS : S.ContentAddressed cidOf u) (himgs : ∀ img ∈ imgs, img.LayerDigestsIdentify)
    (htrace : writes.Perm (pods.map fun pod => (seedGoroutine L S env pod imgs).1).flatten)
    (hok : seed L S env pods imgs writes = .ok refs) {pod : SeedPod St Bytes} (hpod : pod ∈ pods) :
    ∃ st' roots, (seedGoroutine L S env pod imgs).2 = .ok st' ∧
      (seedGoroutine L S env pod imgs).1 = (roots.map (seedRef L)).enum ∧
      List.Forall₂ (LoadedAt L S st') roots imgs ∧ refs = roots.map (seedRef L) := by
  obtain ⟨hpods, rfl⟩ := seed_ok L env hok
  obtain ⟨st', hst'⟩ := hpods pod hpod
  obtain ⟨roots, hw, hF⟩ := seedGoroutine_ok L env hS hst'
  have hall : ∀ q ∈ pods, (seedGoroutine L S env q imgs).1 = (roots.map (seedRef L)).enum := by
    intro q hq
    obtain ⟨stq, hstq⟩ := hpods q hq
    obtain ⟨rootsq, hwq, hFq⟩ := seedGoroutine_ok L env hS hstq
    rw [hwq, roots_eq_of_loaded L hS himgs hFq hF]
  have hlen : imgs.length = (roots.map (seedRef L)).length := by
    rw [List.length_map, hF.length_eq]
  refine ⟨st', roots, hst', hw, hF, ?_⟩
  rw [hlen]
  refine foldl_set_replicate (fun w hw' => ?_) (fun w hw' => ?_)
  · obtain ⟨l, hl, hwl⟩ := List.mem_flatten.mp (htrace.mem_iff.mp hw')
    obtain ⟨q, hq, rfl⟩ := List.mem_map.mp hl
    rwa [hall q hq] at hwl
  · exact htrace.mem_iff.mpr (List.mem_flatten.mpr ⟨_, List.mem_map.mpr ⟨pod, hpod, rfl⟩, hw ▸ hw'⟩)

/-- A seeding in which every digest and every loader job succeeds. -/
def Toy.seedEnv : SeedEnv Toy.Blob := ⟨fun _ => .ok (Toy.sumOf 0).toHash, fun _ _ => .ok ()⟩

/-- Two seed pods on fresh nodes, whose layer goroutines complete in opposite orders. -/
def Toy.seedPods : List (SeedPod Toy.Store Toy.Blob) :=
  [⟨"node-a", .ok [], fun _ => Toy.inOrder⟩, ⟨"node-b", .ok [], fun _ => Toy.reversed⟩]

def Toy.seedImages : List (Image Toy.Blob) := [Toy.rawImage 2 [3], Toy.rawImage 5 [4]]

/-- The two goroutines' writes, interleaved: both first writes, then both second writes. -/
def Toy.seedWrites : List (Nat × String) :=
  [(0, seedRef Toy.lib 99), (0, seedRef Toy.lib 99), (1, seedRef Toy.lib 103), (1, seedRef Toy.lib 103)]

theorem Toy.seedWrites_perm :
    Toy.seedWrites.Perm
      (Toy.seedPods.map fun pod => (seedGoroutine Toy.lib Toy.unixfs Toy.seedEnv pod Toy.seedImages).1).flatten := by
  rw [show (Toy.seedPods.map fun pod =>
      (seedGoroutine Toy.lib Toy.unixfs Toy.seedEnv pod Toy.seedImages).1).flatten =
    [(0, seedRef Toy.lib 99), (1, seedRef Toy.lib 103), (0, seedRef Toy.lib 99), (1, seedRef Toy.lib 103)]
    from rfl]
  exact (List.Perm.swap _ _ _).cons _

theorem Toy.seedImages_layerDigestsIdentify : ∀ img ∈ Toy.seedImages, img.LayerDigestsIdentify := by
  intro img himg
  simp only [Toy.seedImages, List.mem_cons, List.mem_singleton, List.not_mem_nil, or_false] at himg
  rcases himg with rfl | rfl <;>
  · rintro ls ⟨⟩ l₁ h₁ l₂ h₂ - - -
    simp only [List.map_cons, List.map_nil, List.mem_singleton] at h₁ h₂
    rw [h₁, h₂]

/-- **The seed pods agree.** With no seed pod nothing writes `refs`, and `Seed` returns one empty
reference per image without error. Otherwise, whatever the order of the goroutines'
unsynchronised writes to `refs`, a successful `Seed` of images whose layers with one digest have
the same bytes, into content-addressed stores, returns one reference per image: the reference
`localhost:31619/ipfs/<cid>` of a root that every seed pod's goroutine loaded for that image into
the store it ended with; and every seed pod's goroutine wrote exactly these references, in
order. -/
theorem seed_refs (hS : S.ContentAddressed cidOf u) (himgs : ∀ img ∈ imgs, img.LayerDigestsIdentify)
    (htrace : writes.Perm (pods.map fun pod => (seedGoroutine L S env pod imgs).1).flatten) :
    (pods = [] → seed L S env pods imgs writes = .ok (List.replicate imgs.length "")) ∧
      ∀ refs, seed L S env pods imgs writes = .ok refs →
        refs.length = imgs.length ∧
        (∀ pod ∈ pods, (seedGoroutine L S env pod imgs).1 = refs.enum) ∧
        (pods ≠ [] → ∃ roots, refs = roots.map (seedRef L) ∧ ∀ pod ∈ pods,
          ∃ st', (seedGoroutine L S env pod imgs).2 = .ok st' ∧ List.Forall₂ (LoadedAt L S st') roots imgs) := by
  have hnil : pods = [] → seed L S env pods imgs writes = .ok (List.replicate imgs.length "") := by
    rintro rfl
    obtain rfl : writes = [] := List.Perm.eq_nil htrace
    rfl
  refine ⟨hnil, fun refs hok => ?_⟩
  have hall : ∀ pod ∈ pods, (seedGoroutine L S env pod imgs).1 = refs.enum := fun pod hpod => by
    obtain ⟨_, roots, -, hw, -, rfl⟩ := seed_roots L env hS himgs htrace hok hpod
    exact hw
  cases pods with
  | nil =>
    cases (hnil rfl).symm.trans hok
    exact ⟨List.length_replicate _ _, hall, fun h => absurd rfl h⟩
  | cons pod pods =>
    obtain ⟨_, roots, -, -, hF, rfl⟩ := seed_roots L env hS himgs htrace hok (List.mem_cons_self _ _)
    refine ⟨by rw [List.length_map, hF.length_eq], hall, fun _ => ⟨roots, rfl, fun q hq => ?_⟩⟩
    -- every pod loaded the same roots
    obtain ⟨st', roots', hst', -, hF', -⟩ := seed_roots L env hS himgs htrace hok hq
    exact ⟨st', hst', roots_eq_of_loaded L hS himgs hF' hF ▸ hF'⟩

/-- Both pods load both images; `Seed` returns the pods' common references. -/
theorem Toy.seed_refs_twoPods :
    seed Toy.lib Toy.unixfs Toy.seedEnv Toy.seedPods Toy.seedImages Toy.seedWrites =
        .ok [seedRef Toy.lib 99, seedRef Toy.lib 103] ∧
      (Toy.seedPods = [] → seed Toy.lib Toy.unixfs Toy.seedEnv Toy.seedPods Toy.seedImages Toy.seedWrites =
        .ok (List.replicate Toy.seedImages.length "")) ∧
      [seedRef Toy.lib 99, seedRef Toy.lib 103].length = Toy.seedImages.length ∧
      (∀ pod ∈ Toy.seedPods, (seedGoroutine Toy.lib Toy.unixfs Toy.seedEnv pod Toy.seedImages).1 =
        [seedRef Toy.lib 99, seedRef Toy.lib 103].enum) ∧
      (Toy.seedPods ≠ [] → ∃ roots, [seedRef Toy.lib 99, seedRef Toy.lib 103] = roots.map (seedRef Toy.lib) ∧
        ∀ pod ∈ Toy.seedPods, ∃ st', (seedGoroutine Toy.lib Toy.unixfs Toy.seedEnv pod Toy.seedImages).2 = .ok st' ∧
          List.Forall₂ (LoadedAt Toy.lib Toy.unixfs st') roots Toy.seedImages) := by
  have h := seed_refs Toy.lib Toy.seedEnv Toy.unixfs_contentAddressed Toy.seedImages_layerDigestsIdentify
    Toy.seedWrites_perm
  exact ⟨rfl, h.1, h.2 _ rfl⟩

/-- **Every seed pod serves every seeded image.** After a successful `Seed` of images that keep
the content contract, and whose layers with one digest have the same bytes, into
content-addressed stores, take any seed pod and any of the images. The pod's goroutine ended
with a store, and `Seed` returned `localhost:31619/ipfs/<cid>` for the image, with `<cid>` the
image's root. For a CID the registry routes, that reference parses, and the pod's `ripfs serve`
answers a pull of it: the index under its tag, and for every digest of the graph, content whose
SHA-256 it is. So it does not matter which seed pod the `seeder` service routes a loader's
requests to. -/
theorem seed_pods_serve (hL : L.Lawful) (hS : S.ContentAddressed cidOf L.undef)
    (hC : ∀ img ∈ imgs, img.ContentContract L) (himgs : ∀ img ∈ imgs, img.LayerDigestsIdentify)
    (htrace : writes.Perm (pods.map fun pod => (seedGoroutine L S env pod imgs).1).flatten)
    (hok : seed L S env pods imgs writes = .ok refs) {isAuthority : String → Bool}
    (hA : isAuthority seedRegistry = true) :
    ∀ pod ∈ pods, ∃ st', (seedGoroutine L S env pod imgs).2 = .ok st' ∧
      ∀ (k : Nat) (img : Image Bytes), imgs[k]? = some img → ∃ (r : Cid) (m m' : Manifest),
        refs[k]? = some (seedRef L r) ∧
        img.manifest = .ok m ∧
        (cidPattern (L.cidString r) = true → (L.cidString r).length ≤ 250 →
          ∃ ref, parseReference isAuthority (seedRef L r) = .ok ref ∧
            Pulls L (listenAndServe L (S.get st')) seedRegistry ref
              (L.marshalIndexManifest (indexOf L cidOf m'))
              ((wrapperOf L cidOf m').digest :: (L.sha256 (L.marshalManifest m')).toHash ::
                m.config.digest :: m.layers.map (·.digest))) := by
  intro pod hpod
  obtain ⟨st', roots, hst', -, hF, rfl⟩ := seed_roots L env hS himgs htrace hok hpod
  refine ⟨st', hst', fun k img hk => ?_⟩
  obtain ⟨r, hr, st₀, sched, st₁, hadd, hext⟩ := forall₂_getElem? hF hk
  obtain ⟨m, m', hm, -, -, hindex, hds⟩ := addImage_served L hL hS (hC img (List.getElem?_mem hk)) hadd
  refine ⟨r, m, m', by simp [hr], hm, fun hcid hlen => ?_⟩
  have hpull := pulls_of_served hA (by decide) (by decide) (by decide) hcid hlen
    (readManifest_mono L hext hindex)
    (fun h hh => (hds h hh).imp fun _ => Exists.imp fun _ hs => ⟨hs.1.mono L hext, hs.2⟩)
  rw [show seedRef L r = seedRegistry ++ "/ipfs/" ++ L.cidString r by
    simp only [seedRef, Lib.ipfsPath, String.append_assoc]]
  exact ⟨_, hpull⟩

theorem Toy.seedImages_contract : ∀ img ∈ Toy.seedImages, img.ContentContract Toy.lib := by
  intro img himg
  simp only [Toy.seedImages, List.mem_cons, List.mem_singleton, List.not_mem_nil, or_false] at himg
  rcases himg with rfl | rfl <;> exact Toy.rawImage_contract _ _

/-- The second pod's registry answers a pull of either seeded image. -/
theorem Toy.seed_pods_serve_twoPods :
    ∃ st', (seedGoroutine Toy.lib Toy.unixfs Toy.seedEnv ⟨"node-b", .ok [], fun _ => Toy.reversed⟩
        Toy.seedImages).2 = .ok st' ∧
      ∀ (k : Nat) (img : Image Toy.Blob), Toy.seedImages[k]? = some img → ∃ (r : Nat) (m m' : Manifest),
        [seedRef Toy.lib 99, seedRef Toy.lib 103][k]? = some (seedRef Toy.lib r) ∧ img.manifest = .ok m ∧
        (cidPattern (Toy.lib.cidString r) = true → (Toy.lib.cidString r).length ≤ 250 →
          ∃ ref, parseReference Toy.authority (seedRef Toy.lib r) = .ok ref ∧
            Pulls Toy.lib (listenAndServe Toy.lib (Toy.unixfs.get st')) seedRegistry ref
              (Toy.lib.marshalIndexManifest (indexOf Toy.lib Toy.cidOf m'))
              ((wrapperOf Toy.lib Toy.cidOf m').digest :: (Toy.lib.sha256 (Toy.lib.marshalManifest m')).toHash ::
                m.config.digest :: m.layers.map (·.digest))) :=
  seed_pods_serve Toy.lib Toy.seedEnv Toy.lib_lawful Toy.unixfs_contentAddressed Toy.seedImages_contract
    Toy.seedImages_layerDigestsIdentify Toy.seedWrites_perm rfl (by decide) _
    (List.mem_cons_of_mem _ (List.mem_singleton_self _))

end Seed

end Ripfs
