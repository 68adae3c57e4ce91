import Ripfs.NameMap
import Ripfs.Proof.Keys

/-!
# Updates to the Name Map

Once an update has completed the secret names the self key and the record points at a map that
the store holds, and both stay so: no step removes the secret's entry or the record, and the
reconciler only initialises a map whose secret lacks the entry. From then on every step but
one leaves the published map as it is or puts one entry in it, and `Resolve` reads that map
whenever the swarm has peers. The exception is the bootstrap goroutine: the first time it sees
peers it publishes `{}`, whatever the record held, and every entry published before is gone.

The abstract model is the map as a sequence of puts (`Event.applyTo`), and a key's value is
that of its last put (`lastSet`).

Two more ways to lose or miss an entry are in the code's design. Two updates that both read
before either publishes keep only the later one's entry. And before the swarm has peers no map
exists, and an update fails rather than starting from an empty map.

Whatever the order of events, every cluster reachable from a fresh one keeps its record on the
last map added and its secret on the self key (`Cluster.Coherent`). So in every reachable state
an update publishes the last map with its entry or fails with the secret's or the name's error
(`updateCidMap_reachable`), and `Resolve` answers from the last map published
(`resolve_reachable`).
-/

namespace Ripfs

/-! ### The abstract Name Map -/

/-- What an event does to the Name Map when it leaves the record to updates: an update puts its
entry, nothing else touches the map. -/
def Event.applyTo (m : NameMap) : Event → NameMap
  | .updateCidMap ref p => m.put ref p
  | _ => m

/-- The value an event leaves under `k`, `v` being the value before it. -/
def Event.valueOf (k v : String) : Event → String
  | .updateCidMap ref p => if ref = k then p else v
  | _ => v

/-- The value of the last update of `k` in a run, `p` when there is none. -/
def lastSet (k p : String) (es : List Event) : String := es.foldl (fun v e => e.valueOf k v) p

theorem Event.lookup_applyTo {m : NameMap} {k v : String} (h : m.lookup k = some v) :
    ∀ e : Event, (e.applyTo m).lookup k = some (e.valueOf k v)
  | .updateCidMap ref p => by
    by_cases hk : ref = k
    · subst hk
      simp [Event.applyTo, Event.valueOf]
    · simp only [Event.applyTo, Event.valueOf, if_neg hk, GoMap.lookup_put_of_ne m ref p
        (Ne.symm hk), h]
  | .swarm _ | .ensureSecret | .createMapper | .reconcileCidMapper => h

theorem lookup_foldl_applyTo (k : String) :
    ∀ (es : List Event) (m : NameMap) (v : String), m.lookup k = some v →
      (es.foldl Event.applyTo m).lookup k = some (lastSet k v es)
  | [], _, _, h => h
  | e :: es, _, _, h => lookup_foldl_applyTo k es _ _ (e.lookup_applyTo h)

/-- The published map: the secret names the self key and the record points at `m`. -/
structure Published (selfName : String) (c : Cluster) (m : NameMap) : Prop where
  secret : c.cidMapperSecret = some (some selfName)
  read : c.readMap selfName selfName = .ok m

/-! ### A sample cluster -/

namespace Toy

def selfKey : String := "k51qzi5uqu5dlvj2"

def alpineName : String := "index.docker.io/library/alpine:latest"

def alpineRoot : String := "/ipfs/bafyalpine"

/-- A cluster whose reconciler initialised the map before the bootstrap goroutine saw peers. -/
def reconciled : Cluster :=
  Cluster.run selfKey Cluster.init [.swarm true, .ensureSecret, .reconcileCidMapper]

/-- The cluster once `ripfs add alpine` has recorded its root. -/
def added : Cluster := reconciled.publish [(alpineName, alpineRoot)]

/-- A remote loader serving one image for every reference. -/
def remoteLoader : Loader Nat where
  remoteMediaType _ := .ok "application/vnd.oci.image.manifest.v1+json"
  remoteImage _ := .ok 7
  stat _ := .error "no such file or directory"
  layoutIndex _ := .error "not a layout"
  layoutImage _ _ := .error "not a layout"
  tarballImage _ := .error "not a tarball"

def busyboxName : String := "index.docker.io/library/busybox:latest"

end Toy

section Published

variable (self : String)

@[simp]
theorem Cluster.cidMapperName_eq_ok {c : Cluster} {noKey name : String} :
    c.cidMapperName noKey = .ok name ↔ c.cidMapperSecret = some (some name) := by
  unfold Cluster.cidMapperName
  split <;> simp [*]

@[simp]
theorem Cluster.readMap_publish (c : Cluster) (m : NameMap) :
    (c.publish m).readMap self self = .ok m := by
  simp [Cluster.readMap, Cluster.publish]

/-- Only the self key's name resolves. -/
theorem Cluster.eq_self_of_readMap {c : Cluster} {name : String} {m : NameMap}
    (h : c.readMap self name = .ok m) : name = self := by
  by_contra hne
  simp [Cluster.readMap, hne] at h

/-- A completed read half read the published map and put the entry in it. -/
theorem updateCidMapRead_eq_ok {c : Cluster} {k p : String} {m' : NameMap}
    (h : updateCidMapRead self c k p = .ok m') : ∃ m, Published self c m ∧ m' = m.put k p := by
  obtain ⟨name, hn, h⟩ := bind_eq_ok.mp h
  obtain ⟨m, hm, h⟩ := bind_eq_ok.mp h
  rw [Cluster.eq_self_of_readMap self hm] at hn hm
  exact ⟨m, ⟨Cluster.cidMapperName_eq_ok.mp hn, hm⟩, (Except.ok.inj h).symm⟩

theorem updateCidMapRead_of_published {c : Cluster} {m : NameMap} (h : Published self c m)
    (k p : String) : updateCidMapRead self c k p = .ok (m.put k p) := by
  simp [updateCidMapRead, Cluster.cidMapperName, h.secret, h.read]

/-- A completed update read the published map and published it with the entry put. -/
theorem updateCidMap_eq_ok {c c' : Cluster} {k p : String} (h : updateCidMap self c k p = .ok c') :
    ∃ m, Published self c m ∧ c' = c.publish (m.put k p) := by
  obtain ⟨m', hr, rfl⟩ := map_eq_ok.mp h
  obtain ⟨m, hm, rfl⟩ := updateCidMapRead_eq_ok self hr
  exact ⟨m, hm, rfl⟩

theorem updateCidMap_of_published {c : Cluster} {m : NameMap} (h : Published self c m)
    (k p : String) : updateCidMap self c k p = .ok (c.publish (m.put k p)) :=
  map_eq_ok.mpr ⟨_, updateCidMapRead_of_published self h k p, rfl⟩

theorem Published.publish {c : Cluster} {m : NameMap} (h : Published self c m) (m' : NameMap) :
    Published self (c.publish m') m' :=
  ⟨h.secret, Cluster.readMap_publish self c m'⟩

/-- Right after an update the map holds its entry. -/
theorem published_of_updateCidMap {c c' : Cluster} {k p : String}
    (h : updateCidMap self c k p = .ok c') :
    ∃ m : NameMap, Published self c' m ∧ m.lookup k = some p := by
  obtain ⟨m, hm, rfl⟩ := updateCidMap_eq_ok self h
  exact ⟨m.put k p, hm.publish self _, GoMap.lookup_put_self m k p⟩

/-- `fetch` returns the published map exactly when the swarm has peers. -/
theorem fetch_of_published {c : Cluster} {m : NameMap} (h : Published self c m) :
    fetch self c =
      if c.peered then .ok m else .error "swarm not initialized yet, ipns cannot exist" := by
  cases hp : c.peered
  · simp only [fetch, hp]
    rfl
  · simp [fetch, hp, Cluster.secretFetch, Cluster.cidMapperName, h.secret, h.read]

/-- `Resolve` looks the reference's name up in the published map. -/
theorem resolve_of_published (isAuthority : String → Bool) {c : Cluster} {m : NameMap}
    {s k : String} (h : Published self c m)
    (hs : (parseReference isAuthority s).map Reference.name = .ok k) :
    resolve self isAuthority c s =
      if c.peered then
        match m.lookup k with
        | some v => .ok v
        | none => .error ("cid does not exist for reference " ++ k)
      else .error "unable to retrieve cid mapper" := by
  cases hr : parseReference isAuthority s with
  | error e => simp [hr, Except.map] at hs
  | ok ref =>
    simp only [hr, Except.map, Except.ok.injEq] at hs
    subst hs
    cases hp : c.peered
    · simp [resolve, fetch_of_published self h, hp, Except.mapError]
    · simp only [resolve, fetch_of_published self h, hp, if_true, mapError_ok, ok_bind, hr]
      cases m.lookup ref.name <;> rfl

/-! ### Steps that leave the map to updates -/

/-- The bootstrap goroutine, once it has run, is done. -/
theorem bootstrapped_step {c : Cluster} (hb : c.bootstrapped = true) :
    ∀ e : Event, (Cluster.step self c e).bootstrapped = true
  | .swarm _ | .ensureSecret => hb
  | .createMapper => by simp [Cluster.step, createMapper, hb]
  | .reconcileCidMapper => by
    simp only [Cluster.step, reconcileCidMapper]
    split <;> (try split) <;> exact hb
  | .updateCidMap k p => by
    simp only [Cluster.step]
    split
    · next c' hu =>
      obtain ⟨m, -, rfl⟩ := updateCidMap_eq_ok self hu
      exact hb
    · exact hb

/-- Every step but a first bootstrap keeps the map published, applying its update if it is one. -/
theorem published_step {c : Cluster} {m : NameMap} (h : Published self c m) :
    ∀ e : Event, (c.bootstrapped = true ∨ e ≠ .createMapper) →
      Published self (Cluster.step self c e) (e.applyTo m)
  | .swarm _, _ => ⟨h.secret, h.read⟩
  | .ensureSecret, _ => ⟨by simp [Cluster.step, h.secret], h.read⟩
  | .createMapper, hb => by
    have hb : c.bootstrapped = true := hb.resolve_right (absurd rfl)
    simpa [Cluster.step, createMapper, hb] using h
  | .reconcileCidMapper, _ => by simpa [Cluster.step, reconcileCidMapper, h.secret] using h
  | .updateCidMap k p, _ => by
    simpa [Cluster.step, updateCidMap_of_published self h] using h.publish self (m.put k p)

/-- Along a run with no first bootstrap the published map is the initial one with the run's
updates put in order. -/
theorem published_run :
    ∀ (es : List Event) {c : Cluster} {m : NameMap}, Published self c m →
      (c.bootstrapped = true ∨ Event.createMapper ∉ es) →
      Published self (Cluster.run self c es) (es.foldl Event.applyTo m)
  | [], _, _, h, _ => h
  | e :: es, c, _, h, hq => by
    have he : c.bootstrapped = true ∨ e ≠ .createMapper :=
      hq.imp_right fun hn he => hn (he ▸ List.mem_cons_self e es)
    have hq' : (Cluster.step self c e).bootstrapped = true ∨ Event.createMapper ∉ es :=
      hq.imp (fun hb => bootstrapped_step self hb e) (fun hn hm => hn (List.mem_cons_of_mem e hm))
    exact published_run es (published_step self h e he) hq'

/-- The first bootstrap publishes `{}` over the published map. -/
theorem published_createMapper {c : Cluster} {m : NameMap} (h : Published self c m)
    (hp : c.peered = true) (hb : c.bootstrapped = false) :
    Published self (createMapper self c) [] ∧ (createMapper self c).peered = true := by
  simp only [createMapper, hb, hp, Bool.not_true, Bool.or_self, Bool.false_eq_true, if_false]
  exact ⟨⟨h.secret, Cluster.readMap_publish self c []⟩, hp⟩

/-- With no record, every update fails. -/
theorem updateCidMap_error_of_record {c : Cluster} (hr : c.record = none) (k p : String) :
    ∃ e, updateCidMap self c k p = .error e := by
  cases hu : updateCidMap self c k p with
  | error e => exact ⟨e, rfl⟩
  | ok c' =>
    obtain ⟨m, hm, -⟩ := updateCidMap_eq_ok self hu
    have := hm.read
    simp [Cluster.readMap, hr] at this

/-- Until the swarm gains peers no step publishes: the record stays empty. -/
theorem unpeered_step {c : Cluster} (hr : c.record = none) (hp : c.peered = false) :
    ∀ e : Event, e ≠ .swarm true →
      (Cluster.step self c e).record = none ∧ (Cluster.step self c e).peered = false
  | .swarm b, hb => by
    cases b
    · exact ⟨hr, rfl⟩
    · exact absurd rfl hb
  | .ensureSecret, _ => ⟨hr, hp⟩
  | .createMapper, _ => by simp [Cluster.step, createMapper, hp, hr]
  | .reconcileCidMapper, _ => by
    simp only [Cluster.step, reconcileCidMapper]
    split <;> simp [hp, hr]
  | .updateCidMap k p, _ => by
    obtain ⟨e, he⟩ := updateCidMap_error_of_record self hr k p
    simp [Cluster.step, he, hr, hp]

theorem unpeered_run :
    ∀ (es : List Event) {c : Cluster}, c.record = none → c.peered = false →
      Event.swarm true ∉ es → (Cluster.run self c es).record = none
  | [], _, hr, _, _ => hr
  | e :: es, c, hr, hp, hes => by
    obtain ⟨hr', hp'⟩ := unpeered_step self hr hp e fun he => hes (he ▸ List.mem_cons_self e es)
    exact unpeered_run es hr' hp' fun h => hes (List.mem_cons_of_mem e h)

/-! ### What `Resolve` returns after an update -/

section Resolve

variable (isAuthority : String → Bool)

/-- **An update lost to the bootstrap goroutine.** Right after `updateCidMap(k, p)` has
completed, `Resolve(s)` for a reference named `k` returns `p`. If the swarm has peers and the
bootstrap goroutine has not yet run, its `createMapper` publishes `{}` under the same key: the
map is then fetched, and it is empty, so `Resolve(s)` fails with "cid does not exist". -/
theorem createMapper_loses_update {c₀ c : Cluster} {k p s : String}
    (hu : updateCidMap self c₀ k p = .ok c) (hp : c.peered = true) (hb : c.bootstrapped = false)
    (hs : (parseReference isAuthority s).map Reference.name = .ok k) :
    resolve self isAuthority c s = .ok p ∧
    fetch self (createMapper self c) = .ok [] ∧
    resolve self isAuthority (createMapper self c) s =
      .error ("cid does not exist for reference " ++ k) := by
  obtain ⟨m, hm, hk⟩ := published_of_updateCidMap self hu
  obtain ⟨hc, hcp⟩ := published_createMapper self hm hp hb
  refine ⟨?_, ?_, ?_⟩
  · simp [resolve_of_published self isAuthority hm hs, hp, hk]
  · simp [fetch_of_published self hc, hcp]
  · simp [resolve_of_published self isAuthority hc hs, hcp]

theorem Toy.createMapper_loses_alpine :
    resolve selfKey authority added "alpine" = .ok alpineRoot ∧
    fetch selfKey (createMapper selfKey added) = .ok [] ∧
    resolve selfKey authority (createMapper selfKey added) "alpine" =
      .error ("cid does not exist for reference " ++ alpineName) :=
  createMapper_loses_update selfKey authority
    (rfl : updateCidMap selfKey reconciled alpineName alpineRoot = .ok added) rfl rfl rfl

/-- **The Name Map keeps its updates between bootstraps.** After `updateCidMap(k, p)` has
completed, along any run in which the bootstrap goroutine does not first run, `Resolve(s)` for a
reference named `k` returns the value of the last update of `k` in the run, `p` if there is
none, whenever the swarm has peers, and otherwise fails to fetch the map. -/
theorem resolve_after_update {c₀ c : Cluster} {k p s : String} {es : List Event}
    (hu : updateCidMap self c₀ k p = .ok c) (hq : c.bootstrapped = true ∨ Event.createMapper ∉ es)
    (hs : (parseReference isAuthority s).map Reference.name = .ok k) :
    resolve self isAuthority (Cluster.run self c es) s =
      if (Cluster.run self c es).peered then .ok (lastSet k p es)
      else .error "unable to retrieve cid mapper" := by
  obtain ⟨m, hm, hk⟩ := published_of_updateCidMap self hu
  rw [resolve_of_published self isAuthority (published_run self es hm hq) hs,
    lookup_foldl_applyTo k es m p hk]

/-- A second update of `alpine` while the swarm comes and goes. -/
theorem Toy.resolve_after_update_alpine :
    resolve selfKey authority (Cluster.run selfKey added [.swarm false,
      .updateCidMap "busybox" "/ipfs/b", .swarm true, .reconcileCidMapper,
      .updateCidMap alpineName "/ipfs/bafynew"]) "alpine" =
      .ok "/ipfs/bafynew" :=
  (resolve_after_update selfKey authority
    (rfl : updateCidMap selfKey reconciled alpineName alpineRoot = .ok added)
    (Or.inr (by decide) : added.bootstrapped = true ∨ Event.createMapper ∉ [.swarm false,
      .updateCidMap "busybox" "/ipfs/b", .swarm true, .reconcileCidMapper,
      .updateCidMap alpineName "/ipfs/bafynew"])
    (rfl : (parseReference authority "alpine").map Reference.name = .ok alpineName)).trans rfl

/-- **`ripfs add` of a remote reference, then `Resolve` of the same string.** When the Name Map
is published, the argument parses as a reference whose image the registry serves (not a schema 1
manifest), and `AddImage` ingests it with root path `p`, the add command completes; from then on,
with the swarm peered, a pod whose image is the argument resolves to `p`. -/
theorem addCommandRun_resolve {Img : Type} {ld : Loader Img} {ingest : Img → Except String String}
    {c : Cluster} {m : NameMap} {reference mt p : String} {ref : Reference} {img : Img}
    (hc : Published self c m) (hp : parseReference isAuthority reference = .ok ref)
    (hmt : ld.remoteMediaType ref = .ok mt)
    (hmt1 : mt ≠ dockerManifestSchema1 ∧ mt ≠ dockerManifestSchema1Signed)
    (himg : ld.remoteImage ref = .ok img) (hi : ingest img = .ok p) :
    ∃ c', addCommandRun self ld isAuthority ingest c reference = .ok c' ∧ c'.peered = c.peered ∧
      resolve self isAuthority c' reference =
        if c.peered then .ok p else .error "unable to retrieve cid mapper" := by
  have hs : (parseReference isAuthority reference).map Reference.name = .ok ref.name := by
    rw [hp]
    rfl
  refine ⟨c.publish (m.put ref.name p), ?_, rfl, ?_⟩
  · simp [addCommandRun, loadImages_remote ld isAuthority hp hmt hmt1 himg, hi,
      updateCidMap_of_published self hc]
  · rw [resolve_of_published self isAuthority (hc.publish self _) hs, GoMap.lookup_put_self]
    rfl

theorem Toy.addCommandRun_resolve_alpine :
    ∃ c', addCommandRun selfKey remoteLoader authority (fun _ => .ok alpineRoot) reconciled "alpine" =
        .ok c' ∧ c'.peered = reconciled.peered ∧
      resolve selfKey authority c' "alpine" =
        if reconciled.peered then .ok alpineRoot else .error "unable to retrieve cid mapper" :=
  addCommandRun_resolve selfKey authority (⟨rfl, rfl⟩ : Published selfKey reconciled [])
    (rfl : parseReference authority "alpine" = .ok (.tag ⟨⟨defaultRegistry⟩, "alpine"⟩ defaultTag))
    rfl (by decide) rfl rfl

/-- **Overlapping updates lose an entry.** Two `updateCidMap` calls for different keys both read
the published map before either publishes. After both publish, `Resolve` of a reference named by
the first key answers as it did before either update, and one named by the second key resolves to
its value. -/
theorem overlapping_updates_lose {c : Cluster} {m m₁ m₂ : NameMap} {k₁ k₂ p₁ p₂ s₁ s₂ : String}
    (hc : Published self c m) (hk : k₁ ≠ k₂)
    (h₁ : updateCidMapRead self c k₁ p₁ = .ok m₁) (h₂ : updateCidMapRead self c k₂ p₂ = .ok m₂)
    (hs₁ : (parseReference isAuthority s₁).map Reference.name = .ok k₁)
    (hs₂ : (parseReference isAuthority s₂).map Reference.name = .ok k₂) :
    resolve self isAuthority ((c.publish m₁).publish m₂) s₁ = resolve self isAuthority c s₁ ∧
    resolve self isAuthority ((c.publish m₁).publish m₂) s₂ =
      if c.peered then .ok p₂ else .error "unable to retrieve cid mapper" := by
  rw [updateCidMapRead_of_published self hc] at h₁ h₂
  cases h₁
  cases h₂
  have hboth : Published self ((c.publish (m.put k₁ p₁)).publish (m.put k₂ p₂)) (m.put k₂ p₂) :=
    (hc.publish self _).publish self _
  constructor
  · rw [resolve_of_published self isAuthority hboth hs₁, resolve_of_published self isAuthority hc hs₁,
      GoMap.lookup_put_of_ne m k₂ p₂ hk]
    rfl
  · rw [resolve_of_published self isAuthority hboth hs₂, GoMap.lookup_put_self]
    rfl

/-- `ripfs add alpine` and `ripfs add busybox` both read the map `{}` before either publishes. -/
theorem Toy.overlapping_updates_lose_alpine :
    resolve selfKey authority ((reconciled.publish [(alpineName, alpineRoot)]).publish
        [(busyboxName, "/ipfs/bafybusybox")]) "alpine" =
      .error ("cid does not exist for reference " ++ alpineName) ∧
    resolve selfKey authority ((reconciled.publish [(alpineName, alpineRoot)]).publish
        [(busyboxName, "/ipfs/bafybusybox")]) "busybox" = .ok "/ipfs/bafybusybox" := by
  have h := overlapping_updates_lose selfKey authority
    (⟨rfl, rfl⟩ : Published selfKey reconciled []) (by decide : alpineName ≠ busyboxName)
    (rfl : updateCidMapRead selfKey reconciled alpineName alpineRoot = .ok [(alpineName, alpineRoot)])
    (rfl : updateCidMapRead selfKey reconciled busyboxName "/ipfs/bafybusybox" =
      .ok [(busyboxName, "/ipfs/bafybusybox")])
    (rfl : (parseReference authority "alpine").map Reference.name = .ok alpineName)
    (rfl : (parseReference authority "busybox").map Reference.name = .ok busyboxName)
  exact ⟨h.1.trans rfl, h.2.trans rfl⟩

end Resolve

/-! ### Every reachable cluster

From a fresh cluster, whatever the order of events, the record points at the last map added to
the store, and a secret that has its entry names the self key. So the self key always resolves
to the last map published, an update succeeds exactly when the secret has its entry and some map
has been published, and `Resolve` answers from the last map published. -/

/-- The invariant of every reachable cluster. -/
structure Cluster.Coherent (selfName : String) (c : Cluster) : Prop where
  record : c.record = if c.store = [] then none else some (c.store.length - 1)
  secret : ∀ n, c.cidMapperSecret = some (some n) → n = selfName

/-- A cluster that some run of events reaches from a fresh one. -/
def Cluster.Reachable (c : Cluster) : Prop := ∃ es, Cluster.run self Cluster.init es = c

theorem Cluster.Coherent.publish {c : Cluster} (h : c.Coherent self) (m : NameMap) :
    (c.publish m).Coherent self :=
  ⟨by simp [Cluster.publish], h.secret⟩

theorem coherent_step {c : Cluster} (h : c.Coherent self) :
    ∀ e : Event, (Cluster.step self c e).Coherent self
  | .swarm _ => ⟨h.record, h.secret⟩
  | .ensureSecret => ⟨h.record, fun n hn => h.secret n (by
      cases hs : c.cidMapperSecret <;> simp_all [Cluster.step])⟩
  | .createMapper => by
    show (createMapper self c).Coherent self
    unfold createMapper
    split
    · exact h
    · exact ⟨(h.publish self []).record, h.secret⟩
  | .reconcileCidMapper => by
    show (reconcileCidMapper self c).Coherent self
    unfold reconcileCidMapper
    split
    · split
      · exact ⟨(h.publish self []).record, fun n hn => (Option.some.inj (Option.some.inj hn)).symm⟩
      · exact h
    · exact h
  | .updateCidMap k p => by
    show (match updateCidMap self c k p with | .ok c' => c' | .error _ => c).Coherent self
    split
    · next c' hu =>
      obtain ⟨m, -, rfl⟩ := updateCidMap_eq_ok self hu
      exact h.publish self _
    · exact h

theorem coherent_run :
    ∀ (es : List Event) {c : Cluster}, c.Coherent self → (Cluster.run self c es).Coherent self
  | [], _, h => h
  | e :: es, _, h => coherent_run es (coherent_step self h e)

theorem Cluster.Reachable.coherent {c : Cluster} (h : c.Reachable self) : c.Coherent self := by
  obtain ⟨es, rfl⟩ := h
  exact coherent_run self es ⟨rfl, fun _ h => nomatch h⟩

/-- The self key resolves to the last map published. -/
theorem Cluster.Coherent.readMap {c : Cluster} (h : c.Coherent self) :
    c.readMap self self =
      match c.store.getLast? with
      | some m => .ok m
      | none => .error ("could not resolve name: " ++ self) := by
  rcases List.eq_nil_or_concat c.store with hs | ⟨l, m, hs⟩
  · simp [Cluster.readMap, h.record, hs]
  · simp [Cluster.readMap, h.record, hs]

/-- **An update, in every reachable cluster.** It fails with the secret's error when the secret
is missing or lacks its entry, and with the name's when no map has been published yet; otherwise
it publishes the last map published with the entry put. -/
theorem updateCidMap_reachable {c : Cluster} (hc : c.Reachable self) (k p : String) :
    updateCidMap self c k p =
      match c.cidMapperSecret, c.store.getLast? with
      | none, _ => .error ("secrets \"" ++ cidMapperSecretName ++ "\" not found")
      | some none, _ => .error ("couldn\x27t find ipns key in secret: " ++ cidMapperSecretName)
      | some (some _), none => .error ("could not resolve name: " ++ self)
      | some (some _), some m => .ok (c.publish (m.put k p)) := by
  have h := hc.coherent
  unfold updateCidMap updateCidMapRead
  cases hs : c.cidMapperSecret with
  | none => simp [Cluster.cidMapperName, hs]
  | some n =>
    cases n with
    | none => simp [Cluster.cidMapperName, hs]
    | some n =>
      obtain rfl := h.secret n hs
      simp only [Cluster.cidMapperName, hs, ok_bind, h.readMap]
      cases c.store.getLast? <;> rfl

/-- The reconciled sample cluster is reached by its run, so `ripfs add alpine` publishes. -/
theorem Toy.updateCidMap_reachable_reconciled :
    updateCidMap selfKey reconciled alpineName alpineRoot = .ok added :=
  (updateCidMap_reachable selfKey ⟨_, rfl⟩ alpineName alpineRoot).trans rfl

/-- The map a reader of the cluster sees: the last map published, once the swarm has peers and
the secret has its entry. -/
def Cluster.view (c : Cluster) : Option NameMap :=
  match c.peered, c.cidMapperSecret with
  | true, some (some _) => c.store.getLast?
  | _, _ => none

/-- In a coherent cluster `fetch` returns the map a reader sees, and fails when there is none. -/
theorem Cluster.Coherent.fetch_toOption {c : Cluster} (h : c.Coherent self) :
    (fetch self c).toOption = c.view := by
  unfold fetch Cluster.view
  cases hp : c.peered
  · rfl
  · cases hs : c.cidMapperSecret with
    | none => simp [Cluster.secretFetch, Cluster.cidMapperName, hs, Except.mapError, Except.toOption]
    | some n =>
      cases n with
      | none =>
        simp [Cluster.secretFetch, Cluster.cidMapperName, hs, Except.mapError, Except.toOption]
      | some n =>
        obtain rfl := h.secret n hs
        simp only [Cluster.secretFetch, Cluster.cidMapperName, hs, mapError_ok, Bool.not_true,
          Bool.false_eq_true, if_false, pure_bind, ok_bind, h.readMap]
        cases c.store.getLast? <;> rfl

/-- **`Resolve`, in every reachable cluster**, looks the reference's name up in the map a reader
sees, and fails with one error when there is none: when the swarm has no peers, the secret is
missing or lacks its entry, or no map has been published. -/
theorem resolve_reachable (isAuthority : String → Bool) {c : Cluster} (hc : c.Reachable self)
    (s : String) :
    resolve self isAuthority c s =
      (match c.view with
      | none => .error "unable to retrieve cid mapper"
      | some m => do
        let ref ← parseReference isAuthority s
        match m.lookup ref.name with
        | some cid => pure cid
        | none => throw ("cid does not exist for reference " ++ ref.name)) := by
  rw [← (Cluster.Reachable.coherent self hc).fetch_toOption self]
  unfold resolve
  cases fetch self c <;> rfl

/-- After `ripfs add alpine` the bootstrap goroutine wakes: the map a reader sees is `{}`. -/
theorem Toy.resolve_reachable_bootstrapped :
    resolve selfKey authority (Cluster.run selfKey Cluster.init [.swarm true, .ensureSecret,
        .reconcileCidMapper, .updateCidMap alpineName alpineRoot, .createMapper]) "alpine" =
      .error ("cid does not exist for reference " ++ alpineName) :=
  (resolve_reachable selfKey authority ⟨_, rfl⟩ "alpine").trans rfl

/-- **No update before the swarm has peers.** From a fresh cluster, along any run in which the
swarm never gains peers, no Name Map is published, so `updateCidMap` fails: a map that does not
exist yet is an error, not an empty map. -/
theorem updateCidMap_fails_before_peers (es : List Event) (hes : Event.swarm true ∉ es)
    (k p : String) : ∃ e, updateCidMap self (Cluster.run self Cluster.init es) k p = .error e :=
  updateCidMap_error_of_record self (unpeered_run self es rfl rfl hes) k p

theorem Toy.updateCidMap_fails_before_peers_secret :
    ∃ e, updateCidMap selfKey (Cluster.run selfKey Cluster.init
      [.ensureSecret, .reconcileCidMapper, .createMapper, .swarm false]) alpineName alpineRoot =
      .error e :=
  updateCidMap_fails_before_peers selfKey [.ensureSecret, .reconcileCidMapper, .createMapper,
    .swarm false] (by decide) alpineName alpineRoot

end Published

end Ripfs
