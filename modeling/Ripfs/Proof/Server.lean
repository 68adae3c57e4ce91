import Ripfs.Server
import Ripfs.Proof.RoundTrip

/-!
# What the registry server answers

A client asks for a route by joining its segments with `/` (`Route.path`); chi takes back
exactly those paths, for the methods the route was registered for, and only when the CID
segment matches the route's pattern and the reference is one non-empty segment
(`dispatch_eq_handler`). So the router and the printer are inverse on routable paths.

On a routed request the server answers what the walker reads (`serveHTTP_of_serves`): any
digest `ReadBlob` and `ReadManifest` serve is answered `200` with its bytes and media type, on
both reading routes. A digest the graph of an ingested image does not hold is reported not found
by the readers, and the handler then writes nothing, so net/http answers `200` with no body
(`absent_digest_not_found`). `HEAD` answers as `GET` without the body everywhere but on `/v2/`,
which was registered for `GET` only and answers `HEAD` with `405`.

`ripfs serve` puts the router behind net/http's `ServeMux`, which redirects a path that is not
clean. Every route path whose segments are plain path elements is clean, so the served registry
answers those exactly as the router does (`listenAndServe_route`); a reference of `.` or `..`
never reaches the router. `cleanPath` is idempotent, so the target of a redirect is never
redirected again (`listenAndServe_cleanPath`).
-/

namespace Ripfs

/-! ### Paths -/

/-- The segments of the path a client requests for a route. -/
def Route.segments : Route → List String
  | .health => ["", "v2", ""]
  | .manifests cid reference => ["", "v2", "ipfs", cid, "manifests", reference]
  | .blobs cid reference => ["", "v2", "ipfs", cid, "blobs", reference]

/-- The path a client requests for a route: its segments joined by `/`. -/
def Route.path (r : Route) : String := String.mk (['/'].intercalate (r.segments.map String.data))

/-- The methods a route is registered for. -/
def Route.methods : Route → List String
  | .health => ["GET"]
  | .manifests _ _ | .blobs _ _ => ["HEAD", "GET"]

/-- A route chi can match: a CID segment of the pattern, a reference that is one non-empty
segment. -/
def Route.Routable : Route → Prop
  | .health => True
  | .manifests cid reference | .blobs cid reference =>
    cidPattern cid = true ∧ reference ≠ "" ∧ '/' ∉ reference.data

instance : DecidablePred Route.Routable := fun r =>
  match r with
  | .health => inferInstanceAs (Decidable True)
  | .manifests cid reference | .blobs cid reference =>
    inferInstanceAs (Decidable (cidPattern cid = true ∧ reference ≠ "" ∧ '/' ∉ reference.data))

theorem Route.path_manifests (cid reference : String) :
    (Route.manifests cid reference).path = "/v2/ipfs/" ++ cid ++ "/manifests/" ++ reference :=
  String.ext (by simp [Route.path, Route.segments, List.intercalate])

theorem Route.path_blobs (cid reference : String) :
    (Route.blobs cid reference).path = "/v2/ipfs/" ++ cid ++ "/blobs/" ++ reference :=
  String.ext (by simp [Route.path, Route.segments, List.intercalate])

theorem splitOnP_go_not {α : Type} (P : α → Bool) :
    ∀ (l acc : List α), (∀ x ∈ acc, P x = false) →
      ∀ s ∈ List.splitOnP.go P l acc, ∀ x ∈ s, P x = false
  | [], acc, hacc, s, hs => by
    rw [List.splitOnP.go, List.mem_singleton] at hs
    subst hs
    simpa using hacc
  | a :: t, acc, hacc, s, hs => by
    rw [List.splitOnP.go] at hs
    cases hP : P a
    · rw [hP, if_neg Bool.false_ne_true] at hs
      refine splitOnP_go_not P t (a :: acc) ?_ s hs
      simpa [hP] using hacc
    · rw [hP, if_pos rfl, List.mem_cons] at hs
      rcases hs with rfl | hs
      · simpa using hacc
      · exact splitOnP_go_not P t [] (by simp) s hs

/-- No segment of a path holds a `/`. -/
theorem slash_not_mem_of_pathSegments {path s : String} (h : s ∈ pathSegments path) :
    '/' ∉ s.data := by
  obtain ⟨cs, hcs, rfl⟩ := List.mem_map.mp h
  intro hm
  simpa using splitOnP_go_not (· == '/') path.data [] (by simp) cs hcs '/' hm

theorem slash_not_mem_of_cidPattern {cid : String} (h : cidPattern cid = true) : '/' ∉ cid.data := by
  simp only [cidPattern, Bool.and_eq_true, List.all_eq_true] at h
  exact fun hm => absurd (h.2 '/' hm) (by decide)

/-- A path is its segments joined by `/`. -/
theorem path_eq_of_segments {path : String} {r : Route} (h : pathSegments path = r.segments) :
    path = r.path := by
  have hdata : r.segments.map String.data = path.data.splitOn '/' := by
    rw [← h, pathSegments, List.map_map]
    exact List.map_id _
  rw [Route.path, hdata, List.intercalate_splitOn]

theorem pathSegments_path {r : Route} (hr : r.Routable) : pathSegments r.path = r.segments := by
  have hsep : ∀ s ∈ r.segments, '/' ∉ s.data := by
    cases r with
    | health => decide
    | manifests cid reference | blobs cid reference =>
      obtain ⟨hc, -, hs⟩ := hr
      simp [Route.segments, slash_not_mem_of_cidPattern hc, hs]
  have hne : r.segments.map String.data ≠ [] := by cases r <;> simp [Route.segments]
  rw [pathSegments, Route.path, List.splitOn_intercalate _ _ (by simpa using hsep) hne,
    List.map_map]
  exact List.map_id _

/-! ### Routing -/

theorem routeTree_segments {r : Route} (hr : r.Routable) :
    routeTree r.segments = some (r.methods, r) := by
  cases r with
  | health => rfl
  | manifests cid reference | blobs cid reference =>
    obtain ⟨hc, hne, -⟩ := hr
    simp [routeTree, Route.segments, Route.methods, hc, hne]

/-- What the tree finds is a route whose segments the path has, with its registered methods. -/
theorem routeTree_eq_some {segs methods : List String} {r : Route}
    (h : routeTree segs = some (methods, r)) :
    segs = r.segments ∧ methods = r.methods ∧ (r = .health ∨ ∃ cid reference,
      (r = .manifests cid reference ∨ r = .blobs cid reference) ∧
        cidPattern cid = true ∧ reference ≠ "") := by
  unfold routeTree at h
  split at h
  · split_ifs at h with hs
    obtain ⟨rfl, rfl, rfl⟩ := hs
    cases h
    exact ⟨rfl, rfl, .inl rfl⟩
  · split_ifs at h with hs hk hk' <;> cases h
    all_goals obtain ⟨rfl, rfl, rfl, hc, hne⟩ := hs
    · exact ⟨hk ▸ rfl, rfl, .inr ⟨_, _, .inl rfl, hc, hne⟩⟩
    · exact ⟨hk' ▸ rfl, rfl, .inr ⟨_, _, .inr rfl, hc, hne⟩⟩
  · cases h

/-- A request chi dispatches to a handler is for that route's path, the route is routable and the
method is one it was registered for. -/
theorem eq_path_of_dispatch {method path : String} {r : Route}
    (h : dispatch method path = .handler r) : path = r.path ∧ r.Routable ∧ method ∈ r.methods := by
  unfold dispatch at h
  cases ht : routeTree (pathSegments path) with
  | none => simp [ht] at h
  | some p =>
    obtain ⟨methods, r'⟩ := p
    simp only [ht] at h
    split at h
    · next hm =>
      cases h
      obtain ⟨hseg, rfl, hr⟩ := routeTree_eq_some ht
      refine ⟨path_eq_of_segments hseg, ?_, hm⟩
      rcases hr with rfl | ⟨cid, reference, rfl | rfl, hc, hne⟩
      · trivial
      all_goals
        exact ⟨hc, hne, slash_not_mem_of_pathSegments (by rw [hseg]; simp [Route.segments])⟩
    · cases h

/-- chi dispatches a registered method on a routable route's path to that route. -/
theorem dispatch_path {method : String} {r : Route} (hr : r.Routable) (hm : method ∈ r.methods) :
    dispatch method r.path = .handler r := by
  simp [dispatch, pathSegments_path hr, routeTree_segments hr, hm]

/-- **Routing is the inverse of printing.** chi dispatches a request to a handler exactly when
the path is that route's path, the route is routable and the method is one it was registered
for. -/
theorem dispatch_eq_handler (method path : String) (r : Route) :
    dispatch method path = .handler r ↔ path = r.path ∧ r.Routable ∧ method ∈ r.methods :=
  ⟨eq_path_of_dispatch, fun ⟨hp, hr, hm⟩ => hp ▸ dispatch_path hr hm⟩

/-- A CIDv0 root handle, base58 with upper-case letters, is not routed. -/
example : dispatch "GET" "/v2/ipfs/QmYwAPJzv5/manifests/latest" = .notFound := by decide

/-! ### Replies -/

section Replies

variable {Bytes Cid : Type} (L : Lib Bytes Cid) (get : StoreView Bytes Cid)

/-- **`HEAD` is `GET` without the body, except on `/v2/`.** For every path, a `HEAD` request gets
the status and `Content-Type` a `GET` request gets, with no body; the one exception is the path
of the health check, registered for `GET` only, which answers `HEAD` with `405`. -/
theorem serveHTTP_head (path : String) :
    serveHTTP L get "HEAD" path =
      if path = Route.health.path then .ok methodNotAllowedReply
      else (serveHTTP L get "GET" path).map fun r => { r with body := .empty } := by
  have hhealth : path = Route.health.path ↔ dispatch "GET" path = .handler .health :=
    ⟨fun h => h ▸ dispatch_path trivial (by simp [Route.methods]),
      fun h => (eq_path_of_dispatch h).1⟩
  unfold serveHTTP
  unfold dispatch at hhealth ⊢
  cases ht : routeTree (pathSegments path) with
  | none =>
    simp only [ht, reduceCtorEq, iff_false] at hhealth
    simp [hhealth, handle, forMethod, Except.map]
  | some p =>
    obtain ⟨methods, r⟩ := p
    obtain ⟨-, rfl, hr⟩ := routeTree_eq_some ht
    simp only [ht] at hhealth
    rcases hr with rfl | ⟨cid, reference, rfl | rfl, -, -⟩
    · simp [hhealth, Route.methods, handle, methodNotAllowedReply, forMethod, Except.map]
    all_goals
      simp only [hhealth, Route.methods, List.mem_cons, true_or, or_true, if_true,
        Dispatch.handler.injEq, reduceCtorEq, if_false]
      rcases handle L get _ with (_ | _) | _ <;> rfl

theorem serveHTTP_manifests {name d : String} {b : Bytes} {mt : String}
    (hr : (Route.manifests name d).Routable) (hs : readManifest L get name d = .ok (b, mt)) :
    serveHTTP L get "GET" (Route.manifests name d).path = .ok (serveContent mt b) := by
  simp [serveHTTP, dispatch_path hr (by simp [Route.methods] : "GET" ∈ _), handle,
    buildGetManifestHandler, hs, replyOf, forMethod, Except.map]

theorem serveHTTP_blobs {name d : String} {b : Bytes} {mt : String}
    (hr : (Route.blobs name d).Routable) (hd : digestParse d = .ok d)
    (hs : readBlob L get name d = .ok (b, mt)) :
    serveHTTP L get "GET" (Route.blobs name d).path = .ok (serveContent mt b) := by
  simp [serveHTTP, dispatch_path hr (by simp [Route.methods] : "GET" ∈ _), handle,
    buildGetBlobsHandler, hd, hs, replyOf, forMethod, Except.map]

/-- A manifests request whose read fails without a panic is answered `200` with no body. -/
theorem serveHTTP_manifests_error {name d e : String} (hr : (Route.manifests name d).Routable)
    (hs : readManifest L get name d = .error (.error e)) :
    serveHTTP L get "GET" (Route.manifests name d).path = .ok unwritten := by
  simp [serveHTTP, dispatch_path hr (by simp [Route.methods] : "GET" ∈ _), handle,
    buildGetManifestHandler, hs, replyOf, forMethod, Except.map]

/-- A blobs request whose read fails without a panic is answered `200` with no body. -/
theorem serveHTTP_blobs_error {name d e : String} (hr : (Route.blobs name d).Routable)
    (hs : readBlob L get name d = .error (.error e)) :
    serveHTTP L get "GET" (Route.blobs name d).path = .ok unwritten := by
  have hh : buildGetBlobsHandler L get name d = .ok unwritten := by
    unfold buildGetBlobsHandler
    cases hp : digestParse d with
    | error _ => rfl
    | ok d' =>
      obtain rfl := eq_of_digestParse hp
      simp [hs, replyOf]
  simp [serveHTTP, dispatch_path hr (by simp [Route.methods] : "GET" ∈ _), handle, hh, forMethod,
    Except.map]

/-- **The server answers what the walker serves.** If `ReadBlob` and `ReadManifest` both answer
digest `d` under root handle `name` with bytes `b` and media type `mt`, and the two are one
routable CID segment and one digest segment, then `GET` of `d` on the manifests route and on
the blobs route both answer `200` with `Content-Type` `mt` and body `b`. -/
theorem serveHTTP_of_serves {name d : String} {b : Bytes} {mt : String}
    (hr : (Route.blobs name d).Routable) (hd : digestParse d = .ok d)
    (hs : Serves L get name d b mt) :
    serveHTTP L get "GET" (Route.manifests name d).path = .ok (serveContent mt b) ∧
    serveHTTP L get "GET" (Route.blobs name d).path = .ok (serveContent mt b) :=
  ⟨serveHTTP_manifests L get hr hs.2, serveHTTP_blobs L get hr hd hs.1⟩

end Replies

/-! ### Digests the graph does not hold -/

section Absent

variable {Bytes Cid St : Type} (L : Lib Bytes Cid) {S : Unixfs St Bytes Cid} {cidOf : Bytes → Cid}
  {img : Image Bytes} {st st' : St} {sched : Schedule (Layer Bytes)} {root : Cid}

/-- **A digest the graph does not hold is not found, and answered with an empty `200`.** After a
successful `AddImage` over a content-addressed store, a digest string other than `latest` that
is none of the graph's digests (the index's, the decorated manifest's, the config's and the
layers') is reported not found by `ReadBlob`, and `ReadManifest` fails on it too, neither with a
panic. On either reading route under the root the handler then writes nothing, so net/http
answers `200` with no body rather than a not-found status. -/
theorem absent_digest_not_found (hL : L.Lawful) (hS : S.ContentAddressed cidOf L.undef)
    (hrun : addImage L S st img sched = .ok (root, st')) :
    ∃ m m', img.manifest = .ok m ∧ root = rootOf L cidOf m' ∧
      Stores S cidOf st' (records L cidOf m') ∧ ∀ d : String, d ≠ "latest" →
      (∀ h ∈ (wrapperOf L cidOf m').digest :: (L.sha256 (L.marshalManifest m')).toHash ::
          m.config.digest :: m.layers.map (·.digest), h.toString ≠ d) →
      readBlob L (S.get st') (L.cidString root) d =
        .error (.error ("didn\x27t find desired digest " ++ d)) ∧
      (∃ e, readManifest L (S.get st') (L.cidString root) d = .error (.error e)) ∧
      ((Route.blobs (L.cidString root) d).Routable →
        serveHTTP L (S.get st') "GET" (Route.manifests (L.cidString root) d).path = .ok unwritten ∧
        serveHTTP L (S.get st') "GET" (Route.blobs (L.cidString root) d).path = .ok unwritten) := by
  obtain ⟨m, m', hm, hroot, hst, hnf⟩ := addImage_not_found L hL hS hrun
  refine ⟨m, m', hm, hroot, hst, fun d hl hd => ?_⟩
  obtain ⟨hblob, hman⟩ := hnf d hd
  obtain ⟨e, he⟩ := hman hl
  exact ⟨hblob, ⟨e, he⟩, fun hr =>
    ⟨serveHTTP_manifests_error L _ hr he, serveHTTP_blobs_error L _ hr hblob⟩⟩

theorem Toy.absent_digest_not_found_rawImage :
    ∃ m m', (Toy.rawImage 2 [3, 4]).manifest = .ok m ∧ 112 = rootOf Toy.lib Toy.cidOf m' ∧
      Stores Toy.unixfs Toy.cidOf (Toy.ingest (Toy.rawImage 2 [3, 4]) Toy.inOrder).2
        (records Toy.lib Toy.cidOf m') ∧ ∀ d : String, d ≠ "latest" →
      (∀ h ∈ (wrapperOf Toy.lib Toy.cidOf m').digest ::
          (Toy.lib.sha256 (Toy.lib.marshalManifest m')).toHash ::
          m.config.digest :: m.layers.map (·.digest), h.toString ≠ d) →
      readBlob Toy.lib (Toy.unixfs.get (Toy.ingest (Toy.rawImage 2 [3, 4]) Toy.inOrder).2)
          (Toy.lib.cidString 112) d =
        .error (.error ("didn\x27t find desired digest " ++ d)) ∧
      (∃ e, readManifest Toy.lib (Toy.unixfs.get (Toy.ingest (Toy.rawImage 2 [3, 4]) Toy.inOrder).2)
        (Toy.lib.cidString 112) d = .error (.error e)) ∧
      ((Route.blobs (Toy.lib.cidString 112) d).Routable →
        serveHTTP Toy.lib (Toy.unixfs.get (Toy.ingest (Toy.rawImage 2 [3, 4]) Toy.inOrder).2) "GET"
          (Route.manifests (Toy.lib.cidString 112) d).path = .ok unwritten ∧
        serveHTTP Toy.lib (Toy.unixfs.get (Toy.ingest (Toy.rawImage 2 [3, 4]) Toy.inOrder).2) "GET"
          (Route.blobs (Toy.lib.cidString 112) d).path = .ok unwritten) :=
  absent_digest_not_found Toy.lib Toy.lib_lawful Toy.unixfs_contentAddressed
    (rfl : addImage Toy.lib Toy.unixfs [] (Toy.rawImage 2 [3, 4]) Toy.inOrder =
      .ok (112, (Toy.ingest (Toy.rawImage 2 [3, 4]) Toy.inOrder).2))

end Absent

namespace Toy

/-- `GET` of the first layer's digest under the root of an ingested two-layer image, on both
reading routes. -/
theorem serveHTTP_rawImage_layer :
    serveHTTP lib (get (ingest (rawImage 2 [3, 4]) inOrder).2) "GET"
        (Route.manifests (cidString 112) (sumOf 3).toHash.toString).path =
      .ok (serveContent layerType (.raw 3)) ∧
    serveHTTP lib (get (ingest (rawImage 2 [3, 4]) inOrder).2) "GET"
        (Route.blobs (cidString 112) (sumOf 3).toHash.toString).path =
      .ok (serveContent layerType (.raw 3)) :=
  serveHTTP_of_serves lib _ (by decide) (digestParse_sum256 (sumOf 3)) ⟨rfl, rfl⟩

end Toy

/-! ### `ripfs serve` -/

/-- A route `ServeMux` passes on unchanged: routable, with a reference `path.Clean` keeps. -/
def Route.Served : Route → Prop
  | .health => True
  | .manifests cid reference | .blobs cid reference => cidPattern cid = true ∧ PlainElem reference

instance : DecidablePred Route.Served := fun r =>
  match r with
  | .health => inferInstanceAs (Decidable True)
  | .manifests cid reference | .blobs cid reference =>
    inferInstanceAs (Decidable (cidPattern cid = true ∧ PlainElem reference))

theorem plainElem_of_cidPattern {cid : String} (h : cidPattern cid = true) : PlainElem cid := by
  simp only [cidPattern, Bool.and_eq_true, Bool.not_eq_true', List.isEmpty_eq_false,
    List.all_eq_true] at h
  exact ⟨h.1, fun hm => absurd (h.2 '/' hm) (by decide),
    fun he => absurd (h.2 '.' (by simp [he])) (by decide),
    fun he => absurd (h.2 '.' (by simp [he])) (by decide)⟩

theorem intercalate_cons_of_ne_nil {α : Type} (sep a : List α) {l : List (List α)} (h : l ≠ []) :
    sep.intercalate (a :: l) = a ++ sep ++ sep.intercalate l := by
  obtain ⟨b, l, rfl⟩ := List.exists_cons_of_ne_nil h
  simp [List.intercalate, List.intersperse_cons₂]

theorem intercalate_append_nil {α : Type} (sep : List α) :
    ∀ {l : List (List α)}, l ≠ [] → sep.intercalate (l ++ [[]]) = sep.intercalate l ++ sep
  | [a], _ => by simp [List.intercalate]
  | a :: b :: t, _ =>
    calc sep.intercalate (a :: (b :: t ++ [[]]))
        = a ++ sep ++ sep.intercalate (b :: t ++ [[]]) := intercalate_cons_of_ne_nil sep a (by simp)
      _ = a ++ sep ++ (sep.intercalate (b :: t) ++ sep) := by
        rw [intercalate_append_nil sep (List.cons_ne_nil b t)]
      _ = sep.intercalate (a :: b :: t) ++ sep := by
        rw [intercalate_cons_of_ne_nil sep a (List.cons_ne_nil b t)]
        simp only [List.append_assoc]

/-- Splitting a list that ends in the separator leaves an empty last part. -/
theorem splitOnP_go_getLast {α : Type} (P : α → Bool) {a : α} (ha : P a = true) :
    ∀ (ys acc : List α), (List.splitOnP.go P (ys ++ [a]) acc).getLast? = some []
  | [], acc => by simp [List.splitOnP.go, ha]
  | y :: ys, acc => by
    rw [List.cons_append, List.splitOnP.go]
    split
    · rw [List.getLast?_cons, splitOnP_go_getLast P ha ys [], Option.getD_some]
    · exact splitOnP_go_getLast P ha ys (y :: acc)

/-- A rooted path splits at its slashes into an empty root and its elements. -/
theorem splitOn_rooted {es : List (List Char)} (hes : ∀ e ∈ es, '/' ∉ e) (hne : es ≠ []) :
    ('/' :: ['/'].intercalate es).splitOn '/' = [] :: es := by
  have h := List.splitOn_intercalate ([] :: es) '/' (by simpa using hes) (List.cons_ne_nil _ _)
  rwa [intercalate_cons_of_ne_nil _ _ hne] at h

/-! #### `path.Clean` of a rooted path -/

/-- Rooted, `path.Clean` keeps only plain elements. -/
theorem cleanElems_rooted_plain :
    ∀ (acc es : List (List Char)), (∀ a ∈ acc, PlainElem ⟨a⟩) → (∀ e ∈ es, '/' ∉ e) →
      ∀ x ∈ cleanElems true acc es, PlainElem ⟨x⟩
  | acc, [], hacc, _ => hacc
  | acc, e :: es, hacc, hes => by
    have hes' : ∀ e' ∈ es, '/' ∉ e' := fun e' he' => hes e' (List.mem_cons_of_mem _ he')
    unfold cleanElems
    split
    · exact cleanElems_rooted_plain acc es hacc hes'
    split
    · cases acc with
      | nil => exact cleanElems_rooted_plain [] es hacc hes'
      | cons top acc' =>
        dsimp only
        rw [if_neg (hacc top (List.mem_cons_self _ _)).2.2.2]
        exact cleanElems_rooted_plain acc' es (fun a ha => hacc a (List.mem_cons_of_mem _ ha)) hes'
    · next h₁ h₂ =>
      refine cleanElems_rooted_plain (e :: acc) es ?_ hes'
      intro a ha
      rcases List.mem_cons.mp ha with rfl | ha
      · exact ⟨fun h => h₁ (.inl h), hes a (List.mem_cons_self _ _), fun h => h₁ (.inr h), h₂⟩
      · exact hacc a ha

/-- `path.Clean` of a rooted path is the root and plain elements. -/
theorem pathClean_of_rooted {p : String} {rest : List Char} (hp : p.data = '/' :: rest) :
    ∃ es : List (List Char), (∀ e ∈ es, PlainElem ⟨e⟩) ∧
      pathClean p = ⟨'/' :: ['/'].intercalate es⟩ := by
  refine ⟨(cleanElems true [] (p.data.splitOn '/')).reverse, fun e he => ?_, ?_⟩
  · refine cleanElems_rooted_plain [] _ (fun _ h => nomatch h) (fun s hs hm => ?_) e
      (List.mem_reverse.mp he)
    simpa using splitOnP_go_not (· == '/') p.data [] (by simp) s hs '/' hm
  · unfold pathClean
    simp [hp]

/-- `path.Clean` leaves a rooted path of plain elements as it is, and drops the empty elements
that follow them. -/
theorem pathClean_rooted_append {es ts : List (List Char)} (hes : ∀ e ∈ es, PlainElem ⟨e⟩)
    (hts : ∀ t ∈ ts, t = []) (hne : es ≠ []) :
    pathClean ⟨'/' :: ['/'].intercalate (es ++ ts)⟩ = ⟨'/' :: ['/'].intercalate es⟩ := by
  have hplain : ∀ e ∈ es ++ ts, e = [] ∨ PlainElem ⟨e⟩ := fun e he =>
    (List.mem_append.mp he).elim (fun he => .inr (hes e he)) fun he => .inl (hts e he)
  have hsplit : ('/' :: ['/'].intercalate (es ++ ts)).splitOn '/' = [] :: (es ++ ts) :=
    splitOn_rooted (fun e he hm => (hplain e he).elim (fun h => by simp [h] at hm)
      fun h => h.2.1 hm) (by simp [hne])
  have hfilter : (es ++ ts).filter (· ≠ []) = es := by
    rw [List.filter_append, List.filter_eq_self.mpr fun e he => decide_eq_true (hes e he).1,
      List.filter_eq_nil_iff.mpr fun t ht => by simp [hts t ht], List.append_nil]
  have hce : cleanElems true [] ([] :: (es ++ ts)) = es.reverse := by
    rw [cleanElems_of_plain true [] _ (List.forall_mem_cons.mpr ⟨.inl rfl, hplain⟩),
      List.filter_cons_of_neg (by simp), hfilter, List.append_nil]
  unfold pathClean
  simp only [hsplit, hce, List.reverse_reverse, beq_self_eq_true, if_true]

/-- A rooted path of plain elements does not end in a slash. -/
theorem getLast_rooted {es : List (List Char)} (hes : ∀ e ∈ es, PlainElem ⟨e⟩) (hne : es ≠ []) :
    ('/' :: ['/'].intercalate es).getLast? ≠ some '/' := by
  intro h
  obtain ⟨ys, hys⟩ := List.getLast?_eq_some_iff.mp h
  have := splitOnP_go_getLast (· == '/') (beq_self_eq_true '/') ys []
  rw [← hys] at this
  change (('/' :: ['/'].intercalate es).splitOn '/').getLast? = some [] at this
  obtain ⟨e, es', rfl⟩ := List.exists_cons_of_ne_nil hne
  rw [splitOn_rooted (fun e he => (hes e he).2.1) hne, List.getLast?_cons_cons] at this
  exact (hes [] (List.mem_of_getLast?_eq_some this)).1 rfl

/-- A rooted path of plain elements is not the root. -/
theorem rooted_plain_ne_root {es : List (List Char)} (hes : ∀ e ∈ es, PlainElem ⟨e⟩)
    (hne : es ≠ []) : (⟨'/' :: ['/'].intercalate es⟩ : String) ≠ "/" := fun h => by
  have h' : ['/'].intercalate es = [] := by simpa using congrArg String.data h
  obtain ⟨e, es', rfl⟩ := List.exists_cons_of_ne_nil hne
  have he := (hes e (List.mem_cons_self _ _)).1
  by_cases hne' : es' = []
  · subst hne'
    exact he (by simpa [List.intercalate] using h')
  · rw [intercalate_cons_of_ne_nil _ _ hne'] at h'
    simp at h'

/-! #### `cleanPath` -/

/-- `cleanPath` leaves a rooted path of plain elements as it is. -/
theorem cleanPath_rooted {es : List (List Char)} (hes : ∀ e ∈ es, PlainElem ⟨e⟩) (hne : es ≠ []) :
    cleanPath ⟨'/' :: ['/'].intercalate es⟩ = ⟨'/' :: ['/'].intercalate es⟩ := by
  have hne' : (⟨'/' :: ['/'].intercalate es⟩ : String) ≠ "" := fun h => by
    simpa using congrArg String.data h
  have hclean : pathClean ⟨'/' :: ['/'].intercalate (es ++ [])⟩ = _ :=
    pathClean_rooted_append hes (by simp) hne
  rw [List.append_nil] at hclean
  simp only [cleanPath, hne', if_false, List.head?_cons, if_true, hclean, getLast_rooted hes hne,
    false_and]

/-- ... and so is it with a trailing slash. -/
theorem cleanPath_rooted_slash {es : List (List Char)} (hes : ∀ e ∈ es, PlainElem ⟨e⟩)
    (hne : es ≠ []) :
    cleanPath ⟨'/' :: (['/'].intercalate es ++ ['/'])⟩ = ⟨'/' :: (['/'].intercalate es ++ ['/'])⟩ := by
  have hne' : (⟨'/' :: (['/'].intercalate es ++ ['/'])⟩ : String) ≠ "" := fun h => by
    simpa using congrArg String.data h
  have hlast : ('/' :: (['/'].intercalate es ++ ['/'])).getLast? = some '/' := by
    rw [← List.cons_append, List.getLast?_concat]
  have hclean : pathClean ⟨'/' :: ['/'].intercalate (es ++ [[]])⟩ = _ :=
    pathClean_rooted_append hes (by simp) hne
  rw [intercalate_append_nil _ hne] at hclean
  simp only [cleanPath, hne', if_false, List.head?_cons, if_true, hclean, hlast, ne_eq,
    rooted_plain_ne_root hes hne, not_false_eq_true, and_self]
  exact String.ext (by simp)

/-- What `cleanPath` returns: the root and plain elements, with a trailing slash when there is
an element and the path had one. -/
theorem cleanPath_forms (p : String) :
    ∃ es : List (List Char), (∀ e ∈ es, PlainElem ⟨e⟩) ∧
      (cleanPath p = ⟨'/' :: ['/'].intercalate es⟩ ∨
        (es ≠ [] ∧ cleanPath p = ⟨'/' :: (['/'].intercalate es ++ ['/'])⟩)) := by
  by_cases hp : p = ""
  · exact ⟨[], by simp, .inl (by rw [hp]; rfl)⟩
  set q := if p.data.head? = some '/' then p else "/" ++ p with hq
  have hrooted : ∃ rest, q.data = '/' :: rest := by
    rw [hq]
    split
    · next h => exact List.head?_eq_some_iff.mp h
    · exact ⟨p.data, rfl⟩
  obtain ⟨rest, hrest⟩ := hrooted
  obtain ⟨es, hes, hclean⟩ := pathClean_of_rooted hrest
  have hcp : cleanPath p = if q.data.getLast? = some '/' ∧ pathClean q ≠ "/" then
      pathClean q ++ "/" else pathClean q := by
    rw [cleanPath, if_neg hp]
  refine ⟨es, hes, ?_⟩
  rw [hcp, hclean]
  by_cases hc : q.data.getLast? = some '/' ∧ (⟨'/' :: ['/'].intercalate es⟩ : String) ≠ "/"
  · rw [if_pos hc]
    exact .inr ⟨fun he => hc.2 (by rw [he]; rfl), String.ext (by simp)⟩
  · rw [if_neg hc]
    exact .inl rfl

/-- `cleanPath` is idempotent: what it makes of a path it leaves as it is. -/
theorem cleanPath_cleanPath (p : String) : cleanPath (cleanPath p) = cleanPath p := by
  obtain ⟨es, hes, h | ⟨hne, h⟩⟩ := cleanPath_forms p <;> rw [h]
  · by_cases hne : es = []
    · subst hne
      rfl
    · exact cleanPath_rooted hes hne
  · exact cleanPath_rooted_slash hes hne

theorem Route.path_rooted (r : Route) :
    r.path = ⟨'/' :: ['/'].intercalate (r.segments.tail.map String.data)⟩ := by
  cases r <;> rfl

/-- Every path of a served route is clean. -/
theorem cleanPath_route {r : Route} (hr : r.Served) : cleanPath r.path = r.path := by
  cases r with
  | health => decide
  | manifests cid reference | blobs cid reference =>
    rw [Route.path_rooted]
    refine cleanPath_rooted ?_ (by simp [Route.segments])
    simpa [Route.segments, PlainElem] using ⟨plainElem_of_cidPattern hr.1, hr.2⟩

/-- **`ripfs serve` answers every served route as the router does.** Its `ServeMux` passes the
path of every routable route whose reference `path.Clean` keeps to the router unchanged, for
every method; only a path that `cleanPath` changes is redirected. -/
theorem listenAndServe_route {Bytes Cid : Type} (L : Lib Bytes Cid) (get : StoreView Bytes Cid)
    {r : Route} (hr : r.Served) (method : String) :
    listenAndServe L get method r.path = serveHTTP L get method r.path := by
  rw [listenAndServe, if_neg fun h => h.2 (cleanPath_route hr)]

/-- A reference `path.Clean` removes is redirected before the router sees it. -/
example : listenAndServe Toy.lib (Toy.get []) "GET" "/v2/ipfs/abc/manifests/.." =
    .ok (movedPermanently "GET" "/v2/ipfs/abc") := by
  rfl

theorem Toy.listenAndServe_rawImage_layer :
    listenAndServe Toy.lib (Toy.get (Toy.ingest (Toy.rawImage 2 [3, 4]) Toy.inOrder).2) "GET"
        (Route.blobs (Toy.cidString 112) (Toy.sumOf 3).toHash.toString).path =
      serveHTTP Toy.lib (Toy.get (Toy.ingest (Toy.rawImage 2 [3, 4]) Toy.inOrder).2) "GET"
        (Route.blobs (Toy.cidString 112) (Toy.sumOf 3).toHash.toString).path :=
  listenAndServe_route Toy.lib _ (by decide) "GET"

/-- **`ripfs serve` redirects at most once.** For every method and every path, the target of
`ServeMux`'s redirect, `cleanPath path`, is handed to the router as it is: a client that follows
the redirect is not redirected again. -/
theorem listenAndServe_cleanPath {Bytes Cid : Type} (L : Lib Bytes Cid) (get : StoreView Bytes Cid)
    (method path : String) :
    listenAndServe L get method (cleanPath path) = serveHTTP L get method (cleanPath path) := by
  rw [listenAndServe, if_neg fun h => h.2 (cleanPath_cleanPath path)]

end Ripfs
