import Ripfs.Toy

/-!
# What a walk returns

`ReadBlob` folds its callback over every node the walk emits. The callback overwrites what it
found at each match, so the result is the last node with the requested digest, and it is
returned only once the whole walk, down to the last layer, has succeeded: a failure after the
match is still the result.

The outer wrapper's `step` error is overwritten before it is read: the callback is handed the
zero node and the walk goes on from the undefined CID.

`resolveCids` indexes the first locator without checking that there is one, so a record whose
locator list is empty makes the walker panic.
-/

namespace Ripfs

variable {Bytes Cid : Type} (L : Lib Bytes Cid)

/-- The last node of a list whose digest is `d`. -/
def lastMatch (d : String) (ns : List (Node Cid)) : Option (Node Cid) :=
  (ns.filter fun n => d = n.digest).getLast?

theorem foldl_matchDigest (d : String) :
    ∀ (ns : List (Node Cid)) (found : Option (Cid × String)),
      ns.foldl (matchDigest d) found =
        match lastMatch d ns with
        | some n => some (n.cid, n.mediaType)
        | none => found
  | [], _ => rfl
  | n :: ns, found => by
    rw [List.foldl_cons, foldl_matchDigest d ns]
    unfold lastMatch matchDigest
    by_cases hd : d = n.digest
    · subst hd
      simp only [List.filter_cons, decide_True, if_true, List.getLast?_cons]
      cases (ns.filter fun n' => n.digest = n'.digest).getLast? <;> rfl
    · simp [hd, List.filter_cons]

theorem lastMatch_spec {d : String} {ns : List (Node Cid)} {n : Node Cid}
    (h : lastMatch d ns = some n) : n ∈ ns ∧ d = n.digest := by
  simpa using List.mem_of_getLast?_eq_some h

theorem lastMatch_isSome {d : String} {ns : List (Node Cid)} {n : Node Cid} (hn : n ∈ ns)
    (hd : d = n.digest) : ∃ n', lastMatch d ns = some n' := by
  apply Option.isSome_iff_exists.mp
  rw [Option.isSome_iff_ne_none, lastMatch, Ne, List.getLast?_eq_none_iff, List.filter_eq_nil_iff]
  exact fun h => h n hn (by simpa using hd)

/-- A match in the second part of a list hides every match in the first. -/
theorem lastMatch_append {d : String} {pre post : List (Node Cid)} {n : Node Cid} (hn : n ∈ post)
    (hd : d = n.digest) : lastMatch d (pre ++ post) = lastMatch d post := by
  obtain ⟨n', h'⟩ := lastMatch_isSome hn hd
  unfold lastMatch at h' ⊢
  rw [List.filter_append, List.getLast?_append, h']
  rfl

theorem lastMatch_cons_of_unique {d : String} {n : Node Cid} {ns : List (Node Cid)}
    (hd : d = n.digest) (hns : ∀ n' ∈ ns, d ≠ n'.digest) : lastMatch d (n :: ns) = some n := by
  subst hd
  have : (ns.filter fun n' => n.digest = n'.digest) = [] := by
    rw [List.filter_eq_nil_iff]
    simpa using hns
  simp [lastMatch, List.filter_cons, this]

/-- `ReadBlob` over a walk that emits `ns` returns the content at the last match. -/
theorem readBlob_of_lastMatch {get : StoreView Bytes Cid} {name d : String} {rootc : Cid}
    {ns : List (Node Cid)} {n : Node Cid} {b : Bytes} (hname : L.cidDecode name = .ok rootc)
    (hwalk : walkNodes L get rootc = .ok ns) (hlast : lastMatch d ns = some n)
    (hget : get n.cid = .ok (.file b)) : readBlob L get name d = .ok (b, n.mediaType) := by
  simp only [readBlob, hname, liftError_ok, ok_bind, walk_eq_fold, hwalk, Except.map,
    foldl_matchDigest, hlast, openFile_of_get hget]
  rfl

theorem lastMatch_eq_none {d : String} {ns : List (Node Cid)} (h : ∀ n ∈ ns, d ≠ n.digest) :
    lastMatch d ns = none := by
  rw [lastMatch, List.getLast?_eq_none_iff, List.filter_eq_nil_iff]
  simpa using h

/-- `ReadBlob` over a walk that emits no node of digest `d` reports `d` not found. -/
theorem readBlob_of_lastMatch_none {get : StoreView Bytes Cid} {name d : String} {rootc : Cid}
    {ns : List (Node Cid)} (hname : L.cidDecode name = .ok rootc)
    (hwalk : walkNodes L get rootc = .ok ns) (hlast : lastMatch d ns = none) :
    readBlob L get name d = .error (.error ("didn\x27t find desired digest " ++ d)) := by
  simp only [readBlob, hname, liftError_ok, ok_bind, walk_eq_fold, hwalk, Except.map,
    foldl_matchDigest, hlast]
  rfl

/-- `ReadManifest` of a valid digest other than `latest` is `ReadBlob`. -/
theorem readManifest_of_digest {get : StoreView Bytes Cid} {name d : String} {rootc : Cid}
    (hname : L.cidDecode name = .ok rootc) (hd : digestParse d = .ok d) (hl : d ≠ "latest") :
    readManifest L get name d = readBlob L get name d := by
  simp only [readManifest, hname, liftError_ok, ok_bind, hl, if_false, hd]

namespace Toy

/-- A digest go-digest accepts, shared below by two nodes. -/
def dupDigest : String := (sumOf 3).toHash.toString

end Toy

/-! ### The outer wrapper's error -/

/-- **The wrapper's error is dropped.** When the outer wrapper's record fails `step` with an
error, `walk` hands the callback the zero node and goes on from the undefined CID. -/
theorem walk_of_root_step_error {get : StoreView Bytes Cid} {rootc : Cid} {rootf : Bytes}
    {e : String} (hopen : openFile get rootc = .ok rootf)
    (hstep : step L rootf = .error (.error e)) {α : Type} (fn : α → Node Cid → Result α)
    (acc : α) :
    walk L get rootc fn acc = fn acc (zeroNode L) >>= walkIndex L get L.undef fn := by
  simp only [walk, hopen, hstep, ok_bind, dropStepError]
  rfl

/-- A store whose root holds a blob that is not JSON: the walk's callback sees the zero node,
and the error the walk returns is the one of opening the undefined CID. -/
theorem walk_of_root_step_error_raw :
    openFile (Toy.get [(1, .raw 0)]) 1 = .ok (.raw 0) ∧
    step Toy.lib (Toy.Blob.raw 0) =
      .error (.error "invalid character looking for beginning of value") ∧
    walkNodes Toy.lib (Toy.get [(1, .raw 0)]) 1 =
      (Except.ok [zeroNode Toy.lib] >>=
        walkIndex Toy.lib (Toy.get [(1, .raw 0)]) Toy.lib.undef fun ns n => .ok (ns ++ [n])) ∧
    walkNodes Toy.lib (Toy.get [(1, .raw 0)]) 1 = .error (.error "merkledag: not found") :=
  ⟨rfl, rfl, walk_of_root_step_error Toy.lib
    (rfl : openFile (Toy.get [(1, .raw 0)]) 1 = .ok (.raw 0)) rfl _ _, rfl⟩

/-! ### Empty locator lists -/

theorem step_panics_of_empty_urls {data : Bytes} {robj : Catch}
    (h : L.decodeCatch data = .ok robj) (hu : robj.urls = some []) :
    step L data = .error (.panic indexOutOfRange) := by
  rw [step_of_urls L h hu]
  rfl

/-- **An empty locator list panics.** An outer wrapper whose `urls` is the empty list makes
`ReadManifest` of `latest` and `ReadBlob` of any digest panic. -/
theorem readers_panic_of_empty_urls {get : StoreView Bytes Cid} {name : String} {rootc : Cid}
    {rootf : Bytes} {robj : Catch} (hname : L.cidDecode name = .ok rootc)
    (hget : get rootc = .ok (.file rootf)) (hdec : L.decodeCatch rootf = .ok robj)
    (hu : robj.urls = some []) (d : String) :
    readManifest L get name "latest" = .error (.panic indexOutOfRange) ∧
    readBlob L get name d = .error (.panic indexOutOfRange) := by
  have hstep := step_panics_of_empty_urls L hdec hu
  constructor
  · simp [readManifest, hname, openFile_of_get hget, hstep]
  · simp [readBlob, walk, hname, openFile_of_get hget, hstep, dropStepError]

/-- The outer wrapper `{"urls":[]}`. -/
theorem readers_panic_of_empty_urls_wrapper :
    Toy.lib.cidDecode (Toy.cidString 1) = .ok 1 ∧
    Toy.get [(1, .catchDoc ⟨"", "", some [], []⟩)] 1 = .ok (.file (.catchDoc ⟨"", "", some [], []⟩)) ∧
    Toy.lib.decodeCatch (.catchDoc ⟨"", "", some [], []⟩) = .ok ⟨"", "", some [], []⟩ ∧
    (readManifest Toy.lib (Toy.get [(1, .catchDoc ⟨"", "", some [], []⟩)]) (Toy.cidString 1)
        "latest" = .error (.panic indexOutOfRange) ∧
      readBlob Toy.lib (Toy.get [(1, .catchDoc ⟨"", "", some [], []⟩)]) (Toy.cidString 1)
        Toy.dupDigest = .error (.panic indexOutOfRange)) :=
  ⟨rfl, rfl, rfl, readers_panic_of_empty_urls Toy.lib
    (rfl : Toy.lib.cidDecode (Toy.cidString 1) = .ok 1)
    (rfl : Toy.get [(1, .catchDoc ⟨"", "", some [], []⟩)] 1 =
      .ok (.file (.catchDoc ⟨"", "", some [], []⟩)))
    rfl rfl _⟩

end Ripfs
