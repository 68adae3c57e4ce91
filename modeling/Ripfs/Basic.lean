import Mathlib.Data.List.Basic

/-!
# Errors, maps, paths, digests and URLs

The values the registry code hands between its functions before any record is decoded:
Go's `error` results, its maps, the slash-separated paths of Go's `path` package, the two kinds
of content digest it handles, and the parts of a parsed URL that `resolveCids` reads.

A Go function that indexes an empty slice does not return an error: it panics, and the panic
unwinds through every `if err != nil` above it. `Failure` keeps the two apart, so that the
model says which one a path ends in.
-/

namespace Ripfs

/-- What a registry call can end in besides a value. -/
inductive Failure where
  | error (msg : String)
  | panic (msg : String)
  deriving DecidableEq, Repr

abbrev Result (α : Type) := Except Failure α

/-- A library call's `error`, as the registry code receives it. -/
def liftError {α : Type} : Except String α → Result α
  | .ok a => .ok a
  | .error msg => .error (.error msg)

@[simp] theorem liftError_ok {α : Type} (a : α) : liftError (.ok a) = .ok a := rfl

@[simp] theorem liftError_error {α : Type} (msg : String) :
    (liftError (.error msg) : Result α) = .error (.error msg) := rfl

theorem liftError_ne_panic {α : Type} (x : Except String α) (msg : String) :
    liftError x ≠ .error (.panic msg) := by
  cases x <;> simp [liftError]

@[simp] theorem ok_bind {ε α β : Type} (a : α) (k : α → Except ε β) :
    (Except.ok a >>= k) = k a := rfl

@[simp] theorem error_bind {ε α β : Type} (e : ε) (k : α → Except ε β) :
    (Except.error e >>= k) = Except.error e := rfl

theorem map_bind {ε α β γ : Type} (h : β → γ) (x : Except ε α) (k : α → Except ε β) :
    (x >>= k).map h = x >>= fun a => (k a).map h := by
  cases x <;> rfl

theorem bind_eq_ok {ε α β : Type} {x : Except ε α} {k : α → Except ε β} {r : β} :
    (x >>= k) = .ok r ↔ ∃ a, x = .ok a ∧ k a = .ok r := by
  cases x with
  | error e => exact ⟨fun h => (nomatch h), fun ⟨_, h, _⟩ => (nomatch h)⟩
  | ok a =>
    refine ⟨fun h => ⟨a, rfl, h⟩, ?_⟩
    rintro ⟨_, ⟨⟩, hk⟩
    exact hk

theorem map_eq_ok {ε α β : Type} {x : Except ε α} {f : α → β} {b : β} :
    f <$> x = .ok b ↔ ∃ a, x = .ok a ∧ f a = b := by
  cases x with
  | error e => exact ⟨fun h => (nomatch h), fun ⟨_, h, _⟩ => (nomatch h)⟩
  | ok a =>
    constructor
    · intro h
      injection h with h
      exact ⟨a, rfl, h⟩
    · rintro ⟨_, ⟨⟩, rfl⟩
      rfl

@[simp] theorem mapError_ok {ε ε' α : Type} (a : α) (f : ε → ε') :
    (Except.ok a : Except ε α).mapError f = .ok a := rfl

theorem mapError_eq_ok {ε ε' α : Type} {x : Except ε α} {f : ε → ε'} {a : α} :
    x.mapError f = .ok a ↔ x = .ok a := by
  cases x <;> simp [Except.mapError]

/-- A Go `map[string]V`, as its entries, one per key; an assignment replaces the key's entry. -/
abbrev GoMap (V : Type) := List (String × V)

def GoMap.put {V : Type} (m : GoMap V) (k : String) (v : V) : GoMap V :=
  (k, v) :: m.filter (·.1 ≠ k)

section GoMap

variable {V : Type} (m : GoMap V) (k : String)

theorem GoMap.put_put (a b : V) : (m.put k a).put k b = m.put k b := by
  simp [GoMap.put, List.filter_filter]

@[simp] theorem GoMap.lookup_put_self (v : V) : (m.put k v).lookup k = some v := by
  simp [GoMap.put]

theorem GoMap.lookup_filter_of_ne {k' : String} (h : k' ≠ k) :
    (m.filter (·.1 ≠ k)).lookup k' = m.lookup k' := by
  induction m with
  | nil => rfl
  | cons e m ih =>
    obtain ⟨a, v⟩ := e
    by_cases ha : a = k
    · subst ha
      rw [List.filter_cons_of_neg (by simp), ih, List.lookup_cons, beq_false_of_ne h]
    · rw [List.filter_cons_of_pos (by simpa using ha), List.lookup_cons, List.lookup_cons, ih]

theorem GoMap.lookup_put_of_ne {k' : String} (v : V) (h : k' ≠ k) :
    (m.put k v).lookup k' = m.lookup k' := by
  rw [GoMap.put, List.lookup_cons, beq_false_of_ne h, GoMap.lookup_filter_of_ne m k h]

end GoMap

/-! ### Go's `path` package -/

/-- The elements `path.Clean` keeps, last first: empty and `.` elements go, an inner `..`
removes the element before it, and a `..` that opens a rooted path goes. -/
def cleanElems (rooted : Bool) : List (List Char) → List (List Char) → List (List Char)
  | acc, [] => acc
  | acc, e :: es =>
    if e = [] ∨ e = ['.'] then cleanElems rooted acc es
    else if e = ['.', '.'] then
      match acc with
      | top :: acc' =>
        if top = ['.', '.'] then cleanElems rooted (e :: acc) es else cleanElems rooted acc' es
      | [] => if rooted then cleanElems rooted [] es else cleanElems rooted [e] es
    else cleanElems rooted (e :: acc) es

/-- Go's `path.Clean`: the shortest path equivalent to `p` by lexical processing, `.` for an
empty result, and a trailing slash only on the root. -/
def pathClean (p : String) : String :=
  match p.data with
  | [] => "."
  | c :: _ =>
    let rooted := c == '/'
    let body := ['/'].intercalate (cleanElems rooted [] (p.data.splitOn '/')).reverse
    if rooted then String.mk ('/' :: body)
    else if body = [] then "." else String.mk body

/-- Go's `path.Join` of two elements: from the first non-empty element on, joined by a slash and
cleaned; empty when both are. -/
def pathJoin (a b : String) : String :=
  if a ≠ "" then pathClean (a ++ "/" ++ b)
  else if b ≠ "" then pathClean b
  else ""

/-- A path element `path.Clean` leaves as it is: not empty, no slash, not `.` or `..`. -/
def PlainElem (s : String) : Prop :=
  s.data ≠ [] ∧ '/' ∉ s.data ∧ s.data ≠ ['.'] ∧ s.data ≠ ['.', '.']

instance : DecidablePred PlainElem := fun s =>
  inferInstanceAs (Decidable (s.data ≠ [] ∧ '/' ∉ s.data ∧ s.data ≠ ['.'] ∧ s.data ≠ ['.', '.']))

/-- `path.Clean` keeps every plain element, in order, and drops every empty one. -/
theorem cleanElems_of_plain (rooted : Bool) :
    ∀ (acc es : List (List Char)), (∀ e ∈ es, e = [] ∨ PlainElem ⟨e⟩) →
      cleanElems rooted acc es = (es.filter (· ≠ [])).reverse ++ acc
  | _, [], _ => rfl
  | acc, e :: es, h => by
    have hes : ∀ e ∈ es, e = [] ∨ PlainElem ⟨e⟩ := fun e he => h e (List.mem_cons_of_mem _ he)
    rcases h e (List.mem_cons_self e es) with rfl | ⟨he₀, -, he₁, he₂⟩
    · simp [cleanElems, cleanElems_of_plain rooted acc es hes]
    · simp [cleanElems, he₀, he₁, he₂, cleanElems_of_plain rooted (e :: acc) es hes]

/-! ### Digests

go-containerregistry hashes content into a `v1.Hash`; the registry reads digests back as
opencontainers `digest.Digest` strings and validates them with go-digest's `Parse`. -/

/-- go-containerregistry's `v1.Hash`. -/
structure Hash where
  algorithm : String
  hex : String
  deriving DecidableEq, Repr

/-- `Hash.String()`. -/
def Hash.toString (h : Hash) : String := h.algorithm ++ ":" ++ h.hex

/-- The alphabet of go-digest's anchored encoded regexps, `[a-f0-9]`. -/
def lowerHexDigits : List Char := "0123456789abcdef".data

def isLowerHexDigit (c : Char) : Bool := decide (c ∈ lowerHexDigits)

/-- A SHA-256 sum as `v1.SHA256` returns it: 64 lower-case hex digits. -/
structure Sum256 where
  hex : String
  hex_length : hex.length = 64
  hex_digits : ∀ c ∈ hex.data, isLowerHexDigit c = true

def Sum256.toHash (s : Sum256) : Hash := ⟨"sha256", s.hex⟩

/-- The length of the hex encoding go-digest expects for each algorithm it registers. -/
def encodedSize : String → Option Nat
  | "sha256" => some 64
  | "sha384" => some 96
  | "sha512" => some 128
  | _ => none

def isDigestSeparator (c : Char) : Bool := c = '.' || c = '+' || c = '_' || c = '-'

def isLowerAlnum (c : Char) : Bool := ('a' ≤ c && c ≤ 'z') || c.isDigit

def isEncodedChar (c : Char) : Bool := c.isAlphanum || c = '=' || c = '_' || c = '-'

/-- go-digest's anchored `DigestRegexp`, on a string already split at its first colon. -/
def matchesDigestRegexp (alg enc : List Char) : Bool :=
  (alg.splitOnP isDigestSeparator).all (fun part => !part.isEmpty && part.all isLowerAlnum) &&
    !enc.isEmpty && enc.all isEncodedChar

/-- Go's `len` of a string: its UTF-8 byte count. -/
def byteLength (cs : List Char) : Nat := cs.foldr (fun c n => c.utf8Size + n) 0

def errDigestInvalidFormat : String := "invalid checksum digest format"
def errDigestInvalidLength : String := "invalid checksum digest length"
def errDigestUnsupported : String := "unsupported digest algorithm"

/-- go-digest's `Parse`: the digest is the string itself, once `Validate` accepts it. -/
def digestParse (s : String) : Except String String :=
  match s.data.span (· ≠ ':') with
  | (alg, ':' :: enc) =>
    if alg.isEmpty || enc.isEmpty then .error errDigestInvalidFormat
    else match encodedSize (String.mk alg) with
      | none =>
        if matchesDigestRegexp alg enc then .error errDigestUnsupported
        else .error errDigestInvalidFormat
      | some size =>
        if byteLength enc ≠ size then .error errDigestInvalidLength
        else if enc.all isLowerHexDigit then .ok s
        else .error errDigestInvalidFormat
  | _ => .error errDigestInvalidFormat

/-- What `digestParse` accepts it returns unchanged. -/
theorem eq_of_digestParse {s d : String} (h : digestParse s = .ok d) : d = s := by
  unfold digestParse at h
  repeat' split at h
  all_goals first | (cases h; rfl) | cases h

theorem byteLength_of_lowerHex {cs : List Char} (h : ∀ c ∈ cs, isLowerHexDigit c = true) :
    byteLength cs = cs.length := by
  have hone : ∀ c ∈ lowerHexDigits, c.utf8Size = 1 := by decide
  induction cs with
  | nil => rfl
  | cons c cs ih =>
    have hc := hone c (by simpa [isLowerHexDigit] using h c (List.mem_cons_self c cs))
    simp only [byteLength, List.foldr_cons, List.length_cons] at ih ⊢
    rw [ih (fun c' hc' => h c' (List.mem_cons_of_mem c hc')), hc]
    omega

/-- Every SHA-256 sum prints as a digest go-digest accepts. -/
theorem digestParse_sum256 (s : Sum256) :
    digestParse s.toHash.toString = .ok s.toHash.toString := by
  have hnc : ∀ c ∈ s.hex.data, decide (c ≠ ':') = true := fun c hc =>
    decide_eq_true fun h => absurd (h ▸ s.hex_digits c hc) (by decide)
  have hspan : (s.toHash.toString).data.span (· ≠ ':') = ("sha256".data, ':' :: s.hex.data) := by
    simp [Hash.toString, Sum256.toHash, List.span_eq_take_drop, List.takeWhile_append,
      List.dropWhile_append, List.takeWhile_eq_self_iff.mpr hnc]
  have hlen : byteLength s.hex.data = 64 := by
    rw [byteLength_of_lowerHex s.hex_digits]
    exact s.hex_length
  have hne : s.hex.data.isEmpty = false :=
    List.isEmpty_eq_false.mpr fun h => by simpa [String.length, h] using s.hex_length
  have henc : encodedSize (String.mk "sha256".data) = some 64 := rfl
  unfold digestParse
  rw [hspan]
  simp [hne, henc, hlen, List.all_eq_true.mpr s.hex_digits]

theorem Sum256.toString_data (s : Sum256) :
    s.toHash.toString.data = "sha256:".data ++ s.hex.data := by
  simp [Hash.toString, Sum256.toHash]

/-- A SHA-256 digest string names one hash. -/
theorem Sum256.toHash_inj_of_toString {s t : Sum256} (h : s.toHash.toString = t.toHash.toString) :
    s.toHash = t.toHash := by
  have := congrArg String.data h
  rw [Sum256.toString_data, Sum256.toString_data] at this
  simp only [Sum256.toHash, String.ext (List.append_cancel_left this)]

theorem Sum256.toString_ne_latest (s : Sum256) : s.toHash.toString ≠ "latest" := by
  intro h
  have := congrArg (fun x : String => x.data.head?) h
  simp [Sum256.toString_data] at this

/-- A SHA-256 digest string is one plain path element. -/
theorem Sum256.plainElem_toString (s : Sum256) : PlainElem s.toHash.toString := by
  have hslash : '/' ∉ s.hex.data := fun h => absurd (s.hex_digits '/' h) (by decide)
  simp [PlainElem, Sum256.toString_data, hslash]

/-! ### URLs -/

/-- The fields of a parsed `url.URL` that `resolveCids` reads. -/
structure Url where
  scheme : String
  host : String
  deriving DecidableEq, Repr

/-- `URL.Hostname`: the host without a valid `:port` suffix, and without the brackets of an
IPv6 literal. -/
def Url.hostname (u : Url) : String :=
  let withoutPort :=
    match u.host.data.reverse.span (· ≠ ':') with
    | (revPort, ':' :: revHost) => if revPort.all Char.isDigit then revHost.reverse else u.host.data
    | _ => u.host.data
  match withoutPort with
  | '[' :: rest => if rest.getLast? = some ']' then String.mk rest.dropLast else String.mk withoutPort
  | _ => String.mk withoutPort

/-- A host with no colon that does not open with a bracket is its own hostname. -/
theorem Url.hostname_eq_host {u : Url} (hcolon : ':' ∉ u.host.data)
    (hbracket : u.host.data.head? ≠ some '[') : u.hostname = u.host := by
  rcases u with ⟨scheme, ⟨data⟩⟩
  have hne : ∀ c ∈ data.reverse, decide (c ≠ ':') = true := by
    intro c hc
    simp only [decide_eq_true_eq]
    rintro rfl
    exact hcolon (List.mem_reverse.mp hc)
  have hspan : data.reverse.span (· ≠ ':') = (data.reverse, []) := by
    rw [List.span_eq_take_drop, List.takeWhile_eq_self_iff.mpr hne,
      List.dropWhile_eq_nil_iff.mpr hne]
  unfold Url.hostname
  simp only [hspan]
  cases data with
  | nil => rfl
  | cons c rest =>
    have hc : c ≠ '[' := by simpa using hbracket
    split
    · simp_all
    · rfl

end Ripfs
