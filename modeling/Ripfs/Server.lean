import Ripfs.Walker

/-!
# The registry server

`NewIpfsRegistry`'s chi router and its three handlers. The router splits the request path at
every `/` and finds the route whose pattern has the same segments: `/v2/` for the health check,
and `/v2/ipfs/{cid:[a-z0-9]+}/manifests/{reference}` and `.../blobs/{reference}` for the
readers. chi matches a parameter only against a non-empty segment, a regexp parameter only
when the anchored pattern matches it, and answers 404 for a path no route has and 405 for a
method the route was not registered for.

A handler whose read fails returns without writing, and net/http then sends `200 OK` with no
body. A handler that panics is recovered by chi's `Recoverer`, which `httplog.RequestLogger`
chains in front of every handler: it answers `500` with no body. For a `HEAD` request net/http
sends the headers and no body. `http.ServeContent` is modelled on requests without range or
conditional headers, for which it sends the whole content with `200 OK`.
-/

namespace Ripfs

/-- The handlers `NewIpfsRegistry` registers, with the URL parameters chi extracts. -/
inductive Route where
  | health
  | manifests (cid reference : String)
  | blobs (cid reference : String)
  deriving DecidableEq, Repr

/-- chi's `{cid:[a-z0-9]+}`, anchored: a non-empty segment of lower-case letters and digits. -/
def cidPattern (s : String) : Bool := !s.data.isEmpty && s.data.all isLowerAlnum

def pathSegments (path : String) : List String := (path.data.splitOn '/').map String.mk

/-- chi's route tree for `NewIpfsRegistry`: the route whose pattern has the path's segments, with
the methods registered for it. A static segment must equal the pattern's text; `{cid}` must
match its pattern and `{reference}` must be non-empty. -/
def routeTree : List String → Option (List String × Route)
  | [root, v2, slash] =>
    if root = "" ∧ v2 = "v2" ∧ slash = "" then some (["GET"], .health) else none
  | [root, v2, ipfs, cid, kind, reference] =>
    if root = "" ∧ v2 = "v2" ∧ ipfs = "ipfs" ∧ cidPattern cid ∧ reference ≠ "" then
      if kind = "manifests" then some (["HEAD", "GET"], .manifests cid reference)
      else if kind = "blobs" then some (["HEAD", "GET"], .blobs cid reference)
      else none
    else none
  | _ => none

inductive Dispatch where
  | handler (r : Route)
  | methodNotAllowed
  | notFound
  deriving DecidableEq, Repr

/-- `Mux.ServeHTTP`'s routing. -/
def dispatch (method path : String) : Dispatch :=
  match routeTree (pathSegments path) with
  | none => .notFound
  | some (methods, r) => if method ∈ methods then .handler r else .methodNotAllowed

inductive Body (Bytes : Type) where
  | empty
  | text (s : String)
  | content (b : Bytes)
  deriving DecidableEq, Repr

structure Reply (Bytes : Type) where
  status : Nat
  contentType : Option String
  location : Option String
  body : Body Bytes
  deriving DecidableEq, Repr

/-- `Content-Type` that net/http sniffs for plain text, and that `http.Error` sets. -/
def textPlain : String := "text/plain; charset=utf-8"

section Handlers

variable {Bytes Cid : Type} (L : Lib Bytes Cid) (get : StoreView Bytes Cid)

/-- `http.ServeContent` with the handler's `Content-Type`, on a request without range or
conditional headers. -/
def serveContent (mediaType : String) (content : Bytes) : Reply Bytes :=
  ⟨200, some mediaType, none, .content content⟩

/-- What net/http sends for a handler that returns without writing. -/
def unwritten : Reply Bytes := ⟨200, none, none, .empty⟩

/-- `http.NotFound`, chi's default for a path no route has. -/
def notFoundReply : Reply Bytes := ⟨404, some textPlain, none, .text "404 page not found\n"⟩

/-- chi's default for a method the route was not registered for. -/
def methodNotAllowedReply : Reply Bytes := ⟨405, none, none, .empty⟩

/-- The end of a reading handler: the content on success, nothing written on an error; a panic
leaves the handler. -/
def replyOf : Result (Bytes × String) → Result (Reply Bytes)
  | .ok (content, mediaType) => .ok (serveContent mediaType content)
  | .error (.error _) => .ok unwritten
  | .error (.panic p) => .error (.panic p)

/-- `buildHealthHandler`: `200` and `{}`, whose `Content-Type` net/http sniffs. -/
def buildHealthHandler : Reply Bytes := ⟨200, some textPlain, none, .text "{}"⟩

def buildGetManifestHandler (cid reference : String) : Result (Reply Bytes) :=
  replyOf (readManifest L get cid reference)

/-- `buildGetBlobsHandler`: the reference must parse as a digest. -/
def buildGetBlobsHandler (cid reference : String) : Result (Reply Bytes) :=
  match digestParse reference with
  | .error _ => .ok unwritten
  | .ok d => replyOf (readBlob L get cid d)

def handle : Dispatch → Result (Reply Bytes)
  | .handler .health => .ok buildHealthHandler
  | .handler (.manifests cid reference) => buildGetManifestHandler L get cid reference
  | .handler (.blobs cid reference) => buildGetBlobsHandler L get cid reference
  | .methodNotAllowed => .ok methodNotAllowedReply
  | .notFound => .ok notFoundReply

/-- What net/http sends of a handler's reply: for `HEAD`, no body. -/
def forMethod (method : String) (r : Reply Bytes) : Reply Bytes :=
  if method = "HEAD" then { r with body := .empty } else r

/-- chi's `Recoverer`, which `httplog.RequestLogger` chains in front of every handler: a handler
that panics is answered `500` with no body. -/
def recoverer : Result (Reply Bytes) → Result (Reply Bytes)
  | .error (.panic _) => .ok ⟨500, none, none, .empty⟩
  | r => r

@[simp] theorem recoverer_ok (r : Reply Bytes) : recoverer (.ok r) = .ok r := rfl

/-- `IpfsRegistry.Router` serving one request. -/
def serveHTTP (method path : String) : Result (Reply Bytes) :=
  (recoverer (handle L get (dispatch method path))).map (forMethod method)

/-! ### `ripfs serve` -/

def htmlEscapeChar : Char → String
  | '&' => "&amp;"
  | '\x27' => "&#39;"
  | '<' => "&lt;"
  | '>' => "&gt;"
  | '"' => "&#34;"
  | c => c.toString

/-- net/http's `htmlEscape`. -/
def htmlEscape (s : String) : String := String.join (s.data.map htmlEscapeChar)

/-- net/http's `cleanPath`: the path rooted and cleaned by `path.Clean`, its trailing slash
kept. -/
def cleanPath (p : String) : String :=
  if p = "" then "/"
  else
    let p := if p.data.head? = some '/' then p else "/" ++ p
    let np := pathClean p
    if p.data.getLast? = some '/' ∧ np ≠ "/" then np ++ "/" else np

/-- `http.Redirect` with `301 Moved Permanently` to `target`: a `Content-Type` for `GET` and
`HEAD`, and for `GET` a link. -/
def movedPermanently (method target : String) : Reply Bytes :=
  ⟨301, if method = "GET" ∨ method = "HEAD" then some "text/html; charset=utf-8" else none,
    some target,
    if method = "GET" then .text ("<a href=\"" ++ htmlEscape target ++ "\">Moved Permanently</a>.\n\n")
    else .empty⟩

/-- `http.ListenAndServe` of `serveCommandOpts.Run`, with `DefaultServeMux` holding the router at
`/`: `ServeMux` redirects a request whose path `cleanPath` changes to the clean path (a `CONNECT`
request is not cleaned), and hands every other request to the router. -/
def listenAndServe (method path : String) : Result (Reply Bytes) :=
  if method ≠ "CONNECT" ∧ cleanPath path ≠ path then .ok (movedPermanently method (cleanPath path))
  else serveHTTP L get method path

end Handlers

end Ripfs
