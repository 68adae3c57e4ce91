import Ripfs.Basic

/-!
# Image references

go-containerregistry's `name.ParseReference` with its default options (not strict, registry
`index.docker.io`, tag `latest`), and the `Name()` of what it returns. `ParseReference` tries a
tag reference first and a digest reference second. A puller asks a registry for a reference's
manifests and blobs at the paths go-containerregistry's `remote` builds from it (`fetcherUrl`).

A registry is accepted when `url.Parse("//" + name)` gives it back as the host; that check is
net/url's and is a parameter here, `isAuthority`. The theorems use it only at the empty
registry, which stands for the default and is an authority (`url.Parse("//")` has the empty
host), and at the registry host they name.
-/

namespace Ripfs

def defaultRegistry : String := "index.docker.io"

def defaultRegistryAlias : String := "docker.io"

def defaultTag : String := "latest"

def defaultNamespace : String := "library"

def tagChars : List Char := "abcdefghijklmnopqrstuvwxyzABCDEFGHIJKLMNOPQRSTUVWXYZ0123456789_-.".data

def repositoryChars : List Char := "abcdefghijklmnopqrstuvwxyz0123456789_-./".data

/-- `checkElement`: a length in runes within bounds, and only allowed characters. -/
def checkElement (name element : String) (allowed : List Char) (minLength maxLength : Nat) :
    Except String Unit :=
  if element.length < minLength ∨ element.length > maxLength then
    .error (name ++ " must be between " ++ toString minLength ++ " and " ++ toString maxLength ++
      " characters in length: " ++ element)
  else if element.data.any (fun c => !allowed.contains c) then
    .error (name ++ " can only contain the characters \x60" ++ String.mk allowed ++ "\x60: " ++
      element)
  else .ok ()

def checkTag (tag : String) : Except String Unit := checkElement "tag" tag tagChars 1 128

def checkRepository (repository : String) : Except String Unit :=
  checkElement "repository" repository repositoryChars 2 255

/-- A `name.Registry`: the host as `NewRegistry` stored it. -/
structure Registry where
  registry : String
  deriving DecidableEq, Repr

/-- `Registry.RegistryStr`. -/
def Registry.registryStr (r : Registry) : String :=
  if r.registry ≠ "" then r.registry else defaultRegistry

/-- A `name.Repository`. -/
structure Repository where
  registry : Registry
  repository : String
  deriving DecidableEq, Repr

/-- A Docker Hub repository named without a namespace is in `library`. -/
def hasImplicitNamespace (repo : String) (reg : Registry) : Bool :=
  !repo.data.contains '/' && reg.registryStr == defaultRegistry

/-- `Repository.RepositoryStr`. -/
def Repository.repositoryStr (r : Repository) : String :=
  if hasImplicitNamespace r.repository r.registry then defaultNamespace ++ "/" ++ r.repository
  else r.repository

/-- `Repository.Name`. -/
def Repository.name (r : Repository) : String :=
  let regName := r.registry.registryStr
  if regName ≠ "" then regName ++ "/" ++ r.repositoryStr else r.repositoryStr

/-- A `name.Tag` or a `name.Digest`. -/
inductive Reference where
  | tag (repo : Repository) (tag : String)
  | digest (repo : Repository) (digest : String)
  deriving DecidableEq, Repr

/-- `Reference.Name`: `Tag.Name` or `Digest.Name`. -/
def Reference.name : Reference → String
  | .tag repo t => repo.name ++ ":" ++ t
  | .digest repo d => repo.name ++ "@" ++ d

/-- `Reference.Context`. -/
def Reference.context : Reference → Repository
  | .tag repo _ | .digest repo _ => repo

/-- `Reference.Identifier`. -/
def Reference.identifier : Reference → String
  | .tag _ t => t
  | .digest _ d => d

/-- The host and the path of `fetcher.url(resource, identifier)` in go-containerregistry's
`remote`, the distribution API request a puller sends for a repository:
`/v2/<repository>/<resource>/<identifier>` on the registry. -/
def fetcherUrl (repo : Repository) (resource identifier : String) : String × String :=
  (repo.registry.registryStr, "/v2/" ++ repo.repositoryStr ++ "/" ++ resource ++ "/" ++ identifier)

section Parse

variable (isAuthority : String → Bool)

/-- `NewRegistry`. -/
def newRegistry (name : String) : Except String Registry :=
  if !isAuthority name then
    .error ("registries must be valid RFC 3986 URI authorities: " ++ name)
  else
    let name := if name = "" then defaultRegistry else name
    .ok ⟨if name = defaultRegistryAlias then defaultRegistry else name⟩

/-- `strings.SplitN(name, "/", 2)`. -/
def splitRegistry (name : List Char) : List (List Char) :=
  match name.span (· ≠ '/') with
  | (pre, _ :: post) => [pre, post]
  | _ => [name]

/-- `NewRepository`: the first path component is the registry when it has a `.` or a `:`. -/
def newRepository (name : String) : Except String Repository := do
  if name.length = 0 then throw "a repository name must be specified"
  let (registry, repo) := match splitRegistry name.data with
    | [reg, repo] => if reg.contains '.' || reg.contains ':' then (String.mk reg, String.mk repo)
                     else ("", name)
    | _ => ("", name)
  checkRepository repo
  let reg ← newRegistry isAuthority registry
  pure ⟨reg, repo⟩

/-- `NewTag`: the text after the last `:` is the tag unless it holds a `/`. -/
def newTag (name : String) : Except String Reference := do
  let parts := name.data.splitOn ':'
  let (base, tag) :=
    if parts.length > 1 ∧ !(parts.getLastD []).contains '/' then
      (String.mk ([':'].intercalate parts.dropLast), String.mk (parts.getLastD []))
    else (name, "")
  if tag ≠ "" then checkTag tag
  let tag := if tag = "" then defaultTag else tag
  let repo ← newRepository isAuthority base
  pure (.tag repo tag)

def canonicalPrefix : String := "sha256:"

/-- `digest.Canonical.Validate`: sixty-four lower-case hex digits. -/
def validateSha256 (hex : List Char) : Except String Unit :=
  if byteLength hex ≠ 64 then .error errDigestInvalidLength
  else if hex.all isLowerHexDigit then .ok ()
  else .error errDigestInvalidFormat

/-- `NewDigest`: exactly one `@`, then a `sha256` digest; the base may carry a tag, which goes. -/
def newDigest (name : String) : Except String Reference := do
  match name.data.splitOn '@' with
  | [base, dig] =>
    match dig.splitAt canonicalPrefix.length with
    | (pre, hex) =>
      if pre ≠ canonicalPrefix.data then throw ("unsupported digest algorithm: " ++ String.mk dig)
      validateSha256 hex
      let base := match newTag isAuthority (String.mk base) with
        | .ok (.tag repo _) => repo.name
        | _ => String.mk base
      let repo ← newRepository isAuthority base
      pure (.digest repo (String.mk dig))
  | _ =>
    throw ("a digest must contain exactly one \x27@\x27 separator " ++
      "(e.g. registry/repository@digest) saw: " ++ name)

/-- `name.ParseReference`. -/
def parseReference (s : String) : Except String Reference :=
  match newTag isAuthority s with
  | .ok t => .ok t
  | .error _ =>
    match newDigest isAuthority s with
    | .ok d => .ok d
    | .error _ => .error ("could not parse reference: " ++ s)

end Parse

end Ripfs
