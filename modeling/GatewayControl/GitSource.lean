import GatewayControl.Checks
import GatewayControl.WebUrl

/-!
Git sources of deployments: a public GitHub repository, a commit and the path of a Compose file
become the URL that the file is read from.
-/

namespace GatewayControl.GitSource

open Text WebUrl Checks

structure GitComposeSource where
  repository : String
  owner : String
  repo : String
  commitSha : String
  composePath : String
  rawUrl : String
deriving DecidableEq

structure DeploymentSourceError where
  code : String
  message : String
deriving DecidableEq

/-! ### Patterns -/

def ownerPattern : List Char → Bool
  | [] => false
  | c :: cs => c.isAlphanum && cs.length ≤ 38 && cs.all fun c => c.isAlphanum || c = '-'

def repoPattern (repo : List Char) : Bool :=
  1 ≤ repo.length && repo.length ≤ 100 && repo.all plain

/-- The owner and the repository that `REPOSITORY_PATTERN` captures. -/
def repositoryMatch (repository : String) : Option (List Char × List Char) :=
  if "https://github.com/".toList.isPrefixOf repository.toList then
    match splitFirst '/' (repository.toList.drop "https://github.com/".toList.length) with
    | (owner, some repo) =>
        if ownerPattern owner && repoPattern repo then some (owner, repo) else none
    | (_, none) => none
  else none

def commitPattern (commitSha : String) : Bool :=
  commitSha.toList.length == 40 && commitSha.toList.all isHex

/-- `COMPOSE_PATH_PATTERN`, which ignores case. -/
def composePathPattern (path : List Char) : Bool :=
  [".yml".toList, ".yaml".toList].any fun extension =>
    extension.length < path.length && extension.isSuffixOf (lowered path) &&
      path.all fun c => plain c || c = '/'

/-- Backslashes become slashes, and one leading `./` is dropped. -/
def normalizedPath (composePath : String) : List Char :=
  let path := composePath.toList.map fun c => if c = '\\' then '/' else c
  if "./".toList.isPrefixOf path then path.drop 2 else path

def unreserved (c : Char) : Bool :=
  c.isAlphanum || ['-', '_', '.', '!', '~', '*', '\'', '(', ')'].contains c

def encodeURIComponent (text : List Char) : List Char :=
  text.flatMap (percentEncode fun c => !unreserved c)

/-! ### Sources -/

def joined (segments : List (List Char)) : List Char := ['/'].intercalate segments

def rawUrlOf (owner repo revision : List Char) (segments : List (List Char)) : String :=
  String.ofList ("https://raw.githubusercontent.com/".toList ++ joined
    (encodeURIComponent owner :: encodeURIComponent repo :: revision ::
      segments.map encodeURIComponent))

def normalizeGitComposeSource (repository commitSha composePath : String) :
    Except DeploymentSourceError GitComposeSource :=
  match repositoryMatch repository with
  | none => .error ⟨"invalid_repository",
      "repository must be a public https://github.com/\x7bowner\x7d/\x7brepo\x7d URL."⟩
  | some (owner, repo) =>
      if repository.toList.contains '@' || ".git".toList.isSuffixOf repository.toList then
        .error ⟨"invalid_repository",
          "repository must be a public https://github.com/\x7bowner\x7d/\x7brepo\x7d URL."⟩
      else if !commitPattern commitSha then
        .error ⟨"invalid_commit", "commitSha must contain exactly 40 hexadecimal characters."⟩
      else
        let path := normalizedPath composePath
        if !composePathPattern path || ['/'].isPrefixOf path ||
            (path.splitOn '/').any (fun part => part = [] || part = ['.'] || part = ['.', '.']) then
          .error ⟨"invalid_compose_path",
            "composePath must be a normalized relative .yml or .yaml path without traversal."⟩
        else
          let revision := lowered commitSha.toList
          .ok {
            repository := String.ofList ("https://github.com/".toList ++ joined [owner, repo])
            owner := String.ofList owner
            repo := String.ofList repo
            commitSha := String.ofList revision
            composePath := String.ofList path
            rawUrl := rawUrlOf owner repo revision (path.splitOn '/') }

/-- How Node reads the rest of a URL: `authority` parses what stands before the path. -/
structure Runtime where
  authority : String → Option Authority
  isIP : String → Bool

/-- The URL that `fetchGitComposeSource` requests, unless it refuses. -/
def requestedUrl (r : Runtime) (source : GitComposeSource) : Except DeploymentSourceError Url :=
  match parseUrl r.authority source.rawUrl with
  | none => .error ⟨"TypeError", "Invalid URL"⟩
  | some url =>
      if url.protocol ≠ "https:" ∨ url.hostname ≠ "raw.githubusercontent.com" ∨
          url.username ≠ "" ∨ url.password ≠ "" ∨ r.isIP url.hostname then
        .error ⟨"unsafe_source", "The internally constructed Git source URL is unsafe."⟩
      else .ok url

end GatewayControl.GitSource
