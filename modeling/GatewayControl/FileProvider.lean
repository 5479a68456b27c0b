import Mathlib.Data.Set.Basic
import GatewayControl.RouteSync

/-!
What Traefik makes of the files of its dynamic directory: it reads them as one configuration, in
which a router, a service and a middleware are told apart by their names alone.

Of the rules only the one that compares the host name is described, of the middlewares only the
redirection to another scheme.
-/

namespace GatewayControl.FileProvider

open AgentTypes RouteSync

structure Request where
  entryPoint : String
  host : String

inductive Reply where
  | redirect (scheme : String) (permanent : Bool)
  /-- By one of the servers, behind a certificate of the resolver. -/
  | proxy (servers : List String) (resolver : Option String)
deriving DecidableEq

abbrev Files := Set TraefikDynamicConfiguration

variable {files : Files}

structure Matches (router : TraefikRouter) (q : Request) : Prop where
  entryPoint : q.entryPoint ∈ router.entryPoints
  rule : router.rule = hostRule q.host

/-- What a router replies: its service is behind its first middleware, if it has one. -/
inductive Forwards (files : Files) (router : TraefikRouter) : Reply → Prop where
  | redirect {file : TraefikDynamicConfiguration} {name : String} {m : TraefikRedirectScheme}
      (used : router.middlewares.head? = some name) (read : file ∈ files)
      (found : (name, m) ∈ file.middlewares) :
      Forwards files router (.redirect m.scheme m.permanent)
  | proxy {file : TraefikDynamicConfiguration} {servers : List String}
      (used : router.middlewares = []) (read : file ∈ files)
      (found : (router.service, servers) ∈ file.services) :
      Forwards files router (.proxy servers router.tls)

/-- The names under which a file defines something. -/
def defined (file : TraefikDynamicConfiguration) : List String :=
  file.routers.map (·.1) ++ (file.services.map (·.1) ++ file.middlewares.map (·.1))

/-- The names its routers refer to. -/
def used (router : TraefikRouter) : List String := router.service :: router.middlewares

/-- Every name that is used is defined in the same file. -/
def Closed (file : TraefikDynamicConfiguration) : Prop :=
  ∀ name router, (name, router) ∈ file.routers → ∀ n ∈ used router, n ∈ defined file

lemma Forwards.mono {files' : Files} (h : files ⊆ files') {router : TraefikRouter} {reply : Reply}
    (hf : Forwards files router reply) : Forwards files' router reply := by
  cases hf with
  | redirect used read found => exact .redirect used (h read) found
  | proxy used read found => exact .proxy used (h read) found

end GatewayControl.FileProvider
