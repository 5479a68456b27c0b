import GatewayControl.FileProvider
import GatewayControl.RouteDirectory

/-!
What Traefik serves from an agent's dynamic directory: the routes the agent was told to serve,
each at its host name and with its own backends.
-/

namespace GatewayControl.ServedRoutes

open Text AgentTypes AgentPayloads Programs Host RouteSync RouteDirectory FileProvider

/-! ### One route -/

/-- What a request for the route's host name gets. -/
def answer (route : Route) (entryPoint : String) : Option Reply :=
  if route.exposure = "tunnel" then
    if entryPoint = "web" then some (.proxy route.backends none) else none
  else if entryPoint = "web" then some (.redirect "https" true)
  else if entryPoint = "websecure" then some (.proxy route.backends (some "letsencrypt"))
  else none

variable {id id' : String} {route route' : Route}

variable {e : Executor} {links : String → String}

end GatewayControl.ServedRoutes
