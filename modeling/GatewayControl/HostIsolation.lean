import GatewayControl.ComposeModel
import GatewayControl.ComposePolicy

/-!
Which Compose documents reach the host's files, and what the two validators exclude.

A service reaches the host through a mount of its own that is a bind mount or a socket,
or through a named volume that Docker's local driver binds to a host path. Both
validators exclude the first altogether; neither looks at the second.
-/

namespace GatewayControl.HostIsolation

open Text Json Checks

/-! ### What reaches the host -/

variable (le : String → String → Bool)

open ComposePolicy

/-- One service with one named volume of the given definition. -/
def sampleSource (definition : String) : String :=
  "services:\n  app:\n    image: nginx:1.27\n    restart: always\n" ++
    "    volumes: ['data:/data']\nvolumes:\n  data: " ++ definition ++ "\n"

def isOk {ε α : Type} : Except ε α → Bool
  | .ok _ => true
  | .error _ => false

end GatewayControl.HostIsolation
