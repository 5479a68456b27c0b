import GatewayControl.HostIsolation

/-!
Security options that switch a confinement off, in the spellings Docker knows, and which of
them the two validators let through.

The control plane's expression has no place for the separator `=`, and does not know
`systempaths`. The agent looks for `unconfined` in any option, but for the SELinux label
with the separator `:` only.
-/

namespace GatewayControl.SecurityOptions

open Text Json Checks ComposePolicy HostIsolation

/-! ### What disables a confinement -/

/-- An option with the value that switches its confinement off. -/
def confinements : List (String × String) :=
  [("seccomp", "unconfined"), ("apparmor", "unconfined"), ("systempaths", "unconfined"),
    ("label", "disable")]

/-- With either separator. -/
def spellings : List String :=
  confinements.flatMap fun c => [c.1 ++ "=" ++ c.2, c.1 ++ ":" ++ c.2]

/-- How Docker reads an option: what disables a confinement is one of the spellings, in some
letter case. -/
structure Docker where
  disables : String → Bool
  spelled : ∀ s, disables s → ∃ w ∈ spellings, asciiLower s = w.toList

/-- Docker's own reading: the names in lower case, and `systempaths` with `=` only. -/
def engine : Docker where
  disables := fun s => ["seccomp=unconfined", "seccomp:unconfined", "apparmor=unconfined",
    "apparmor:unconfined", "systempaths=unconfined", "label=disable", "label:disable"].contains s
  spelled := by
    intro s h
    rw [List.contains_iff_mem] at h
    revert s
    decide

end GatewayControl.SecurityOptions
