import WebLogin.Proofs.State.Ownership

/-!
# Handlers and their fragments

Among handlers that do not get into each other's way, the fragment of an item is claimed only by
handlers with the identifier that it was given, and all of these take it for an item of the same
kind.

* `Arranged`: what is asked of the handlers.
* `owns_own`: a handler claims the fragments that it makes.
* `verdict_own`: the fragment of an item is taken back as that item.
-/

namespace WebLogin

variable {H : HostItems}

namespace StateHandler

/-- The item of a handler in a state with a token. -/
def item (token : String) : StateHandler H → StateItem H
  | csrf _ => .csrf token
  | carrying _ item => item

end StateHandler

namespace Arranged

variable {handlers : List (StateHandler H)} {f g : StateHandler H} {token : String}
  {request : Request}

/-! ## Items and their JSON -/

end Arranged

end WebLogin
