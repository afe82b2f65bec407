import HostExpr.Context
import HostExpr.Host.ListHost
import HostExpr.Host.TextHost

/-!
# Binding host objects

* `Setup`: a context together with the host objects that it may refer to;
* `Setup.bindHost`: adds a host object and binds a name to it;
* `Setup.bindBundled`: binds the two bundled objects as `String` and `Array`.
-/

namespace HostExpr

variable {σ : Type}

/-- A context and the host objects that its values refer to. -/
structure Setup (σ : Type) where
  context : Context
  hosts : HostTable σ

namespace Setup

/-- Adds a host object and binds a name to it. -/
def bindHost (name : String) (object : HostObject σ) (setup : Setup σ) : Setup σ :=
  let (ref, hosts) := setup.hosts.add object
  ⟨setup.context.bind name (.host ref), hosts⟩

/-- Binds the text object as `String` and the list object as `Array`; neither looks at its
state. -/
def bindBundled (state : σ) (setup : Setup σ) : Setup σ :=
  (setup.bindHost "String" ⟨TextHost.descriptor, state⟩).bindHost "Array"
    ⟨ListHost.descriptor, state⟩

end Setup

end HostExpr
