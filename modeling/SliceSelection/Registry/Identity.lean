import SliceSelection.Text.Substring

/-!
# Identities at the registry

A network function is known to the registry under the base address of the registry and an
instance identifier. Together they give the address of its resource; when the registry makes a
resource it names its address, from which the identity is read back.
-/

namespace SliceSelection.Registry

/-- Whom to ask and under which identifier one is known there. -/
structure Identity where
  /-- The base address of the registry. -/
  registry : String
  instanceId : String
deriving DecidableEq, Repr

namespace Identity

/-- What stands between the base address and the path of a resource. -/
def marker : String := "/nnrf-nfm/"

/-- The address of the resource: the base address, the collection and the identifier. -/
def uri (i : Identity) : String := i.registry ++ "/nnrf-nfm/v1/nf-instances/" ++ i.instanceId

/-- The identity that the address of a resource names: the base address ends before the first
marker, and the identifier stands behind the last slash and is not empty. -/
def ofUri? (uri : String) : Option Identity :=
  match Text.before? marker.toList uri.toList, Text.afterLast '/' uri.toList with
  | none, _ => none
  | some _, [] => none
  | some base, id => some ⟨String.ofList base, String.ofList id⟩

end Identity

end SliceSelection.Registry
