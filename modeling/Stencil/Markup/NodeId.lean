/-!
# Node handles

Nodes of markup documents live in one forest and are named by handles. A handle is the node's
place in the forest: it never changes while the node exists, so two handles name the same node
exactly when they are equal.
-/

namespace Stencil

/-- The handle of a node of a markup forest. -/
structure NodeId where
  index : Nat
deriving DecidableEq, Repr, Hashable, Inhabited

instance : Ord NodeId := ⟨fun a b => compare a.index b.index⟩

end Stencil
