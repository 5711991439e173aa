import LineShell.Yaml.Making

/-!
# Reading documents

From a source to a value, over tokens, a tree of nodes, and their graph.
-/

namespace LineShell.Yaml

/-- The value of the document in a source; nothing at all is null. -/
def readDocument (s : Source) : Except Fault Value :=
  match Node.ofTokens? (Tokens.ofSource s) with
  | .error f => .error f
  | .ok none => .ok .null
  | .ok (some root) => Making.valueAt (Graph.ofNode root) root.id

end LineShell.Yaml
