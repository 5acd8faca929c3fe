import LiveCompile.Json.Record

/-! The parsed syntax tree of all input files. -/

namespace LiveCompile

/-- A node of the syntax tree. Lines count from one; members the node does not know are
kept. -/
structure SyntaxNode where
  kind : String
  name : Option String
  file : Option String
  line : Option Nat
  children : List SyntaxNode
  extra : Fields Json
  deriving Inhabited, Repr

structure SyntaxTree where
  nodes : List SyntaxNode
  deriving Inhabited, Repr

/-- The greatest line or column number. -/
def maxPosition : Nat := Nat.pow 2 32 - 1

namespace SyntaxNode

def fieldNames : List String := ["kind", "name", "file", "line", "children"]

mutual

def ofDocument? : Document → Option SyntaxNode
  | .object _ fields => do
    return {
      kind := ← Document.fieldOr? fields "kind" "" Document.string?
      name := ← Document.fieldOr? fields "name" none (Document.nullable? Document.string?)
      file := ← Document.fieldOr? fields "file" none (Document.nullable? Document.string?)
      line := ← Document.fieldOr? fields "line" none
        (Document.nullable? (Document.natUpTo? maxPosition))
      children := ← match ← childLists? fields with
        | [] => some []
        | [children] => some children
        | _ => none
      extra := ← Document.others? fields fieldNames }
  | _ => none

/-- The child list of every member that is named so. -/
def childLists? : List (String × Document) → Option (List (List SyntaxNode))
  | [] => some []
  | (name, .array _ items) :: rest =>
    if name = "children" then do return (← listOfDocuments? items) :: (← childLists? rest)
    else childLists? rest
  | (name, _) :: rest => if name = "children" then none else childLists? rest

def listOfDocuments? : List Document → Option (List SyntaxNode)
  | [] => some []
  | item :: rest => do return (← ofDocument? item) :: (← listOfDocuments? rest)

end

mutual

def toJson : SyntaxNode → Json
  | ⟨kind, name, file, line, children, extra⟩ => .object
    ([("kind", .string kind)] ++ Json.optionalMember "name" .string name
      ++ Json.optionalMember "file" .string file ++ Json.optionalMember "line" Json.nat line
      ++ (if children.isEmpty then [] else [("children", .array (listToJson children))]) ++ extra)

def listToJson : List SyntaxNode → List Json
  | [] => []
  | node :: rest => node.toJson :: listToJson rest

end

mutual

/-- The number of nodes of a tree, its root included. -/
def count : SyntaxNode → Nat
  | ⟨_, _, _, _, children, _⟩ => 1 + listCount children

def listCount : List SyntaxNode → Nat
  | [] => 0
  | node :: rest => node.count + listCount rest

end

end SyntaxNode

namespace SyntaxTree

def empty : SyntaxTree := ⟨[]⟩

def ofDocument? (document : Document) : Option SyntaxTree := do
  let fields ← document.recordMembers? ["nodes"]
  return ⟨← Document.fieldOr? fields "nodes" [] (Document.list? SyntaxNode.ofDocument?)⟩

def toJson (tree : SyntaxTree) : Json :=
  .object [("nodes", .array (SyntaxNode.listToJson tree.nodes))]

def nodeCount (tree : SyntaxTree) : Nat := SyntaxNode.listCount tree.nodes

end SyntaxTree

end LiveCompile
