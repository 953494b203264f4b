import Partitura.Node.Change
/-!
# Node.Reorder — reversing and sorting children, level by level

A depth says how far the change reaches into containers among the children: zero leaves them alone, a negative depth has
no limit.  Elements in parameters and after tones are never reached.
-/
namespace Partitura

def deeper (depth : Int) : Int := if depth < 0 then depth else depth - 1

mutual
def Element.reversed : Element → Int → Element
  | .node n, depth => .node (Node.reversed n depth)
  | .toggle t, _ => .toggle t
  | .tone t, _ => .tone t
  | .text words, _ => .text words
  | .comment remark, _ => .comment remark
  termination_by structural e => e
/-- **A node with its children in reverse**, and so on downwards as far as the depth goes. -/
def Node.reversed : Node → Int → Node
  | ⟨r, p, vs, none⟩, _ => ⟨r, p, vs, none⟩
  | ⟨r, p, vs, some children⟩, depth =>
    let inner := reversedEach children (deeper depth)
    ⟨r, p, vs, some (if depth = 0 then children else inner).reverse⟩
  termination_by structural n => n
def reversedEach : List Element → Int → List Element
  | [], _ => []
  | e :: es, depth => Element.reversed e depth :: reversedEach es depth
  termination_by structural es => es
end

mutual
def Element.sorted (le : Element → Element → Bool) : Element → Int → Element
  | .node n, depth => .node (Node.sorted le n depth)
  | .toggle t, _ => .toggle t
  | .tone t, _ => .tone t
  | .text words, _ => .text words
  | .comment remark, _ => .comment remark
  termination_by structural e => e
/-- **A node with its children sorted**, equals in their order, and so on downwards as far as the depth goes.  Each
level is compared as it stands before the levels below it are sorted. -/
def Node.sorted (le : Element → Element → Bool) : Node → Int → Node
  | ⟨r, p, vs, none⟩, _ => ⟨r, p, vs, none⟩
  | ⟨r, p, vs, some children⟩, depth =>
    let inner := sortedEach le children (deeper depth)
    let pairs := children.zip (if depth = 0 then children else inner)
    ⟨r, p, vs, some ((pairs.mergeSort fun a b => le a.1 b.1).map Prod.snd)⟩
  termination_by structural n => n
def sortedEach (le : Element → Element → Bool) : List Element → Int → List Element
  | [], _ => []
  | e :: es, depth => Element.sorted le e depth :: sortedEach le es depth
  termination_by structural es => es
end

namespace Node

def reverse (n : Node) (depth : Int) : Except ScoreError Node := do
  let _ ← n.elements
  return n.reversed depth

def sortBy (n : Node) (depth : Int) (compare : Element → Element → Ordering) : Except ScoreError Node := do
  let _ ← n.elements
  return n.sorted (fun a b => compare a b != .gt) depth

end Node
end Partitura
