import Partitura.Node.Reorder
import Partitura.Proofs.Node.Built
/-!
# Proofs.Node.Call — calls on a node, one after the other

A call changes a node, or is refused and leaves it as it was.  `Element.Made` says of an element that it comes from the
builders and from calls on nodes made so: what a caller can get hold of at all.
-/
namespace Partitura

/-- **A call that may change a node.** -/
inductive Call where
  | setParameter (name : String) (value : Argument)
  | setPosition (position : Position)
  | append (child : Element)
  | extend (more : List Element)
  | insert (index : Nat) (child : Element)
  | set (index : Nat) (child : Element)
  | delete (index : Nat)
  | pop
  | remove (child : Element)
  | reverse (depth : Int)
  | sortBy (depth : Int) (compare : Element → Element → Ordering)
  | repeatChildren (times : Nat)

namespace Call

/-- The node that a call gives, or the error of its refusal. -/
def result (n : Node) : Call → Except ScoreError Node
  | setParameter name value => n.setParameter name value
  | setPosition position => n.setPosition position
  | append child => n.append child
  | extend more => n.extend more
  | insert index child => n.insert index child
  | set index child => Prod.snd <$> n.set index child
  | delete index => Prod.snd <$> n.delete index
  | pop => Prod.snd <$> n.pop
  | remove child => n.remove child
  | reverse depth => n.reverse depth
  | sortBy depth compare => n.sortBy depth compare
  | repeatChildren times => n.repeatChildren times

/-- The elements that a call hands in. -/
def elements : Call → List Element
  | setParameter _ value => value.elements
  | append child | insert _ child | set _ child | remove child => [child]
  | extend more => more
  | setPosition _ | delete _ | pop | reverse _ | sortBy _ _ | repeatChildren _ => []

end Call

namespace Node

/-- **The node after a call**, which a refused call leaves as it was. -/
def after (n : Node) (c : Call) : Node :=
  match c.result n with
  | .ok n => n
  | .error _ => n

/-- The node after several calls. -/
def afterAll (n : Node) (calls : List Call) : Node := calls.foldl after n

end Node

/-- The elements that stand directly in an element: values and children of a node, attachments of a tone. -/
def Element.parts : Element → List Element
  | node n => (n.parameters.filterMap fun entry => match entry.2 with
      | .element e => some e
      | .leaf _ => none) ++ n.children.getD []
  | tone t => t.attachments
  | toggle _ | text _ | comment _ => []

/-- **An element that a caller can get hold of**: from the builders, from rules that declare every name once; from calls
on a node; or taken out of another element. -/
inductive Element.Made : Element → Prop where
  | text (words : String) : Made (.text words)
  | comment (remark : String) : Made (.comment remark)
  | marks (id : Nat) (opening closing : String) : Made (.toggle (.marks id opening closing))
  | hairpin {id : Nat} {opening : String} {closing : Option Node} {t : Toggle}
      (hclosing : ∀ n ∈ closing, Made (.node n)) (h : Toggle.hairpin id opening closing = .ok t) : Made (.toggle t)
  | sound (s : Sound) : Made (.tone (.ofSound s))
  /-- A tone becomes a tremolo or is tied. -/
  | resound {t : Tone} (ht : Made (.tone t)) (s : Sound) : Made (.tone { t with sound := s })
  | attach {t t' : Tone} {e : Element} (ht : Made (.tone t)) (he : Made e) (h : t.attach e = .ok t') : Made (.tone t')
  | node {r : Rule} {args : Arguments} {n : Node} (hr : (r.parameters.map (·.name)).Nodup)
      (hargs : ∀ e ∈ args.elements, Made e) (h : Node.ofArguments r args = .ok n) : Made (.node n)
  | call {n : Node} (hn : Made (.node n)) (c : Call) (hc : ∀ e ∈ c.elements, Made e) : Made (.node (n.after c))
  | part {e p : Element} (he : Made e) (hp : p ∈ e.parts) : Made p

end Partitura
