import ApiProbe.Text.Blank

/-!
Trees of XML elements. Names may carry a namespace before a colon; namespaces are not resolved, and
a name without one also stands for the same name in any namespace.
-/
namespace ApiProbe.Xml

mutual

inductive Element
  | mk (name : String) (attributes : List (String × String)) (children : List Node)

inductive Node
  | element (element : Element)
  | text (text : String)

end

/-- The part of a name behind its last colon. -/
def localPart (name : List Char) : List Char := (name.reverse.takeWhile (· != ':')).reverse

def localName (name : String) : String := String.ofList (localPart name.toList)

def Node.element? : Node → Option Element
  | .element inner => some inner
  | .text _ => none

namespace Element

def name : Element → String
  | mk name _ _ => name

def attributes : Element → List (String × String)
  | mk _ attributes _ => attributes

def children : Element → List Node
  | mk _ _ children => children

/-- Value of the first attribute of that name, in whatever namespace. -/
def attribute? (element : Element) (name : String) : Option String :=
  (element.attributes.find? fun entry => entry.1 == name || localName entry.1 == name).map Prod.snd

/-- The elements among the children. -/
def elements (element : Element) : List Element := element.children.filterMap Node.element?

/-- Whether a name of a path stands for the element; a star stands for any. -/
def isNamed (element : Element) (name : String) : Bool :=
  name == "*" || element.name == name
    || (!name.toList.contains ':' && localName element.name == name)

end Element

mutual

/-- All text inside, in order. -/
def Element.innerText : Element → String
  | .mk _ _ children => nodesText children

def nodesText : List Node → String
  | [] => ""
  | .text text :: rest => text ++ nodesText rest
  | .element element :: rest => element.innerText ++ nodesText rest

end

mutual

/-- The element and all elements below it, each before those below it. -/
def Element.subtree : Element → List Element
  | .mk name attributes children => .mk name attributes children :: nodesSubtree children

def nodesSubtree : List Node → List Element
  | [] => []
  | .text _ :: rest => nodesSubtree rest
  | .element element :: rest => element.subtree ++ nodesSubtree rest

end

/-- The text inside, without the blanks around it. -/
def Element.text (element : Element) : String := Text.trim element.innerText

end ApiProbe.Xml
