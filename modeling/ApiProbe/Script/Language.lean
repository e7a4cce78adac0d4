import ApiProbe.Text.Blank

/-!
The two languages that scripts are written in.
-/
namespace ApiProbe

inductive Language
  | javaScript | groovy
  deriving Repr, DecidableEq, Inhabited

namespace Language

def name : Language → String
  | .javaScript => "javascript"
  | .groovy => "groovy"

def all : List Language := [.javaScript, .groovy]

/-- The language of a name in any case, with blanks around it or not; otherwise the name as it was
understood. -/
def parse (text : String) : Except String Language :=
  match (Text.trim text).toLower with
  | "javascript" | "js" => .ok .javaScript
  | "groovy" => .ok .groovy
  | other => .error other

def unknownMessage (name : String) : String := s!"Unknown script language: {name}"

end Language
end ApiProbe
