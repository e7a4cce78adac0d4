import ApiProbe.Json.Decode

/-!
Places of failures. The text of a document is walked down to the value that could not be decoded; a
list or object of the wrong kind is refused where it begins, a member that is there again behind its
key, everything else where it ends.
-/
namespace ApiProbe.Json.Decode

def skipValue (cursor : Cursor) : Cursor :=
  match readValue (cursor.rest.length + 1) maxDepth cursor with
  | .ok (_, after) => after
  | .error _ => cursor

/-- Where the item at an index starts. The cursor stands behind the opening bracket or a comma. -/
def itemStart : Nat → Cursor → Cursor
  | 0, cursor => cursor.skipSpaces
  | n + 1, cursor => itemStart n (skipValue cursor).skipSpaces.skip

/-- Where the value of a member starts. The cursor stands behind the opening brace or a comma. -/
def memberStart (key : String) : Nat → Cursor → Cursor
  | 0, cursor => cursor
  | fuel + 1, before =>
    let cursor := before.skipSpaces
    match Str.read cursor.skip with
    | .error _ => cursor
    | .ok (name, afterName) =>
      let value := afterName.skipSpaces.skip.skipSpaces
      if name == key then value
      else memberStart key fuel (skipValue value).skipSpaces.skip

/-- Where the value at the end of a trail starts. -/
def trailStart : List Step → Cursor → Cursor
  | [], cursor => cursor.skipSpaces
  | .item index :: rest, cursor => trailStart rest (itemStart index cursor.skipSpaces.skip)
  | .member key :: rest, cursor =>
    trailStart rest (memberStart key (cursor.rest.length + 1) cursor.skipSpaces.skip)

/-- What follows a key that was there before. The cursor stands behind the opening brace or a comma. -/
def repeatedKeyEnd (key : String) : Nat → Bool → Cursor → Cursor
  | 0, _, cursor => cursor
  | fuel + 1, seen, before =>
    let cursor := before.skipSpaces
    match Str.read cursor.skip with
    | .error _ => cursor
    | .ok (name, afterName) =>
      let colon := afterName.skipSpaces
      if name == key && seen then colon
      else
        let value := colon.skip.skipSpaces
        repeatedKeyEnd key fuel (seen || name == key) (skipValue value).skipSpaces.skip

def Failure.isAtStart (failure : Failure) : Bool :=
  match failure.fault with
  | .wrongType (.arr _) _ | .wrongType (.obj _) _ => true
  | _ => false

def Failure.place (failure : Failure) (text : String) : Place :=
  let start := trailStart failure.trail (Cursor.start text)
  match failure.fault with
  | .memberRepeated key => (repeatedKeyEnd key (start.rest.length + 1) false start.skip).place
  | _ => if failure.isAtStart then start.place else (skipValue start).place

/-- Decodes JSON text; every error names a place in it. -/
def fromText {α : Type} (decode : Json → Except Failure α) (text : String) : Except String α :=
  match Json.readWritten text with
  | .error error => .error error.message
  | .ok document =>
    match decode document with
    | .ok value => .ok value
    | .error failure => .error s!"{failure.message} at {(failure.place text).text}"

end ApiProbe.Json.Decode
