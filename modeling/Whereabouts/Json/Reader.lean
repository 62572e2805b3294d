import Whereabouts.Json.Token
/-!
# Reading JSON

The tokens of a document are read one by one. The containers that are open lie on a stack, the
innermost first, each with what it holds so far, the last first; so documents may be nested to any
depth.
-/
namespace Whereabouts.Json

/-- An open container that waits for a value. -/
inductive Frame where
  | items (before : List Json)
  | member (before : List (Option String × Json)) (name : Option String)

inductive State where
  /-- A value has to come. -/
  | value (stack : List Frame)
  /-- An array was opened. -/
  | firstItem (stack : List Frame)
  /-- A member has to come; right after the opening the object may also end. -/
  | name (stack : List Frame) (before : List (Option String × Json)) (mayEnd : Bool)
  /-- A name was read. -/
  | colon (stack : List Frame) (before : List (Option String × Json)) (name : Option String)
  /-- A value is complete. -/
  | after (stack : List Frame) (value : Json)

/-- A token where a value has to come. -/
def beginValue? (stack : List Frame) : Token → Option State
  | .atom value => some (.after stack value)
  | .openArray => some (.firstItem stack)
  | .openObject => some (.name stack [] true)
  | _ => none

def readToken? (state : State) (token : Token) : Option State :=
  match state with
  | .value stack => beginValue? stack token
  | .firstItem stack =>
    match token with
    | .closeArray => some (.after stack (.array []))
    | _ => beginValue? (.items [] :: stack) token
  | .name stack before mayEnd =>
    match token with
    | .atom (.string name) => some (.colon stack before name)
    | .closeObject => if mayEnd then some (.after stack (.object before.reverse)) else none
    | _ => none
  | .colon stack before name =>
    match token with
    | .colon => some (.value (.member before name :: stack))
    | _ => none
  | .after stack value =>
    match stack, token with
    | .items before :: stack, .comma => some (.value (.items (value :: before) :: stack))
    | .items before :: stack, .closeArray => some (.after stack (.array (value :: before).reverse))
    | .member before name :: stack, .comma => some (.name stack ((name, value) :: before) false)
    | .member before name :: stack, .closeObject =>
      some (.after stack (.object ((name, value) :: before).reverse))
    | _, _ => none

def readTokens? (state : State) : (tokens : List Token) → Option State
  | [] => some state
  | token :: tokens => (readToken? state token).bind fun state => readTokens? state tokens

/-- A document is one value. -/
def ofTokens? (tokens : List Token) : Option Json :=
  match readTokens? (.value []) tokens with
  | some (.after [] value) => some value
  | _ => none

def ofText? (text : List Char) : Option Json := (tokens? text).bind ofTokens?

end Whereabouts.Json
