import QueryFilter.Json.Token

/-!
# Json values of texts

A text is a value exactly when its tokens drive a stack machine to completion. The state of the machine names
what must come next; its stack holds the containers that are still open. The number of open containers is
bounded, so a text that nests too deeply is no value. The program takes its decoder as a parameter, which also says
what is wrong with a text; the machine is one such decoder, with words of its own.
-/

namespace QueryFilter
namespace Json

/-- An open container that waits for the value being read. -/
inductive Frame
  | array (reversed : List Json)
  | object (members : Members) (name : String)

/-- What the machine expects next, and the open containers around it. -/
inductive Reading
  /-- A value. -/
  | anyValue (outer : List Frame)
  /-- The first element of an array, or its end. -/
  | firstElement (outer : List Frame)
  /-- A comma and another element, or the end of the array. -/
  | afterElement (reversed : List Json) (outer : List Frame)
  /-- The first name of an object, or its end. -/
  | firstName (outer : List Frame)
  /-- Another name of an object. -/
  | laterName (members : Members) (outer : List Frame)
  /-- The colon behind a name. -/
  | beforeColon (members : Members) (name : String) (outer : List Frame)
  /-- A comma and another member, or the end of the object. -/
  | afterMember (members : Members) (outer : List Frame)
  /-- Nothing more. -/
  | complete (result : Json)

namespace Reading

/-- Hand a finished value to the innermost open container. -/
def deliver (result : Json) : List Frame → Reading
  | [] =>
      .complete result
  | .array reversed :: outer =>
      .afterElement (result :: reversed) outer
  | .object members name :: outer =>
      .afterMember (members.insert name result) outer

/-- Read the first token of a value at most `limit` containers deep. -/
def start? (limit : Nat) (outer : List Frame) : JsonToken → Option Reading
  | .null =>
      some (deliver .null outer)
  | .bool value =>
      some (deliver (.bool value) outer)
  | .number value =>
      some (deliver (.number value) outer)
  | .string text =>
      some (deliver (.string text) outer)
  | .openArray =>
      if outer.length < limit then some (.firstElement outer) else none
  | .openObject =>
      if outer.length < limit then some (.firstName outer) else none
  | _ =>
      none

/-- The state after one token; none when the token is not expected. -/
def step? (limit : Nat) : Reading → JsonToken → Option Reading
  | .anyValue outer, token =>
      start? limit outer token
  | .firstElement outer, .closeArray =>
      some (deliver (.array []) outer)
  | .firstElement outer, token =>
      start? limit (.array [] :: outer) token
  | .afterElement reversed outer, .comma =>
      some (.anyValue (.array reversed :: outer))
  | .afterElement reversed outer, .closeArray =>
      some (deliver (.array reversed.reverse) outer)
  | .firstName outer, .closeObject =>
      some (deliver (.object []) outer)
  | .firstName outer, .string name =>
      some (.beforeColon [] name outer)
  | .laterName members outer, .string name =>
      some (.beforeColon members name outer)
  | .beforeColon members name outer, .colon =>
      some (.anyValue (.object members name :: outer))
  | .afterMember members outer, .comma =>
      some (.laterName members outer)
  | .afterMember members outer, .closeObject =>
      some (deliver (.object members) outer)
  | _, _ =>
      none

/-- The value of a run that has come to its end. -/
def result? : Reading → Option Json
  | .complete result =>
      some result
  | _ =>
      none

end Reading

/-- Containers may be nested this deeply in the texts that the program reads. -/
def nestingLimit : Nat := 127

/-- The value that a list of tokens spells, with at most `limit` nested containers. -/
def ofTokens? (limit : Nat) (tokens : List JsonToken) : Option Json :=
  (tokens.foldlM (Reading.step? limit) (Reading.anyValue [])).bind Reading.result?

/-- The value of a text with at most `limit` nested containers. -/
def ofTextWithin? (limit : Nat) (text : String) : Option Json :=
  (JsonToken.scan? text.toList).bind (ofTokens? limit)

/-- The value of a text. -/
def ofText? (text : String) : Option Json :=
  ofTextWithin? nestingLimit text

/-- A decoder of texts: the value of a text, or what is wrong with it in the words of the decoder. -/
abbrev Decoder : Type :=
  String → Except String Json

/-- The decoder that the machine is. -/
def decode : Decoder := fun text =>
  match ofText? text with
  | some value =>
      .ok value
  | none =>
      .error "the text is no value"

end Json
end QueryFilter
