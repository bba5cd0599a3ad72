import CsdlRoutes.Text.Quoted

/-!
# Why a YAML text is refused

A text is malformed when it breaks the grammar, or when a node cannot be what its tag or its place
asks for. Apart from that, a well-formed node may denote a value that does not exist, such as the
thirtieth of February: `Fault.unreadable` keeps those apart. `Fault.tooDeep` concerns a text that may
follow the grammar but goes deeper than is read.
-/

namespace CsdlRoutes.Yaml

/-- What a node was taken for when it could not be read. -/
inductive Unreadable where
  /-- An escape with a number beyond the last character. -/
  | character (code : Nat)
  /-- A text that is no number, or a number of too many digits. -/
  | number (text : String)
  /-- No text where a number was expected. -/
  | emptyNumber
  /-- A number of base sixty with more places than a floating-point number can hold. -/
  | beyondFloat (text : String)
  /-- A day or a time that does not exist. -/
  | moment (text : String)
  /-- A text that has not the form of a date. -/
  | dateForm (text : String)
  /-- An object where the text of a date was expected. -/
  | objectAsDate
  /-- A text that is no truth value. -/
  | truthValue (text : String)
  /-- An object that stands for the text of a member of its own. -/
  | selfReference
  deriving DecidableEq, Repr

/-- Why a text is refused. -/
inductive Fault where
  | unprintable (c : Char)
  | stray (c : Char)
  | keyWithoutColon
  | entryNotAllowed
  | keyNotAllowed
  | valueNotAllowed
  | directive
  | anchorName
  | tagForm
  | blockHeader
  | escape
  | unclosedQuote
  | separatorInQuote
  | unexpectedToken
  | undefinedTagHandle (handle : String)
  | undefinedAlias (name : String)
  | repeatedAnchor (name : String)
  | severalDocuments
  | unknownTag (tag : String)
  | wrongKind (tag : String)
  | base64
  | collectionAsKey
  | merge
  | unreadable (what : Unreadable)
  /-- Collections stand in too many others. -/
  | tooDeep
  deriving DecidableEq, Repr

/-- The wording of a value that could not be read. -/
def Unreadable.message : Unreadable → String
  | .character code => s!"{code} exceeds the number of the last character"
  | .number text => s!"{Text.quoted text} is no number"
  | .emptyNumber => "a number is empty"
  | .beyondFloat text => s!"{Text.quoted text} is too great"
  | .moment text => s!"{Text.quoted text} does not exist"
  | .dateForm text => s!"{Text.quoted text} is no date"
  | .objectAsDate => "an object is no date"
  | .truthValue text => s!"{Text.quoted text} is no truth value"
  | .selfReference => "an object stands for itself"

/-- The wording of a fault. -/
def Fault.message : Fault → String
  | .unprintable c => s!"character {Text.quoted c.toString} is not allowed"
  | .stray c => s!"character {Text.quoted c.toString} cannot start a token"
  | .keyWithoutColon => "a key has no ':'"
  | .entryNotAllowed => "a list entry is not allowed here"
  | .keyNotAllowed => "a key is not allowed here"
  | .valueNotAllowed => "a value is not allowed here"
  | .directive => "a directive is malformed"
  | .anchorName => "the name of an anchor is malformed"
  | .tagForm => "a tag is malformed"
  | .blockHeader => "the first line of a block text is malformed"
  | .escape => "an escape is malformed"
  | .unclosedQuote => "a quoted text is not closed"
  | .separatorInQuote => "a quoted text runs over a document mark"
  | .unexpectedToken => "the text does not go on as expected"
  | .undefinedTagHandle handle => s!"tag handle {Text.quoted handle} is not defined"
  | .undefinedAlias name => s!"alias {Text.quoted name} is not defined"
  | .repeatedAnchor name => s!"anchor {Text.quoted name} is set twice"
  | .severalDocuments => "there is more than one document"
  | .unknownTag tag => s!"tag {Text.quoted tag} is unknown"
  | .wrongKind tag => s!"a node does not fit its tag {Text.quoted tag}"
  | .base64 => "bytes are not written in base64"
  | .collectionAsKey => "a collection is used as a key"
  | .merge => "only objects can be merged"
  | .unreadable what => what.message
  | .tooDeep => "collections stand in too many others"

end CsdlRoutes.Yaml
