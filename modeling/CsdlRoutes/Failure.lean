import CsdlRoutes.ErrorKind
import CsdlRoutes.Json.Reader
import CsdlRoutes.Output.Format
import CsdlRoutes.Output.Marks
import CsdlRoutes.Record
import CsdlRoutes.Text.Charset.Piece
import CsdlRoutes.Text.Utf8
import CsdlRoutes.Yaml.Fault

/-!
# Failures

A failure says what went wrong. The expected ones concern an argument, a schema model, a schema
document or a setting; each has a kind and a message. An accident is what nothing foresaw, most often
a value of another shape: it has no kind of its own, and whoever runs a command reports it as
unexpected.

* `Failure.kind?` is the kind of a failure, if it is an expected one.
* `Failure.message` is the text that is reported.
-/

namespace CsdlRoutes

/-- A wrong argument. -/
inductive ArgumentFailure where
  | noModel
  | noType
  | noNode
  | depthNoCount (given : Value)
  | noContainer (name : String)
  | depthNotWhole (given : String)
  | depthBelowZero (given : Int)
  | unknownFormat (given : String)
  deriving DecidableEq, Repr

/-- A contradiction in a schema model. -/
inductive SchemaFailure where
  | unknownType (name space : String)
  | containerNotFound (name : String)
  deriving DecidableEq, Repr

/-- Why a schema document is not loaded or not read. -/
inductive DocumentFailure where
  | unqualifiedName (name : String)
  | unknownNamespace (name stem : String)
  | noContainer
  | undeclaredContainer (name : String)
  | navigationWithoutType (owner name : String)
  | memberWithoutType (owner name : String)
  | undeclaredBase (base name : String)
  | undeclaredType (type property : String)
  | apiDescription
  | noVersion
  | unsupportedVersion (version : String)
  | noInput
  | httpStatus (code : Int) (url : String)
  | noResponse (url reason : String)
  | fileNotFound (path : String)
  | emptyFile (path : String)
  | noObject (kind : String)
  | malformedJson (fault : Json.Fault)
  | malformed (json : Option Json.Fault) (yaml : Yaml.Fault)
  deriving DecidableEq, Repr

/-- Why a settings file is not read. -/
inductive FileDefect where
  | encoding (fault : Text.Utf8Fault)
  | json (fault : Json.Fault)
  | record (problems : List Problem)
  deriving DecidableEq, Repr

/-- A wrong setting. -/
inductive SettingFailure where
  | unreadableGlobal (path : String) (why : FileDefect)
  | unreadableProject (path : String) (why : FileDefect)
  | projectNoObject (path : String)
  | variableNotWhole (given : String)
  | projectDepthNotWhole
  | depthBelowZero (source : String) (depth : Int)
  | noSchema
  deriving DecidableEq, Repr

/-- Why a path does not lead to a file or a directory, or one is not made there. -/
inductive StorageFault where
  /-- Nothing is there. -/
  | missing
  /-- Something else stands where a directory is needed. -/
  | noDirectory
  /-- A directory stands where a file is needed. -/
  | isDirectory
  /-- Something stands already where a directory or a new file is made. -/
  | occupied
  /-- A path, or a name in it, is too long. -/
  | tooLong
  /-- A path has a character in it that no path may have. -/
  | unusableCharacter
  /-- A directory is in use and not replaced. -/
  | inUse
  /-- The data is not stored. -/
  | notStored
  deriving DecidableEq, Repr

/-- What nothing foresaw: most often a value of another shape. -/
inductive Accident where
  /-- Something else stands where a text or an object is needed. -/
  | wrongShape (v : Value)
  /-- Bytes stand where a text is needed. -/
  | bytesForText (bs : List UInt8)
  /-- A collection stands where a key is needed. -/
  | unusableKey (v : Value)
  /-- Something stands where a list is needed that cannot be gone through. -/
  | notIterable (v : Value)
  /-- A node of a document denotes no value. -/
  | unreadable (what : Yaml.Unreadable)
  /-- A number of a document has too many digits. -/
  | longInteger (digits : Nat)
  /-- Collections of a document stand in too many others. -/
  | tooDeep
  /-- A number that has to be shown has too many digits. -/
  | unshowable
  /-- A document is not encoded as it should be. -/
  | encoding (fault : Text.Utf8Fault)
  /-- A record has fields that it cannot have. -/
  | record (problems : List Problem)
  /-- A file or a directory could not be read or written. -/
  | storage (fault : StorageFault)
  /-- No home directory is known. -/
  | noHome
  /-- The address of a document is not asked for. -/
  | unusableUrl (url : String)
  /-- An answer is not read in its charset. -/
  | charset (fault : Text.CharsetFault)
  /-- A message or a listing cannot be shown because of a mark in it. -/
  | mark (fault : Output.MarkFault)
  /-- A text has a character in it that cannot be encoded where it is printed. -/
  | unprintable (text : String)
  deriving DecidableEq, Repr

/-- What went wrong. -/
inductive Failure where
  | argument (a : ArgumentFailure)
  | schema (s : SchemaFailure)
  | document (d : DocumentFailure)
  | setting (s : SettingFailure)
  | accident (a : Accident)
  deriving DecidableEq, Repr

/-- What went wrong when a settings file is not read: a wrong setting, unless its collections stand in
too many others. -/
def FileDefect.failure (setting : FileDefect → SettingFailure) : FileDefect → Failure
  | .json ⟨.tooDeep, _⟩ => .accident .tooDeep
  | why => .setting (setting why)

/-! ## Kinds -/

/-- The kind of a failure, if it is an expected one. -/
def Failure.kind? : Failure → Option ErrorKind
  | .argument _ => some .invalidArgument
  | .schema _ => some .schema
  | .document _ => some .schemaParse
  | .setting _ => some .config
  | .accident _ => none

/-- The problems of the record that a failure is about. -/
def Failure.problems? : Failure → Option (List Problem)
  | .setting (.unreadableGlobal _ (.record problems)) => some problems
  | .setting (.unreadableProject _ (.record problems)) => some problems
  | .accident (.record problems) => some problems
  | _ => none

/-! ## Messages -/

/-- The message of a wrong argument. -/
def ArgumentFailure.message : ArgumentFailure → String
  | .noModel => "model must not be None"
  | .noType => "schema_type must not be None"
  | .noNode => "node must not be None"
  | .depthNoCount given => s!"max_depth must be a non-negative integer, got {given.quoted}"
  | .noContainer name => s!"Entity container '{name}' not found in schema"
  | .depthNotWhole given => s!"traversal.max_depth must be an integer, got {Text.quoted given}"
  | .depthBelowZero given => s!"traversal.max_depth must be >= 0, got {given}"
  | .unknownFormat given =>
    let names := ", ".intercalate Output.Format.names
    s!"output.format must be one of {names}, got {Text.quoted given}"

/-- The message of a contradiction in a model. -/
def SchemaFailure.message : SchemaFailure → String
  | .unknownType name space => s!"Unknown type '{name}' in schema '{space}'"
  | .containerNotFound name => s!"Entity container '{name}' not found in schema"

/-- The message of a document that is not loaded or not read. -/
def DocumentFailure.message : DocumentFailure → String
  | .unqualifiedName name => s!"Type name '{name}' is not namespace-qualified"
  | .unknownNamespace name stem =>
    s!"Cannot resolve type '{name}': unknown namespace or alias '{stem}'"
  | .noContainer => "Missing '$EntityContainer' in CSDL document"
  | .undeclaredContainer name => s!"Entity container '{name}' is not declared in the document"
  | .navigationWithoutType owner name => s!"Navigation property '{owner}/{name}' has no $Type"
  | .memberWithoutType owner name => s!"Container member '{owner}/{name}' has no $Type"
  | .undeclaredBase base name => s!"Base type '{base}' of '{name}' is not declared"
  | .undeclaredType type property => s!"Type '{type}' of property '{property}' is not declared"
  | .apiDescription =>
    "This looks like an OpenAPI/Swagger document. " ++
      "routetree expects an OData CSDL JSON document ($metadata?$format=json)."
  | .noVersion => "Missing '$Version' field. Is this an OData CSDL JSON document?"
  | .unsupportedVersion version =>
    s!"Unsupported CSDL version: {version}. Only CSDL 4.0 and 4.01 are supported."
  | .noInput => "No input received from stdin"
  | .httpStatus code url => s!"HTTP {code} fetching schema from {url}"
  | .noResponse url reason => s!"Failed to fetch schema from {url}: {reason}"
  | .fileNotFound path => s!"Schema file not found: {path}"
  | .emptyFile path => s!"Schema file is empty: {path}"
  | .noObject kind => s!"Schema must be a JSON/YAML object (got {kind})"
  | .malformedJson fault => s!"Invalid JSON: {fault.message}"
  | .malformed json yaml =>
    "Failed to parse schema as JSON or YAML" ++
      (json.elim "" fun fault => s!"\n  JSON error: {fault.message}") ++
      s!"\n  YAML error: {yaml.message}"

/-- The wording of what is wrong with a settings file. -/
def FileDefect.message : FileDefect → String
  | .encoding fault => fault.message
  | .json fault => fault.message
  | .record problems => "; ".intercalate (problems.map Problem.message)

/-- The message of a wrong setting. -/
def SettingFailure.message : SettingFailure → String
  | .unreadableGlobal path why => s!"Invalid global config at {path}: {why.message}"
  | .unreadableProject path why => s!"Invalid project config at {path}: {why.message}"
  | .projectNoObject path => s!"Project config at {path} must be a JSON object"
  | .variableNotWhole given =>
    s!"ROUTETREE_MAX_DEPTH must be an integer, got {Text.quoted given}"
  | .projectDepthNotWhole => "max_depth in routetree.json must be an integer"
  | .depthBelowZero source depth => s!"Maximum depth from {source} must be >= 0, got {depth}"
  | .noSchema =>
    "No schema given. Pass a path or URL, set ROUTETREE_SCHEMA, " ++
      "or run: routetree config set default_schema <path>"

/-- The wording of what is wrong with a mark. -/
def markMessage : Output.MarkFault → String
  | .closesNothing => "mark that closes nothing"
  | .unreadableAction => "action whose parameters are no literal"
  | .componentNoNumber => "component of a colour that is no number"

/-- The wording of a fault of storage. -/
def StorageFault.message : StorageFault → String
  | .missing => "no such file or directory"
  | .noDirectory => "not a directory"
  | .isDirectory => "is a directory"
  | .occupied => "exists already"
  | .tooLong => "path is too long"
  | .unusableCharacter => "character that no path may have"
  | .inUse => "directory is in use"
  | .notStored => "data could not be stored"

/-- The wording of what is wrong with a charset. -/
def charsetMessage : Text.CharsetFault → String
  | .noByteOrder => "nothing tells the order of bytes"
  | .nothingWritten => "charset in which nothing is written"
  | .bytesForBytes => "charset that turns bytes into bytes"
  | .textForText => "charset that turns texts into texts"

/-- The wording of an accident. -/
def Accident.message : Accident → String
  | .wrongShape v => s!"unexpected value of kind {v.kindWord}"
  | .bytesForText bs => s!"bytes where a text is needed: {Text.quotedBytes bs}"
  | .unusableKey v => s!"value of kind {v.kindWord} cannot be a key"
  | .notIterable v => s!"value of kind {v.kindWord} is no list"
  | .unreadable what => what.message
  | .longInteger digits => s!"integer of {digits} digits"
  | .tooDeep => "collections stand in too many others"
  | .unshowable => "integer of too many digits"
  | .encoding fault => fault.message
  | .record problems => "; ".intercalate (problems.map Problem.message)
  | .storage fault => fault.message
  | .noHome => "home directory is not known"
  | .unusableUrl url => s!"unusable address: {url}"
  | .charset fault => charsetMessage fault
  | .mark fault => markMessage fault
  | .unprintable text => s!"text that cannot be encoded: {Text.quoted text}"

/-- The text that is reported. -/
def Failure.message : Failure → String
  | .argument a => a.message
  | .schema s => s.message
  | .document d => d.message
  | .setting s => s.message
  | .accident a => a.message

end CsdlRoutes
