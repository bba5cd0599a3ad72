import CsdlRoutes.Host.Basic
import CsdlRoutes.Host.ContentType
import CsdlRoutes.Host.Url
import CsdlRoutes.Schema.Document
import CsdlRoutes.Schema.Extraction

/-!
# Where schema documents come from

A schema document is read from the standard input, from a server, or from a file. The kind of content
that a server names and the ending of a file tell which encoding is tried. An address that cannot be
that of a document is not asked for.

* `Host.loadDocument` loads a document.
* `Host.readModel` loads the model of a document and notes what is passed over.
* `Host.loadModel` puts these notices into words or does not, and yields the model.
-/

namespace CsdlRoutes.Host

open Schema (Document Hint Model Readers)

/-- Whether a text contains another one. -/
def containsText (part : List Char) : List Char → Bool
  | [] => part.isEmpty
  | c :: rest => part.isPrefixOf (c :: rest) || containsText part rest

/-- The encoding that a kind of content tells. -/
def hintOfContentType (contentType : String) : Hint :=
  let names (part : String) : Bool := containsText part.toList contentType.toList
  if names "json" then .json else if names "yaml" || names "yml" then .yaml else .unknown

/-- The encoding that the ending of a file tells. -/
def hintOfSuffix (suffix : String) : Hint :=
  let ending := Text.lower suffix
  if ending == ".json" then .json
  else if ending == ".yaml" || ending == ".yml" then .yaml
  else .unknown

/-- Reads a document from the standard input. -/
def documentOfInput (readers : Readers) (input : String) : Except Failure Document :=
  if Text.allBlank input then .error (.document .noInput)
  else Document.read readers .unknown input

/-- The text of an answer, in the charset that its kind of content names. -/
def textOfAnswer (contentType : String) (body : ByteArray) : Except Failure String :=
  if body.isEmpty then .ok ""
  else
    match ContentType.charset contentType body.toList with
    | .ok cs => .ok (String.ofList cs)
    | .error fault => .error (.accident (.charset fault))

/-- Reads a document from the answer of a server. -/
def documentOfAnswer (readers : Readers) (url : String) : Answer → Except Failure Document
  | .noResponse reason => .error (.document (.noResponse url reason))
  | .response status contentType body =>
    if 200 ≤ status ∧ status < 300 then
      (textOfAnswer contentType body).bind (Document.read readers (hintOfContentType contentType))
    else .error (.document (.httpStatus status url))

/-- Reads a document from the bytes of a file. -/
def documentOfBytes (readers : Readers) (path : String) (bytes : ByteArray) :
    Except Failure Document :=
  match Text.decode bytes with
  | .error fault => .error (.accident (.encoding fault))
  | .ok raw =>
    let text := String.ofList (Text.unifyNewlines raw.toList)
    if Text.allBlank text then .error (.document (.emptyFile path))
    else Document.read readers (hintOfSuffix (Path.read path).suffix) text

/-- Whether a source is on a server. -/
def isUrl (source : String) : Bool :=
  "http://".toList.isPrefixOf source.toList || "https://".toList.isPrefixOf source.toList

/-- Loads a document. -/
def loadDocument (host : Host) (feed : Feed) (source : String) : Except Failure Document :=
  let readers := host.equipment.readers
  if source == "-" then documentOfInput readers feed.input
  else if isUrl source then
    if Url.isUsable source then documentOfAnswer readers source feed.answer
    else .error (.accident (.unusableUrl source))
  else
    match host.file? (Path.read source) with
    | .error failure => .error failure
    | .ok (some bytes) => documentOfBytes readers source bytes
    | .ok none => .error (.document (.fileNotFound source))

/-- Loads the model of a document: what extraction passes over, and the result. -/
def readModel (host : Host) (feed : Feed) (source : String) :
    List Schema.Notice × Except Failure Model :=
  match host.loadDocument feed source with
  | .error failure => ([], .error failure)
  | .ok document =>
    match document.version with
    | .error failure => ([], .error failure)
    | .ok version => (Schema.notices version document, Schema.extract version document)

/-- Loads the model of a document. What extraction passes over is put into words if that is asked
for. -/
def loadModel (host : Host) (feed : Feed) (source : String) (isVerbose : Bool := false) :
    Except Failure Model := do
  let (notices, model) := host.readModel feed source
  if isVerbose then notices.forM fun notice => discard notice.words
  model

end CsdlRoutes.Host
