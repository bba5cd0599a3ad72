import CsdlRoutes.Json.Reader
import CsdlRoutes.Schema.AliasTable
import CsdlRoutes.Yaml.Document

/-!
# Texts of schema documents

A document is written in JSON or in YAML. Where nothing tells which, JSON is tried first. A document
is an object; it states the version of the format, of which the fourth is supported.

* `Readers` read the two encodings; `Readers.standard` are those of this library.
* `Document.read` reads a text.
* `Document.version` is the version that a document states.
-/

namespace CsdlRoutes.Schema

/-- What is known about the encoding of a text. -/
inductive Hint where
  | json
  | yaml
  | unknown
  deriving DecidableEq, Repr

/-- The readers of the two encodings of documents. -/
structure Readers where
  json : String → Except Json.Fault Value
  yaml : String → Except Yaml.Fault Value

/-- The readers of this library. -/
def Readers.standard : Readers := ⟨Json.read, Yaml.read⟩

namespace Document

/-- A JSON value as a document. -/
def ofJson (v : Value) : Except Failure Document :=
  match v with
  | .object members => .ok members
  | v => .error (.document (.noObject v.kindWord))

/-- A YAML value as a document. -/
def ofYaml (v : Value) : Except Failure Document :=
  match v.bare with
  | .object members => .ok members
  | .scalar .null => .error (.document (.noObject "empty document"))
  | v => .error (.document (.noObject v.kindWord))

/-- Reads a YAML text, after JSON was tried or was not. -/
def readYaml (readers : Readers) (json : Option Json.Fault) (text : String) :
    Except Failure Document :=
  match readers.yaml text with
  | .ok v => ofYaml v
  | .error (.unreadable what) => .error (.accident (.unreadable what))
  | .error .tooDeep => .error (.accident .tooDeep)
  | .error fault => .error (.document (.malformed json fault))

/-- Reads a text. -/
def read (readers : Readers) (hint : Hint) (text : String) : Except Failure Document :=
  if hint = .yaml then readYaml readers none text
  else
    match readers.json text with
    | .ok v => ofJson v
    | .error fault =>
      match fault.cause with
      | .longInteger digits => .error (.accident (.longInteger digits))
      | .tooDeep => .error (.accident .tooDeep)
      | _ =>
        if hint = .json then .error (.document (.malformedJson fault))
        else readYaml readers (some fault) text

/-- Whether a version is supported. -/
def isSupported (version : String) : Bool := "4.".toList.isPrefixOf version.toList

/-- The version that a document states. Descriptions of operations are refused. -/
def version (document : Document) : Except Failure String :=
  if Keyed.has "openapi" document || Keyed.has "swagger" document then
    .error (.document .apiDescription)
  else
    match Keyed.get? "$Version" document with
    | none | some (.scalar .null) => .error (.document .noVersion)
    | some v => do
      let version ← shown v
      if isSupported version then return version
      else throw (.document (.unsupportedVersion version))

end Document

end CsdlRoutes.Schema
