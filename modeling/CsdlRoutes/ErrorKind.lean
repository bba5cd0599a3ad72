/-!
# Kinds of errors

Every error of the program is of a kind, and every kind but the most general one is a kind of
another. The kind decides the exit code.

* `ErrorKind.ancestors` lists the kinds that a kind is one of.
* `ErrorKind.exitCode` is the code with which the program ends.
-/

namespace CsdlRoutes

/-- A kind of error. -/
inductive ErrorKind where
  | general
  /-- An argument is missing or wrong. -/
  | invalidArgument
  /-- A schema contradicts itself. -/
  | schema
  /-- A schema document cannot be loaded or read. -/
  | schemaParse
  /-- A setting is wrong or cannot be read. -/
  | config
  deriving DecidableEq, Repr

namespace ExitCode

/-- The command did its work. -/
def success : Nat := 0

/-- An error of no particular class. -/
def genericFailure : Nat := 1

/-- The program was called in a wrong way. -/
def invalidUsage : Nat := 2

/-- A schema could not be loaded, read or resolved. -/
def schemaError : Nat := 7

end ExitCode

namespace ErrorKind

/-- The kinds that a kind is one of, the nearest first. -/
def ancestors : ErrorKind → List ErrorKind
  | .general => []
  | .invalidArgument => [.general]
  | .schema => [.general]
  | .schemaParse => [.schema, .general]
  | .config => [.general]

/-- The exit code of a kind. -/
def exitCode : ErrorKind → Nat
  | .general => ExitCode.genericFailure
  | .invalidArgument => ExitCode.invalidUsage
  | .schema => ExitCode.schemaError
  | .schemaParse => ExitCode.schemaError
  | .config => ExitCode.genericFailure

end ErrorKind

/-- An error as it is reported: its kind, what it says, and an exit code of its own if it has one. -/
structure Report where
  kind : ErrorKind
  message : String
  ownExitCode : Option Int
  deriving DecidableEq, Repr

/-- The exit code of a report. -/
def Report.exitCode (r : Report) : Int := r.ownExitCode.getD r.kind.exitCode

end CsdlRoutes
