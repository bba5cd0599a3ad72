import CsdlRoutes.Host.Basic
import CsdlRoutes.Output.Console
import CsdlRoutes.Schema.Extraction

/-!
# Plans of commands

A command is worked out first, whatever the console is like. That yields a plan: a row of deeds and
an ending. Then the plan is carried out, deed by deed. A deed can go wrong, and then the deeds after it
are not done: a message may have a mark in it that cannot be shown, a notice may be about a value that
cannot be quoted, and what is printed may have characters in it that cannot be encoded.

* `Plan` is what a command is about to do.
* `Plan.perform` carries out a plan; `Outcome` is what has come of it.
-/

namespace CsdlRoutes.Command

open Output (Console Message)

/-- The part of the library that gives notices when a model is extracted. -/
def extractionSource : String := "routetree.parser.extractor"

/-- One thing that a command does. -/
inductive Deed where
  /-- Puts text on the standard output. -/
  | print (text : String)
  | tell (m : Message)
  /-- Tells what extraction passed over, where it is told. -/
  | note (notice : Schema.Notice)
  /-- Makes the directory of the settings of the user, where it is not there. -/
  | makeConfigDirectory
  /-- Stores the settings of the user. -/
  | save (s : Settings)
  deriving DecidableEq, Repr

/-- How a command ends. -/
inductive Ending where
  | exit (code : Nat)
  /-- A failure is reported. -/
  | failed (failure : Failure)
  /-- A question was left without an answer. -/
  | aborted
  deriving DecidableEq, Repr

/-- What a command does, and how it ends. -/
structure Plan where
  deeds : List Deed
  ending : Ending
  deriving DecidableEq, Repr

namespace Plan

/-- A plan that succeeds. -/
def done (deeds : List Deed) : Plan := ⟨deeds, .exit ExitCode.success⟩

/-- A plan that fails at once. -/
def fail (failure : Failure) : Plan := ⟨[], .failed failure⟩

/-- A plan with deeds before it. -/
def after (p : Plan) (deeds : List Deed) : Plan := { p with deeds := deeds ++ p.deeds }

/-- The plan that a value leads to, if there is one. -/
def ofResult {α : Type} (result : Except Failure α) (next : α → Plan) : Plan :=
  match result with
  | .ok a => next a
  | .error failure => fail failure

end Plan

/-! ## Carrying out -/

/-- What has come of a command so far. -/
structure Progress where
  host : Host
  /-- What was printed on the standard output. -/
  output : String
  /-- What was told on the standard error, where a character that cannot be encoded shows as its
  escape. -/
  errors : String

/-- What has come of a command. -/
structure Outcome extends Progress where
  exitCode : Nat
  /-- A failure that came up while another one was reported, so that nothing is told of it. -/
  unreported : Option Failure := none

namespace Progress

/-- Nothing is done yet. -/
def start (host : Host) : Progress := ⟨host, "", ""⟩

/-- Text on the standard error. -/
def addError (p : Progress) (text : String) : Progress := { p with errors := p.errors ++ text }

/-- Shows a message. -/
def tell (c : Console) (p : Progress) (m : Message) : Progress × Except Failure Unit :=
  match c.render m with
  | .ok text => (p.addError text, .ok ())
  | .error fault => (p, .error (.accident (.mark fault)))

/-- Prints a text. -/
def print (p : Progress) (text : String) : Progress × Except Failure Unit :=
  if p.host.prints text then ({ p with output := p.output ++ text }, .ok ())
  else (p, .error (.accident (.unprintable text)))

/-- Tells a notice. On a console that does not show it, it is not even put into words. -/
def note (c : Console) (p : Progress) (notice : Schema.Notice) : Progress × Except Failure Unit :=
  if c.isVerbose then
    match notice.words with
    | .ok words => p.tell c (.log extractionSource words)
    | .error failure => (p, .error failure)
  else (p, .ok ())

/-- Does one thing. -/
def perform (c : Console) (p : Progress) : Deed → Progress × Except Failure Unit
  | .print text => p.print text
  | .tell m => p.tell c m
  | .note notice => p.note c notice
  | .makeConfigDirectory =>
    let (host, result) := p.host.configDirectory
    ({ p with host }, result.map fun _ => ())
  | .save s =>
    let (host, result) := p.host.saveSettings s .none
    ({ p with host }, result)

/-- Does one thing after the other, until one goes wrong. -/
def performAll (c : Console) : Progress → List Deed → Progress × Except Failure Unit
  | p, [] => (p, .ok ())
  | p, deed :: rest =>
    match p.perform c deed with
    | (p, .ok ()) => performAll c p rest
    | (p, .error failure) => (p, .error failure)

/-- Ends with a failure that nothing foresaw: it is recorded in a log, and the path of the log is
told. -/
def crash (c : Console) (p : Progress) (failure : Failure) : Outcome :=
  match p.host.recordCrash (failure.message ++ "\n") with
  | (host, .error failure) => ⟨{ p with host }, ExitCode.genericFailure, some failure⟩
  | (host, .ok log) =>
    let report := Message.error ("Unexpected error. Debug log: " ++ log.text)
    match tell c { p with host } report with
    | (p, .ok ()) => ⟨p, ExitCode.genericFailure, none⟩
    | (p, .error failure) => ⟨p, ExitCode.genericFailure, some failure⟩

/-- Ends with a failure. -/
def fail (c : Console) (p : Progress) (failure : Failure) : Outcome :=
  match failure.kind? with
  | none => p.crash c failure
  | some kind =>
    match p.tell c (.error failure.message) with
    | (p, .ok ()) => ⟨p, kind.exitCode, none⟩
    | (p, .error failure) => p.crash c failure

/-- Ends. -/
def finish (c : Console) (p : Progress) : Ending → Outcome
  | .exit code => ⟨p, code, none⟩
  | .failed failure => p.fail c failure
  | .aborted => ⟨p.addError "Aborted.\n", ExitCode.genericFailure, none⟩

end Progress

/-- Carries out a plan. -/
def Plan.perform (c : Console) (host : Host) (plan : Plan) : Outcome :=
  match (Progress.start host).performAll c plan.deeds with
  | (p, .ok ()) => p.finish c plan.ending
  | (p, .error failure) => p.crash c failure

end CsdlRoutes.Command
