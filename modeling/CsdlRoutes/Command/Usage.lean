import CsdlRoutes.Command.Line
import CsdlRoutes.Command.Plan

/-!
# Answers without a command

A command line that runs no command is answered by the version of the program or by how the program
is used. A wrong command line and a missing command are failures.

* `Usage.exitCode`, `Usage.output` and `Usage.errors` make up the answer, `Usage.outcome`.
-/

namespace CsdlRoutes.Command

/-- The version of the program. -/
def versionText : String := "routetree 0.1.0\n"

/-- How the program is used. -/
def usageText : String :=
  String.join <| List.map (· ++ "\n")
    ["Usage: routetree [OPTIONS] COMMAND [ARGS]",
     "",
     "Options: --json --plain --no-color --quiet/-q --verbose/-v --version --help",
     "",
     "Commands:",
     "  routes [SCHEMA] [-d/--max-depth N] [--sorted] [--refs/--no-refs]",
     "  inspect types [SCHEMA]",
     "  inspect segments TYPE [SCHEMA]",
     "  config show",
     "  config set KEY VALUE",
     "  config reset [-f/--force]"]

namespace Usage

/-- The exit code of an answer. -/
def exitCode : Usage → Nat
  | .version | .help => ExitCode.success
  | .noCommand | .wrong => ExitCode.invalidUsage

/-- What an answer puts on the standard output. -/
def output : Usage → String
  | .version => versionText
  | .help | .noCommand => usageText
  | .wrong => ""

/-- What an answer puts on the standard error. -/
def errors : Usage → String
  | .wrong => usageText
  | _ => ""

/-- What has come of a command line that runs no command. -/
def outcome (host : Host) (u : Usage) : Outcome := ⟨⟨host, u.output, u.errors⟩, u.exitCode, none⟩

end Usage

end CsdlRoutes.Command
