import CsdlRoutes.Number.Whole

/-!
# The command line

A command line has general options, the name of a command, and the options and arguments of that
command. Options of one letter may share a hyphen; the value of an option follows it, or is attached
to it. Two hyphens alone end the options. The last of a repeated option counts.

* `parseOptions` tells options from arguments.
* `readCommandLine` reads a command line.
-/

namespace CsdlRoutes.Command

/-! ## Options -/

/-- What an option stands for: a choice, or a choice that takes a value. -/
inductive OptionUse (σ : Type) where
  | flag (choice : σ)
  | value (choice : String → σ)

/-- The options of a command, under all their spellings. -/
abbrev OptionTable (σ : Type) := List (String × OptionUse σ)

/-- Choices, and a last one that waits for its value in the next word. -/
abbrev Choices (σ : Type) := List σ × Option (String → σ)

variable {σ : Type}

/-- The option of one letter. -/
def OptionTable.short? (table : OptionTable σ) (c : Char) : Option (OptionUse σ) :=
  table.lookup (String.ofList ['-', c])

/-- The option of more than one letter. -/
def OptionTable.long? (table : OptionTable σ) (name : String) : Option (OptionUse σ) :=
  if name.length ≤ 2 then none else table.lookup name

/-- Reads the letters behind one hyphen. What follows a letter that takes a value is the value. -/
def readLetters (table : OptionTable σ) : List Char → Option (Choices σ)
  | [] => some ([], none)
  | c :: rest =>
    match table.short? c with
    | none => none
    | some (.flag choice) =>
      (readLetters table rest).map fun (choices, waiting) => (choice :: choices, waiting)
    | some (.value choice) =>
      if rest.isEmpty then some ([], some choice) else some ([choice (String.ofList rest)], none)

/-- Splits a word at its first equals sign. -/
def splitEquals (cs : List Char) : List Char × Option (List Char) :=
  match cs.dropWhile (· != '=') with
  | [] => (cs, none)
  | _ :: value => (cs.takeWhile (· != '='), some value)

/-- Reads a word that starts with a hyphen. -/
def readOption (table : OptionTable σ) (cs : List Char) : Option (Choices σ) :=
  let (name, value?) := splitEquals cs
  match table.long? (String.ofList name), value? with
  | some (.flag choice), none => some ([choice], none)
  | some (.flag _), some _ => none
  | some (.value choice), some value => some ([choice (String.ofList value)], none)
  | some (.value choice), none => some ([], some choice)
  | none, _ =>
    match cs with
    | '-' :: '-' :: _ => none
    | _ => readLetters table (cs.drop 1)

/-- Whether a word is an option, or several. A hyphen alone is an argument. -/
def isOption (cs : List Char) : Bool := cs.head? == some '-' && decide (cs.length > 1)

/-- Tells options from arguments, given the choice that waits for its value. -/
def parseWords (table : OptionTable σ) (mixed : Bool) :
    Option (String → σ) → List String → Option (List σ × List String)
  | some _, [] => none
  | some waiting, value :: rest =>
    (parseWords table mixed none rest).map fun (choices, args) => (waiting value :: choices, args)
  | none, [] => some ([], [])
  | none, word :: rest =>
    if word == "--" then some ([], rest)
    else if isOption word.toList then
      (readOption table word.toList).bind fun (choices, waiting) =>
        (parseWords table mixed waiting rest).map fun (more, args) => (choices ++ more, args)
    else if mixed then
      (parseWords table mixed none rest).map fun (choices, args) => (choices, word :: args)
    else some ([], word :: rest)

/-- Tells options from arguments. Unless they may be mixed, everything from the first argument on is
an argument. -/
def parseOptions (table : OptionTable σ) (mixed : Bool) (words : List String) :
    Option (List σ × List String) := parseWords table mixed none words

/-! ## Commands -/

/-- The general options. -/
structure Globals where
  json : Bool := false
  plain : Bool := false
  noColor : Bool := false
  quiet : Bool := false
  verbose : Bool := false
  deriving DecidableEq, Repr

/-- A command with its options and arguments. -/
inductive Request where
  | routes (schema : Option String) (depth : Option Nat) (sorted references : Bool)
  | types (schema : Option String)
  | segments (typeName : String) (schema : Option String)
  | showSettings
  | set (key value : String)
  | reset (force : Bool)
  deriving DecidableEq, Repr

/-- Why no command is run. -/
inductive Usage where
  /-- The version was asked for. -/
  | version
  /-- Help was asked for. -/
  | help
  /-- A group of commands was named without a command. -/
  | noCommand
  /-- The command line is wrong. -/
  | wrong
  deriving DecidableEq, Repr

/-- A general option. -/
inductive GlobalChoice where
  | help
  | version
  | json
  | plain
  | noColor
  | quiet
  | verbose
  deriving DecidableEq, Repr

/-- The general options. -/
def globalOptions : OptionTable GlobalChoice :=
  [("--version", .flag .version), ("--json", .flag .json), ("--plain", .flag .plain),
   ("--no-color", .flag .noColor), ("--quiet", .flag .quiet), ("-q", .flag .quiet),
   ("--verbose", .flag .verbose), ("-v", .flag .verbose), ("--help", .flag .help)]

/-- The first of the options that end the program at once, if there is one. -/
def GlobalChoice.usage? (choices : List GlobalChoice) : Option Usage :=
  choices.findSome? fun choice =>
    match choice with
    | .help => some .help
    | .version => some .version
    | _ => none

/-- The general options that were chosen. -/
def Globals.ofChoices (choices : List GlobalChoice) : Globals :=
  ⟨choices.contains .json, choices.contains .plain, choices.contains .noColor,
   choices.contains .quiet, choices.contains .verbose⟩

/-- An option of the command that lists routes. -/
inductive RoutesChoice where
  | help
  | depth (text : String)
  | sorted
  | references (included : Bool)
  deriving DecidableEq, Repr

/-- The options of the command that lists routes. -/
def routesOptions : OptionTable RoutesChoice :=
  [("--max-depth", .value .depth), ("-d", .value .depth), ("--sorted", .flag .sorted),
   ("--refs", .flag (.references true)), ("--no-refs", .flag (.references false)),
   ("--help", .flag .help)]

/-- An option of a command that has none but help, and perhaps one more. -/
inductive PlainChoice where
  | help
  | force
  deriving DecidableEq, Repr

/-- The options of a command that has only help. -/
def helpOption : OptionTable PlainChoice := [("--help", .flag .help)]

/-- The options of the command that resets settings. -/
def resetOptions : OptionTable PlainChoice :=
  [("--force", .flag .force), ("-f", .flag .force), ("--help", .flag .help)]

/-- A count from its text, or nothing if it is none. -/
def readCount? (text : String) : Option Nat :=
  match Number.readSetting text with
  | .whole (.ofNat n) => some n
  | _ => none

/-- The last text for the greatest number of segments. -/
def lastDepth? (choices : List RoutesChoice) : Option String :=
  choices.reverse.findSome? fun choice =>
    match choice with
    | .depth text => some text
    | _ => none

/-- Whether references are listed: as the last choice says, and without one they are. -/
def lastReferences (choices : List RoutesChoice) : Bool :=
  (choices.reverse.findSome? fun choice =>
    match choice with
    | .references included => some included
    | _ => none).getD true

/-- Reads the words behind the name of the command that lists routes. -/
def readRoutes (words : List String) : Except Usage Request :=
  match parseOptions routesOptions true words with
  | none => .error .wrong
  | some (choices, args) =>
    if choices.contains .help then .error .help
    else
      let schema? : Option (Option String) :=
        match args with
        | [] => some none
        | [schema] => some (some schema)
        | _ => none
      let depth? : Option (Option Nat) :=
        match lastDepth? choices with
        | none => some none
        | some text => (readCount? text).map some
      match schema?, depth? with
      | some schema, some depth =>
        .ok (.routes schema depth (choices.contains .sorted) (lastReferences choices))
      | _, _ => .error .wrong

/-- Reads the words of a command without options of its own, given what its arguments make. -/
def readArguments (make : List String → Option Request) (words : List String) :
    Except Usage Request :=
  match parseOptions helpOption true words with
  | none => .error .wrong
  | some (choices, args) =>
    if choices.contains .help then .error .help
    else
      match make args with
      | some command => .ok command
      | none => .error .wrong

/-- Reads the words behind the name of the command that resets settings. -/
def readReset (words : List String) : Except Usage Request :=
  match parseOptions resetOptions true words with
  | none => .error .wrong
  | some (choices, args) =>
    if choices.contains .help then .error .help
    else if args.isEmpty then .ok (.reset (choices.contains .force))
    else .error .wrong

/-- The reader of the words behind the name of a command. -/
abbrev Readers := List (String × (List String → Except Usage Request))

/-- What a word that names no command leads to: if it is an option, options are read once more. -/
def usageOfUnknown (usage? : List String → Option Usage) (words : List String) : Usage :=
  (usage? words).getD .wrong

/-- Whether help is asked for before the name of a command in a group. -/
def helpUsage? (words : List String) : Option Usage :=
  match parseOptions helpOption false words with
  | some (choices, _) => if choices.contains .help then some .help else none
  | none => none

/-- Reads the words behind the name of a group of commands. -/
def readGroup (readers : Readers) (words : List String) : Except Usage Request :=
  if words.isEmpty then .error .noCommand
  else
    match parseOptions helpOption false words with
    | none => .error .wrong
    | some (choices, args) =>
      if choices.contains .help then .error .help
      else
        match args with
        | [] => .error .wrong
        | name :: rest =>
          match readers.lookup name with
          | some read => read rest
          | none => .error (usageOfUnknown helpUsage? args)

/-- The commands that look into a schema. -/
def inspectReaders : Readers :=
  [("types", readArguments fun
      | [] => some (.types none)
      | [schema] => some (.types (some schema))
      | _ => none),
   ("segments", readArguments fun
      | [typeName] => some (.segments typeName none)
      | [typeName, schema] => some (.segments typeName (some schema))
      | _ => none)]

/-- The commands for settings. -/
def configReaders : Readers :=
  [("show", readArguments fun
      | [] => some .showSettings
      | _ => none),
   ("set", readArguments fun
      | [key, value] => some (.set key value)
      | _ => none),
   ("reset", readReset)]

/-- The commands and groups of commands. -/
def rootReaders : Readers :=
  [("routes", readRoutes), ("inspect", readGroup inspectReaders),
   ("config", readGroup configReaders)]

/-- What general options that end the program at once lead to. -/
def globalUsage? (words : List String) : Option Usage :=
  match parseOptions globalOptions false words with
  | some (choices, _) => GlobalChoice.usage? choices
  | none => none

/-- A command line that names a command: the general options, and what the words behind them ask
for. What is wrong with those words is told only after the general options are heeded. -/
structure Invocation where
  globals : Globals
  request : Except Usage Request

/-- Reads a command line, without the name of the program. -/
def readCommandLine (words : List String) : Except Usage Invocation :=
  if words.isEmpty then .error .noCommand
  else
    match parseOptions globalOptions false words with
    | none => .error .wrong
    | some (choices, args) =>
      match GlobalChoice.usage? choices with
      | some usage => .error usage
      | none =>
        match args with
        | [] => .error .wrong
        | name :: rest =>
          match rootReaders.lookup name with
          | some read => .ok ⟨Globals.ofChoices choices, read rest⟩
          | none => .error (usageOfUnknown globalUsage? args)

end CsdlRoutes.Command
