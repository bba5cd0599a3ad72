import CsdlRoutes.Settings.Global

/-!
# Which setting counts

The greatest number of segments and the schema may be given on the command line, in the environment,
in the settings of a project and in those of the user. The first of these that is set counts, and if
it is wrong nothing else takes its place.

* `projectSettings` reads the settings of a project.
* `resolveDepth` and `resolveSchema` find the setting that counts.
* `depthAboveUser?` and `schemaAboveUser?` look at all sources but the settings of the user.
-/

namespace CsdlRoutes.Settings

/-- The name of the settings file of a project. -/
def projectFileName : String := "routetree.json"

/-- The variable for the greatest number of segments. -/
def depthVariable : String := "ROUTETREE_MAX_DEPTH"

/-- The variable for the schema. -/
def schemaVariable : String := "ROUTETREE_SCHEMA"

/-- Reads the settings file of a project at a path, if it is there. -/
def projectSettings (path : String) (file? : Option ByteArray) :
    Except Failure (Option Members) :=
  match file? with
  | none => .ok none
  | some bytes =>
    match readBytes bytes with
    | .error why => .error (why.failure (.unreadableProject path))
    | .ok (.object members) => .ok (some members)
    | .ok _ => .error (.setting (.projectNoObject path))

/-- A number of segments from a source, which must not be below zero. -/
def checkDepth (depth : Int) (source : String) : Except Failure Nat :=
  match depth with
  | .ofNat n => .ok n
  | n => .error (.setting (.depthBelowZero source n))

/-- A text that is set: neither missing nor empty. -/
def setText? (s : Option String) : Option String := s.filter (!·.isEmpty)

/-- What the sources of settings hold. -/
structure Sources where
  environment : String → Option String
  project : Except Failure (Option Members)
  user : Except Failure Settings

/-- The greatest number of segments that the settings of a project hold, if they hold one. -/
def projectDepth? (project : Option Members) : Except Failure (Option Nat) :=
  match project.bind (Keyed.get? "max_depth") with
  | none | some (.scalar .null) => .ok none
  | some (.scalar (.int n)) => (checkDepth n projectFileName).map some
  | some _ => .error (.setting .projectDepthNotWhole)

/-- The greatest number of segments that is set above the settings of the user, if one is. -/
def depthAboveUser? (s : Sources) (given : Option Int) : Except Failure (Option Nat) :=
  match given with
  | some depth => (checkDepth depth "--max-depth").map some
  | none =>
    match setText? (s.environment depthVariable) with
    | some value =>
      match Number.readWhole? value with
      | some depth => (checkDepth depth depthVariable).map some
      | none => .error (.setting (.variableNotWhole value))
    | none => s.project.bind projectDepth?

/-- The greatest number of segments in the settings of the user. -/
def depthOfUser (s : Settings) : Except Failure Nat := .ok s.maxDepth

/-- The greatest number of segments that counts. -/
def resolveDepth (s : Sources) (given : Option Int) : Except Failure Nat := do
  match ← depthAboveUser? s given with
  | some depth => return depth
  | none => depthOfUser (← s.user)

/-- The schema that the settings of a project name, if they name one. -/
def projectSchema? (project : Option Members) : Option String :=
  ((project.bind (Keyed.get? "default_schema")).filter Value.isTruthy).map Value.display

/-- The schema that is set above the settings of the user, if one is. -/
def schemaAboveUser? (s : Sources) (given : Option String) : Except Failure (Option String) :=
  match setText? given with
  | some schema => .ok (some schema)
  | none =>
    match setText? (s.environment schemaVariable) with
    | some schema => .ok (some schema)
    | none => s.project.map projectSchema?

/-- The schema in the settings of the user. There has to be one. -/
def schemaOfUser (s : Settings) : Except Failure String :=
  match setText? s.defaultSchema with
  | some schema => .ok schema
  | none => .error (.setting .noSchema)

/-- The schema that counts. -/
def resolveSchema (s : Sources) (given : Option String) : Except Failure String := do
  match ← schemaAboveUser? s given with
  | some schema => return schema
  | none => schemaOfUser (← s.user)

end CsdlRoutes.Settings
