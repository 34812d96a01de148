import DevstackConf.Scalar
import DevstackConf.Yaml.Decode

/-!
# Job parameters

The parameters describing one configuration file, read from YAML (or JSON, which is YAML too).
Every field may be missing. A mapping keeps the order of its keys; a repeated key keeps its
first place and its last value. The top-level mapping admits only the known field names and
each at most once; a project record ignores keys it does not know.

A scalar value is read as untyped YAML and then taken as a boolean, an integer (signed when it
fits in 63 bits, unsigned above), a double, a string or null. A sequence or mapping where a
scalar is expected is refused.
-/

namespace DevstackConf

/-- A project checked out for the job. -/
structure ProjectInfo where
  /-- Whether the job requires the project from its repository. -/
  required : Bool := false
  /-- The short name of the project. -/
  shortName : Option String := none
  deriving Inhabited

/-- The configuration sections after the shell variables: phase, then file, then section, then
key, each in order. -/
abbrev MetaSections := Dict (Dict (Dict (Dict Scalar)))

/-- Everything that describes one configuration file. -/
structure Params where
  /-- Shell variables. -/
  localrc : Option (Dict Scalar) := none
  /-- Sections for configuration files. -/
  localConf : Option MetaSections := none
  /-- Services enabled unless the `base` service is switched off. -/
  baseServices : Option (List String) := none
  /-- Service switches. -/
  services : Option (Dict Scalar) := none
  /-- Plugin sources by plugin name. -/
  plugins : Option (Dict Scalar) := none
  /-- The directory of plugin checkouts. -/
  baseDir : Option String := none
  /-- Where the configuration file is written. -/
  path : Option String := none
  /-- Projects by name. -/
  projects : Option (Dict ProjectInfo) := none
  /-- The project under test. -/
  project : Option ProjectInfo := none
  /-- Test plugin checkouts, relative to the directory of checkouts. -/
  tempestPlugins : Option (List String) := none
  deriving Inhabited

namespace Params

/-- The field names, in order. -/
def fieldNames : List String :=
  ["localrc", "local_conf", "base_services", "services", "plugins", "base_dir", "path",
    "projects", "project", "tempest_plugins"]

/-- Replaces the directory of checkouts when one is given. -/
def withBaseDir (p : Params) (dir : Option String) : Params :=
  if dir.isSome then { p with baseDir := dir } else p

/-- Replaces the output path when one is given. -/
def withPath (p : Params) (path : Option String) : Params :=
  if path.isSome then { p with path } else p

end Params

/-- A name written between grave accents. -/
def graveQuoted (s : String) : String := "\x60" ++ s ++ "\x60"

/-- The message of an unknown field name, listing the known ones. -/
def unknownFieldMessage (name : String) (known : List String) : String :=
  "unknown field " ++ graveQuoted name ++ ", " ++
    match known with
    | [] => "there are no fields"
    | [a] => "expected " ++ graveQuoted a
    | [a, b] => "expected " ++ graveQuoted a ++ " or " ++ graveQuoted b
    | _ => "expected one of " ++ ", ".intercalate (known.map graveQuoted)

/-- The message of a field given twice. -/
def duplicateFieldMessage (name : String) : String := "duplicate field " ++ graveQuoted name

/-- The message of a collection where a scalar value is expected. -/
def notAScalarMessage : String := "data did not match any variant of untagged enum ScalarValue"

namespace Yaml

/-- The scalar an untyped node stands for, if it is not a collection. -/
def Content.toScalar : Content → Option Scalar
  | .unit => some .null
  | .bool b => some (.bool b)
  | .unsigned n => some (if n < Nat.pow 2 63 then .int (Int64.ofNat n) else .uint (UInt64.ofNat n))
  | .signed n => some (.int (Int64.ofInt n))
  | .float x => some (.float x)
  | .text s => some (.str s)
  | .collection => none

namespace Place

/-- A scalar value. -/
def scalar (pl : Place) : Decode Scalar := do
  match (← pl.any anyFuel).toScalar with
  | some s => pure s
  | none => throw (.custom notAScalarMessage none)

/-- A string value. -/
def string (pl : Place) : Decode String := pl.text "a string"

/-- The name of a field: a scalar's text, which must be one of `known`. -/
def fieldName (pl : Place) (known : List String) : Decode String :=
  pl.take fun pl n m => pl.fixing m do
    match n with
    | .scalar _ v _ =>
      if known.contains v then pure v else throw (.custom (unknownFieldMessage v known) none)
    | _ => throw (unexpectedNode n "field identifier")

/-- Reads one field of a record once: a second occurrence is an error. -/
def field {σ : Type} (seen : List String) (name : String) (read : Decode σ) :
    Decode (σ × List String) := do
  if seen.contains name then throw (.custom (duplicateFieldMessage name) none)
  let s ← read
  pure (s, name :: seen)

/-- A project record. -/
def projectInfo (pl : Place) : Decode ProjectInfo := do
  let (info, _) ← pl.record "struct ProjectInfo" (({} : ProjectInfo), ([] : List String))
    fun (info, seen) keyPlace valuePlace => do
      let name ← keyPlace.text "field identifier"
      if name == "required" then
        field seen name do pure { info with required := ← valuePlace.boolean }
      else if name == "short_name" then
        field seen name do pure { info with shortName := ← valuePlace.optional string }
      else do
        valuePlace.ignore
        pure (info, seen)
  pure info

/-- A mapping of mappings of mappings of mappings of scalars. -/
def metaSections (pl : Place) : Decode MetaSections :=
  pl.stringMap (·.stringMap (·.stringMap (·.stringMap scalar)))

/-- Reads the value of one field into the parameters. -/
def paramField (p : Params) (name : String) (pl : Place) : Decode Params :=
  match name with
  | "localrc" => do pure { p with localrc := ← pl.optional (·.stringMap scalar) }
  | "local_conf" => do pure { p with localConf := ← pl.optional metaSections }
  | "base_services" => do pure { p with baseServices := ← pl.optional (·.list string) }
  | "services" => do pure { p with services := ← pl.optional (·.stringMap scalar) }
  | "plugins" => do pure { p with plugins := ← pl.optional (·.stringMap scalar) }
  | "base_dir" => do pure { p with baseDir := ← pl.optional (·.text "path string") }
  | "path" => do pure { p with path := ← pl.optional (·.text "path string") }
  | "projects" => do pure { p with projects := ← pl.optional (·.stringMap projectInfo) }
  | "project" => do pure { p with project := ← pl.optional projectInfo }
  | _ => do pure { p with tempestPlugins := ← pl.optional (·.list string) }

/-- The parameters. -/
def params (pl : Place) : Decode Params := do
  let (p, _) ← pl.record "struct LocalConfParams" (({} : Params), ([] : List String))
    fun (p, seen) keyPlace valuePlace => do
      let name ← keyPlace.fieldName Params.fieldNames
      field seen name (paramField p name valuePlace)
  pure p

end Place

end Yaml

/-- Reads the parameters from YAML text. -/
def Params.ofYaml (text : String) : Except Yaml.DecodeError Params :=
  Yaml.decodeDocument text Yaml.Place.params

/-- Reads a scalar value from YAML text. A collection is refused only once the whole text is
known to be a single well-formed document. -/
def Scalar.ofYaml (text : String) : Except Yaml.DecodeError Scalar := do
  let c ← Yaml.decodeDocument text (·.any Yaml.anyFuel)
  match c.toScalar with
  | some s => pure s
  | none => throw (.custom notAScalarMessage none)

end DevstackConf
