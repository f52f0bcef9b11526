import CatalogSchema.Database.Fault
import CatalogSchema.Environment
import CatalogSchema.Json.Printer
import CatalogSchema.Schema.Metadata

/-!
# The configuration

A configuration holds the address of the database, the options that steer introspection and the
metadata that introspection last produced. `Configuration.write` gives the text of its file and
`Configuration.load` reads one back.
-/

namespace CatalogSchema

open Decoder (field fieldOr record)

/-- Exposes an infix operator under another name. -/
structure OperatorMapping where
  operator : String
  exposed : String
  deriving DecidableEq, Repr

namespace OperatorMapping

def decode : Decoder OperatorMapping := record fun ms =>
  mk <$> field ⟨"operator_name", "operatorName"⟩ .text ms
    <*> field ⟨"exposed_name", "exposedName"⟩ .text ms

def encode (sp : Spelling) (m : OperatorMapping) : Json :=
  .obj
    [(sp.pick "operator_name" "operatorName", .str m.operator),
     (sp.pick "exposed_name" "exposedName", .str m.exposed)]

def defaults : List OperatorMapping :=
  [⟨"=", "_eq"⟩, ⟨"<=", "_lte"⟩, ⟨">", "_gt"⟩, ⟨">=", "_gte"⟩, ⟨"<", "_lt"⟩, ⟨"!=", "_neq"⟩,
   ⟨"<>", "_neq"⟩, ⟨"~~", "_like"⟩, ⟨"!~~", "_nlike"⟩, ⟨"~~*", "_ilike"⟩, ⟨"!~~*", "_nilike"⟩,
   ⟨"~", "_regex"⟩, ⟨"!~", "_nregex"⟩, ⟨"~*", "_iregex"⟩, ⟨"!~*", "_niregex"⟩]

end OperatorMapping

/-- What steers introspection. -/
structure Options where
  /-- Schemas whose relations are left out. -/
  excludedSchemas : List String
  /-- Schemas whose tables are exposed under their own name. -/
  unqualifiedSchemas : List String
  operatorMappings : List OperatorMapping
  /-- Functions of two arguments that count as comparison operators. -/
  comparisonFunctions : List String
  deriving DecidableEq, Repr

namespace Options

def default : Options where
  excludedSchemas :=
    ["information_schema", "pg_catalog", "tiger", "topology", "crdb_internal", "columnar",
     "columnar_internal"]
  unqualifiedSchemas := ["public"]
  operatorMappings := OperatorMapping.defaults
  comparisonFunctions := ["box_above", "box_below"]

def decode : Decoder Options := record fun ms =>
  mk <$> fieldOr ⟨"excluded_schemas", "excludedSchemas"⟩ (.list .text) default.excludedSchemas ms
    <*> fieldOr ⟨"unqualified_schemas", "unqualifiedSchemas"⟩ (.list .text)
      default.unqualifiedSchemas ms
    <*> fieldOr ⟨"comparison_operator_mapping", "comparisonOperatorMapping"⟩
      (.list OperatorMapping.decode) default.operatorMappings ms
    <*> fieldOr ⟨"introspect_prefix_function_comparison_operators",
        "introspectPrefixFunctionComparisonOperators"⟩ (.list .text) default.comparisonFunctions ms

def encode (sp : Spelling) (o : Options) : Json :=
  .obj
    [(sp.pick "excluded_schemas" "excludedSchemas", .ofStrings o.excludedSchemas),
     (sp.pick "unqualified_schemas" "unqualifiedSchemas", .ofStrings o.unqualifiedSchemas),
     (sp.pick "comparison_operator_mapping" "comparisonOperatorMapping",
      .arr (o.operatorMappings.map (OperatorMapping.encode sp))),
     (sp.pick "introspect_prefix_function_comparison_operators"
        "introspectPrefixFunctionComparisonOperators", .ofStrings o.comparisonFunctions)]

end Options

structure Configuration where
  /-- The address of the database; empty when the environment gives it. -/
  connectionUri : String
  metadata : Metadata
  options : Options
  deriving DecidableEq, Repr

namespace Configuration

def modelName : String := "ConnectorConfiguration"

/-- The name of the file in a context directory. -/
def fileName : String := "configuration.json"

/-- The one version of the file format. -/
def version : String := "2"

def empty : Configuration := ⟨"", .empty, .default⟩

def decode : Decoder Configuration := record fun ms =>
  (fun _ uri metadata options => mk uri metadata options)
    <$> fieldOr (.plain "version") (.literal version) () ms
    <*> fieldOr ⟨"connection_uri", "connectionUri"⟩ .text "" ms
    <*> fieldOr (.plain "metadata") Metadata.decode .empty ms
    <*> fieldOr ⟨"configure_options", "configureOptions"⟩ Options.decode .default ms

def encode (sp : Spelling) (c : Configuration) : Json :=
  .obj
    [("version", .str version),
     (sp.pick "connection_uri" "connectionUri", .str c.connectionUri),
     ("metadata", c.metadata.encode sp),
     (sp.pick "configure_options" "configureOptions", c.options.encode sp)]

def load (text : String) : Checked Configuration := Decoder.ofText decode text

/-- The text of the file. -/
def write (c : Configuration) : String := (c.encode .byLabel).render (.indented 2) ++ "\n"

/-- The environment variable that gives the address when the file does not. -/
def uriVariable : String := "CONNECTION_URI"

def unresolvedMessage : String := s!"No connection URI configured; set connectionUri or {uriVariable}"

/-- The address of the database: the configured one unless it is empty, else that of the environment,
unless it is empty as well. -/
def resolveUri? (c : Configuration) (env : Environment) : Option String :=
  if c.connectionUri ≠ "" then some c.connectionUri else env.get? uriVariable

/-- The address of the database, or the fault that there is none. -/
def address (c : Configuration) (env : Environment) : Except Fault String :=
  match c.resolveUri? env with
  | some uri => .ok uri
  | none => .error (.raised .value unresolvedMessage)

end Configuration

end CatalogSchema
