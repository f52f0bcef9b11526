import CatalogSchema.Text.Quoted
import CatalogSchema.Text.Similarity

/-!
# Words of a command line

The words are split into options with their values, flags, and the rest. An option may have its value
attached after an equals sign; a double dash ends the options. Where a name is unknown, the problem
suggests those that are close to it.
-/

namespace CatalogSchema.CommandLine

/-- What is wrong with the words. -/
inductive UsageProblem where
  | noSuchOption (name : String) (suggestions : List String)
  | noSuchCommand (name : String) (suggestions : List String)
  | missingCommand
  | missingValue (option : String)
  /-- A flag with a value attached. -/
  | unexpectedValue (flag : String)
  | invalidValue (option reason : String)
  | extraArguments (words : List String)
  deriving DecidableEq, Repr

/-- What may have been meant. -/
def suggestion : List String → String
  | [] => ""
  | [name] => s!" Did you mean {Text.quoted name}?"
  | names =>
    let listed := ", ".intercalate (names.map Text.quoted)
    s!" (Did you mean one of: {listed}?)"

def UsageProblem.message : UsageProblem → String
  | noSuchOption name names => s!"No such option {Text.quoted name}." ++ suggestion names
  | noSuchCommand name names => s!"No such command {Text.quoted name}." ++ suggestion names
  | missingCommand => "Missing command."
  | missingValue option => s!"Option {Text.quoted option} requires an argument."
  | unexpectedValue flag => s!"Option {Text.quoted flag} does not take a value."
  | invalidValue option reason => s!"Invalid value for {Text.quoted option}: {reason}"
  | extraArguments words =>
    let noun := if words.length = 1 then "argument" else "arguments"
    let listed := " ".intercalate words
    s!"Got unexpected extra {noun} ({listed})"

/-- Whether the problem is reported by itself, without the usage. -/
def UsageProblem.standsAlone : UsageProblem → Bool
  | missingValue _ | unexpectedValue _ => true
  | _ => false

/-- The options that may be given. -/
structure Grammar where
  /-- Options that take a value. -/
  valued : List String
  flags : List String
  /-- Whether options may also follow other words. -/
  interspersed : Bool
  deriving DecidableEq, Repr

/-- The words, sorted out. -/
structure Split where
  /-- The options with their values, in the order given. -/
  values : List (String × String)
  /-- The flags in the order given. -/
  flags : List String
  rest : List String
  deriving DecidableEq, Repr

/-- Starts with a dash and is more than one. -/
def isOption (word : String) : Bool :=
  match word.toList with
  | '-' :: _ :: _ => true
  | _ => false

/-- An option and the value attached to it. -/
def attached (word : String) : String × Option String :=
  match word.toList.span (· ≠ '=') with
  | (name, _ :: value) => (String.ofList name, some (String.ofList value))
  | (name, []) => (String.ofList name, none)

/-- An unknown option. After two dashes it is reported by its name, together with the options that are
close to it; after a single dash only one letter counts. -/
def Grammar.unknown (g : Grammar) (word : String) : UsageProblem :=
  match word.toList with
  | '-' :: '-' :: _ =>
    let name := (attached word).1
    .noSuchOption name (Text.closest (g.valued ++ g.flags) name)
  | cs => .noSuchOption (String.ofList (cs.take 2)) []

namespace Split

def empty : Split := ⟨[], [], []⟩

def addValue (option value : String) (s : Split) : Split := { s with values := (option, value) :: s.values }

def addFlag (flag : String) (s : Split) : Split := { s with flags := flag :: s.flags }

def addWord (word : String) (s : Split) : Split := { s with rest := word :: s.rest }

def ofWords (g : Grammar) : List String → Except UsageProblem Split
  | [] => .ok empty
  | word :: words =>
    if word = "--" then .ok { empty with rest := words }
    else if isOption word then
      let (name, value?) := attached word
      if name ∈ g.flags then
        match value? with
        | some _ => .error (.unexpectedValue name)
        | none => (ofWords g words).map (addFlag name)
      else if name ∈ g.valued then
        match value?, words with
        | some value, words => (ofWords g words).map (addValue name value)
        | none, value :: words => (ofWords g words).map (addValue name value)
        | none, [] => .error (.missingValue name)
      else .error (g.unknown word)
    else if g.interspersed then (ofWords g words).map (addWord word)
    else .ok { empty with rest := word :: words }

/-- The value of an option; of several the last one counts. -/
def value? (s : Split) (option : String) : Option String :=
  ((s.values.filter (·.1 = option)).getLast?).map Prod.snd

/-- The options that were given, in the order in which they were first given, and then the others. -/
def order (s : Split) (options : List String) : List String :=
  let given := (s.values.map Prod.fst).eraseDups
  given ++ options.filter (· ∉ given)

end Split

end CatalogSchema.CommandLine
