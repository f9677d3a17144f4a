import ShardRouting.Command.Binding

/-! The arguments of the program: one statement, and options in any order. An option takes its value from
    the same argument, or from the next one if that begins with no hyphen. Such a value is looked at when
    the argument behind it turns out to be sound. Behind `--` everything is a statement. -/

namespace ShardRouting
namespace Command

/-- How a report is written. -/
inductive Layout where
  | text
  | json
  deriving DecidableEq, Repr

def Layout.ofName? (name : String) : Option Layout :=
  if name = "text" then some .text else if name = "json" then some .json else none

/-- What the program is asked to do. -/
structure Invocation where
  sql : String
  config : Option String := none
  params : List (ParamKey × ShardValue) := []
  /-- Parameters that the routed statement is checked against. -/
  validate : List (ParamKey × ShardValue) := []
  schema : Option String := none
  disableSqlRouting : Bool := false
  layout : Layout := .text
  verbose : Bool := false
  deriving DecidableEq, Repr

/-- The options. -/
inductive Flag where
  | config
  | param
  | validate
  | schema
  | disableSqlRouting
  | format
  | verbose
  | help
  | version
  deriving DecidableEq, Repr

namespace Flag

def all : List Flag := [config, param, validate, schema, disableSqlRouting, format, verbose, help, version]

def name : Flag → String
  | config => "config"
  | param => "param"
  | validate => "validate"
  | schema => "schema"
  | disableSqlRouting => "disable-sql-routing"
  | format => "format"
  | verbose => "verbose"
  | help => "help"
  | version => "version"

def letter? : Flag → Option Char
  | config => some 'c'
  | param => some 'p'
  | schema => some 's'
  | format => some 'f'
  | verbose => some 'v'
  | help => some 'h'
  | version => some 'V'
  | validate => none
  | disableSqlRouting => none

def takesValue : Flag → Bool
  | config => true
  | param => true
  | validate => true
  | schema => true
  | format => true
  | _ => false

def ofName? (name : String) : Option Flag := all.find? (·.name = name)

def ofLetter? (letter : Char) : Option Flag := all.find? (·.letter? = some letter)

end Flag

/-- Why no statement is routed. -/
inductive Stop where
  | help
  | version
  | unknownArgument (argument : String)
  | noValue (flag : Flag)
  | badValue (flag : Flag) (value : String)
  | badBinding (flag : Flag) (fault : BindingFault)
  | repeated (flag : Flag)
  | unneededValue (flag : Flag) (value : String)
  | noStatement
  deriving DecidableEq, Repr

/-- What is known when some of the arguments are read. -/
structure Reader where
  sql : Option String := none
  config : Option String := none
  params : List (ParamKey × ShardValue) := []
  validate : List (ParamKey × ShardValue) := []
  schema : Option String := none
  disableSqlRouting : Bool := false
  layout : Option Layout := none
  verbose : Bool := false
  /-- An option that waits for its value, or whose value was not looked at yet. -/
  pending : Option (Flag × Option String) := none
  /-- Set behind `--`. -/
  rest : Bool := false

namespace Reader

def binding (flag : Flag) (value : String) : Except Stop (ParamKey × ShardValue) :=
  (parseBinding value).mapError (.badBinding flag)

/-- Gives an option its value. Only bindings may be given more than once. -/
def give (reader : Reader) (flag : Flag) (value : String) : Except Stop Reader :=
  match flag with
  | .config =>
    if reader.config.isSome then .error (.repeated flag)
    else if value.isEmpty then .error (.badValue flag value)
    else .ok { reader with config := some value }
  | .schema =>
    if reader.schema.isSome then .error (.repeated flag) else .ok { reader with schema := some value }
  | .format =>
    if reader.layout.isSome then .error (.repeated flag)
    else match Layout.ofName? value with
      | some layout => .ok { reader with layout := some layout }
      | none => .error (.badValue flag value)
  | .param => (binding flag value).map fun b => { reader with params := reader.params ++ [b] }
  | .validate => (binding flag value).map fun b => { reader with validate := reader.validate ++ [b] }
  | _ => .error (.unneededValue flag value)

/-- Looks at the value of the option before. -/
def settle (reader : Reader) : Except Stop Reader :=
  match reader.pending with
  | none => .ok reader
  | some (flag, none) => .error (.noValue flag)
  | some (flag, some value) => { reader with pending := none }.give flag value

/-- An option without value. -/
def switchOn (reader : Reader) (flag : Flag) : Except Stop Reader := do
  let reader ← reader.settle
  match flag with
  | .help => throw .help
  | .version => throw .version
  | .verbose => if reader.verbose then throw (.repeated flag) else return { reader with verbose := true }
  | .disableSqlRouting =>
    if reader.disableSqlRouting then throw (.repeated flag)
    else return { reader with disableSqlRouting := true }
  | _ => throw (.noValue flag)

/-- An option by its name, with the value behind `=` if there is one. -/
def long (reader : Reader) (argument name : String) (value : Option String) : Except Stop Reader := do
  match Flag.ofName? name with
  | none => throw (.unknownArgument argument)
  | some flag =>
    if flag.takesValue then
      let reader ← reader.settle
      match value with
      | some value => reader.give flag value
      | none => return { reader with pending := some (flag, none) }
    else match value with
      | some value => throw (.unneededValue flag value)
      | none => reader.switchOn flag

/-- Options by their letters. Behind a letter that takes a value, the rest is that value. -/
def short (reader : Reader) (argument : String) : List Char → Except Stop Reader
  | [] => .ok reader
  | c :: cs =>
    match Flag.ofLetter? c with
    | none => .error (.unknownArgument argument)
    | some flag =>
      if flag.takesValue then do
        let reader ← reader.settle
        match cs with
        | [] => return { reader with pending := some (flag, none) }
        | '=' :: value => reader.give flag (String.ofList value)
        | value => reader.give flag (String.ofList value)
      else do
        let reader ← reader.switchOn flag
        reader.short argument cs

/-- The statement, of which there is one. -/
def statement (reader : Reader) (argument : String) : Except Stop Reader := do
  if reader.sql.isSome then throw (.unknownArgument argument)
  else
    let reader ← reader.settle
    return { reader with sql := some argument }

def argument (reader : Reader) (text : String) : Except Stop Reader :=
  if reader.rest then reader.statement text
  else match text.toList with
    | ['-', '-'] => .ok { reader with rest := true }
    | '-' :: '-' :: cs =>
      match Text.cutAt '=' (String.ofList cs) with
      | some (name, value) => reader.long text name (some value)
      | none => reader.long text (String.ofList cs) none
    | '-' :: c :: cs => reader.short text (c :: cs)
    | _ => match reader.pending with
      | some (flag, none) => .ok { reader with pending := some (flag, some text) }
      | _ => reader.statement text

def finish (reader : Reader) : Except Stop Invocation := do
  let reader ← reader.settle
  match reader.sql with
  | none => throw .noStatement
  | some sql =>
    return {
      sql
      config := reader.config
      params := reader.params
      validate := reader.validate
      schema := reader.schema
      disableSqlRouting := reader.disableSqlRouting
      layout := reader.layout.getD .text
      verbose := reader.verbose }

end Reader

/-- Reads all arguments. -/
def Invocation.ofArguments (arguments : List String) : Except Stop Invocation := do
  let reader ← arguments.foldlM Reader.argument {}
  reader.finish

end Command
end ShardRouting
