import SwaggerClient.Entries
import SwaggerClient.Text.Split

namespace SwaggerClient

/-- What a command line can give a value. -/
inductive Setting where
  /-- The config file, given without a flag. -/
  | config
  | language
  | spec
  | name
  | className
  | basePath
  | output
  | apiVersion
deriving DecidableEq, Repr

def Setting.isPath : Setting → Bool
  | .config => true
  | .spec => true
  | .output => true
  | _ => false

inductive Switch where
  | snake
  | noOperationIds
deriving DecidableEq, Repr

/-- Why a command line does not lead to a run. -/
inductive Usage where
  | help
  | version
  | unknownArgument
  /-- A setting has no value, or an empty path. -/
  | invalidValue
  /-- A flag that takes no value has one. -/
  | tooManyValues
  /-- A flag is given twice. -/
  | repeated
deriving DecidableEq, Repr

def Usage.exitCode : Usage → Nat
  | .help => 0
  | .version => 0
  | .unknownArgument => 2
  | .invalidValue => 2
  | .tooManyValues => 2
  | .repeated => 2

def Usage.message : Usage → String
  | .help =>
    "Usage: swagger-client [CONFIG] [--language LANGUAGE] [--spec PATH] [--name NAME]\n" ++
      "    [--class-name NAME] [--base-path PATH] [-o, --output PATH] [--snake]\n" ++
      "    [--no-operation-ids] [--api-version VERSION] [-h, --help] [-V, --version]"
  | .version => "swagger-client"
  | .unknownArgument => "error: unexpected argument"
  | .invalidValue => "error: a value is required"
  | .tooManyValues => "error: unexpected value for a flag"
  | .repeated => "error: a flag cannot be used twice"

/-- The settings and switches of a command line. -/
structure Arguments where
  values : List (Setting × String) := []
  switches : List Switch := []
deriving DecidableEq, Repr

namespace Arguments

def value? (a : Arguments) (setting : Setting) : Option String :=
  Entries.get? setting a.values

def isOn (a : Arguments) (switch : Switch) : Bool :=
  a.switches.contains switch

/-- What a flag stands for. -/
inductive Flag where
  | setting (setting : Setting)
  | switch (switch : Switch)
  | help
  | version
deriving DecidableEq, Repr

def longFlag? (name : String) : Option Flag :=
  match name with
  | "language" => some (.setting .language)
  | "spec" => some (.setting .spec)
  | "name" => some (.setting .name)
  | "class-name" => some (.setting .className)
  | "base-path" => some (.setting .basePath)
  | "output" => some (.setting .output)
  | "api-version" => some (.setting .apiVersion)
  | "snake" => some (.switch .snake)
  | "no-operation-ids" => some (.switch .noOperationIds)
  | "help" => some .help
  | "version" => some .version
  | _ => none

def shortFlag? (letter : Char) : Option Flag :=
  match letter with
  | 'o' => some (.setting .output)
  | 'h' => some .help
  | 'V' => some .version
  | _ => none

/-- What a part of a command line says. -/
inductive Part where
  /-- A flag, with the value written next to it. -/
  | flag (flag : Flag) (value : Option String)
  /-- A setting whose value is a word of its own; it is looked at later. -/
  | waiting (setting : Setting) (value : Option String)
  /-- Nothing after this matters. -/
  | refused (usage : Usage)
deriving DecidableEq, Repr

/-- Takes up a setting. A repetition counts before an empty path. -/
def give (a : Arguments) (setting : Setting) (value : Option String) : Except Usage Arguments :=
  match value with
  | none => .error .invalidValue
  | some value =>
    if (a.value? setting).isSome then .error .repeated
    else if setting.isPath && value.isEmpty then .error .invalidValue
    else .ok { a with values := a.values ++ [(setting, value)] }

def turnOn (a : Arguments) (switch : Switch) : Except Usage Arguments :=
  if a.isOn switch then .error .repeated else .ok { a with switches := a.switches ++ [switch] }

def ofParts (a : Arguments) : List Part → Except Usage Arguments
  | [] => .ok a
  | .refused usage :: _ => .error usage
  | .waiting _ _ :: .refused usage :: _ => .error usage
  | .waiting setting value :: rest => do
    let a ← a.give setting value
    ofParts a rest
  | .flag (.setting setting) value :: rest => do
    let a ← a.give setting value
    ofParts a rest
  | .flag (.switch switch) _ :: rest => do
    let a ← a.turnOn switch
    ofParts a rest
  | .flag .help _ :: _ => .error .help
  | .flag .version _ :: _ => .error .version

def splitAtEquals : List Char → List Char × Option String
  | [] => ([], none)
  | '=' :: value => ([], some (String.ofList value))
  | c :: rest =>
    let (name, value) := splitAtEquals rest
    (c :: name, value)

/-- The parts of a word after two dashes, and the setting whose value is still to come. -/
def longParts (text : List Char) : List Part × Option Setting :=
  let (name, value) := splitAtEquals text
  match longFlag? (String.ofList name), value with
  | none, _ => ([.refused .unknownArgument], none)
  | some (.setting setting), none => ([], some setting)
  | some (.setting setting), some value => ([.flag (.setting setting) (some value)], none)
  | some flag, none => ([.flag flag none], none)
  | some _, some _ => ([.refused .tooManyValues], none)

/-- The parts of a word after one dash, and the setting whose value is still to come. -/
def shortParts : List Char → List Part × Option Setting
  | [] => ([], none)
  | letter :: letters =>
    match shortFlag? letter, letters with
    | none, _ => ([.refused .unknownArgument], none)
    | some (.setting setting), [] => ([], some setting)
    | some (.setting setting), '=' :: value =>
      ([.flag (.setting setting) (some (String.ofList value))], none)
    | some (.setting setting), value =>
      ([.flag (.setting setting) (some (String.ofList value))], none)
    | some flag, letters =>
      let (more, setting) := shortParts letters
      (.flag flag none :: more, setting)

def dashedParts (word : String) : List Part × Option Setting :=
  match word.toList with
  | '-' :: '-' :: text => longParts text
  | '-' :: letters => shortParts letters
  | _ => ([], none)

/-- A word without the dash of a flag; a lone dash is such a word too. -/
def isPlain (word : String) : Bool :=
  !Text.beginsWith '-' word || word == "-"

/-- The parts of words none of which is a flag. -/
def plainParts (hasConfig : Bool) : List String → List Part
  | [] => []
  | word :: words =>
    (if hasConfig then .refused .unknownArgument else .waiting .config (some word)) ::
      plainParts true words

def unanswered (setting : Option Setting) : List Part :=
  (setting.map fun setting => .waiting setting none).toList

/-- The parts of the words of a command line, after one that may wait for its value. -/
def partsOf (hasConfig : Bool) (setting : Option Setting) : List String → List Part
  | [] => unanswered setting
  | word :: words =>
    if isPlain word then
      match setting with
      | some setting => .waiting setting (some word) :: partsOf hasConfig none words
      | none =>
        (if hasConfig then .refused .unknownArgument else .waiting .config (some word)) ::
          partsOf true none words
    else if word = "--" then unanswered setting ++ plainParts hasConfig words
    else
      let (parts, next) := dashedParts word
      unanswered setting ++ parts ++ partsOf hasConfig next words

/-- Reads a command line from left to right. A setting is checked only when the next known word comes or the line ends,
so an unknown word after it is reported first. -/
def parse (words : List String) : Except Usage Arguments :=
  ofParts {} (partsOf false none words)

end Arguments

end SwaggerClient
