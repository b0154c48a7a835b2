import ControlPlane.Constraints.Basic
import ControlPlane.Constraints.Size
import ControlPlane.Number.Numeral
import ControlPlane.Text.Split

/-!
# Reading constraints

The text form of constraints is a list of words `key=value`. No key may stand in it twice. For the
keys whose values are numbers the value is looked at before the repetition, for the other keys
after it.
-/

namespace ControlPlane.Constraints

/-- The keys of the text form. -/
inductive Key where
  | arch
  | container
  | cpuCores
  | cpuPower
  | mem
  | rootDisk
  | tags
  deriving DecidableEq, Repr

/-- The spelling of a key. -/
def Key.word : Key → String
  | arch => "arch"
  | container => "container"
  | cpuCores => "cpu-cores"
  | cpuPower => "cpu-power"
  | mem => "mem"
  | rootDisk => "root-disk"
  | tags => "tags"

instance : Keyword Key where
  all := [.arch, .container, .cpuCores, .cpuPower, .mem, .rootDisk, .tags]
  word := Key.word
  mem_all a := by cases a <;> decide
  word_injective a b := by cases a <;> cases b <;> decide

/-- Whether the values of a key are numbers. -/
def Key.isNumeric : Key → Bool
  | cpuCores => true
  | cpuPower => true
  | mem => true
  | rootDisk => true
  | _ => false

/-- What is wrong with a value. -/
inductive ValueError where
  | emptyArchitecture
  | unknownContainer
  | numeral (cause : Number.NumeralError)
  | size (cause : SizeError)
  deriving DecidableEq, Repr

/-- The wording of a wrong value. -/
def ValueError.message : ValueError → String
  | .emptyArchitecture => "empty architecture"
  | .unknownContainer => ContainerType.unknownMessage
  | .numeral cause => cause.message
  | .size cause => cause.message

/-- What is wrong with a text. -/
inductive ParseError where
  | malformed (word : String)
  | unknown (key : String)
  | duplicate (key : Key)
  | badValue (key : Key) (cause : ValueError)
  deriving DecidableEq, Repr

/-- The wording of a wrong text. -/
def ParseError.message : ParseError → String
  | .malformed word => "malformed constraint " ++ Text.quoted word
  | .unknown key => "unknown constraint " ++ Text.quoted key
  | .duplicate key => "constraint " ++ Text.quoted key.word ++ " specified more than once"
  | .badValue key cause => "bad " ++ Text.quoted key.word ++ " constraint: " ++ cause.message

/-- Whether the field of a key is set. -/
def isSet (constraints : Constraints) : Key → Bool
  | .arch => constraints.arch.isSome
  | .container => constraints.container.isSome
  | .cpuCores => constraints.cpuCores.isSome
  | .cpuPower => constraints.cpuPower.isSome
  | .mem => constraints.mem.isSome
  | .rootDisk => constraints.rootDisk.isSome
  | .tags => constraints.tags.isSome

/-- The tags of a value: its parts between commas, without the empty ones. -/
def readTags (value : List Char) : List String :=
  (Text.fieldsOn (· == ',') value).map String.ofList

/-- The constraints that one key and its value ask for. -/
def readValue (key : Key) (value : List Char) : Except ValueError Constraints :=
  match key with
  | .arch =>
    if value.isEmpty then .error .emptyArchitecture
    else .ok { empty with arch := some (String.ofList value) }
  | .container =>
    match Keyword.ofWord? (String.ofList value) with
    | some kind => .ok { empty with container := some kind }
    | none => .error .unknownContainer
  | .cpuCores =>
    ((Number.parseWord value).mapError .numeral).map fun n => { empty with cpuCores := some n }
  | .cpuPower =>
    ((Number.parseWord value).mapError .numeral).map fun n => { empty with cpuPower := some n }
  | .mem =>
    ((Size.parse value).mapError .size).map fun n => { empty with mem := some (UInt64.ofNat n) }
  | .rootDisk =>
    ((Size.parse value).mapError .size).map fun n =>
      { empty with rootDisk := some (UInt64.ofNat n) }
  | .tags => .ok { empty with tags := some (readTags value) }

/-- Adds one word to constraints that are already read. -/
def addWord (constraints : Constraints) (word : List Char) : Except ParseError Constraints :=
  match Text.cutFirst '=' word with
  | none => .error (.malformed (String.ofList word))
  | some (name, value) =>
    match (Keyword.ofWord? (String.ofList name) : Option Key) with
    | none => .error (.unknown (String.ofList name))
    | some key =>
      if constraints.isSet key ∧ ¬ key.isNumeric then .error (.duplicate key)
      else
        match readValue key value with
        | .error cause => .error (.badValue key cause)
        | .ok asked =>
          if constraints.isSet key then .error (.duplicate key)
          else .ok (asked.withFallbacks constraints)

/-- Reads the text form of constraints. -/
def parse (text : String) : Except ParseError Constraints :=
  (Text.words text.toList).foldlM addWord empty

end ControlPlane.Constraints
