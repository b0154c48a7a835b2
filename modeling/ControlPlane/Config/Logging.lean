import ControlPlane.Keyword
import ControlPlane.Toml.Tree

/-!
# Logging

Where the log of a control plane goes, and how severe a message has to be to get there.
-/

namespace ControlPlane

/-- How severe a message is. -/
inductive LogLevel where
  | trace
  | debug
  | info
  | warn
  | error
  | critical
  deriving DecidableEq, Repr

/-- The word for a level. -/
def LogLevel.word : LogLevel → String
  | trace => "trace"
  | debug => "debug"
  | info => "info"
  | warn => "warn"
  | error => "error"
  | critical => "critical"

instance : Keyword LogLevel where
  all := [.trace, .debug, .info, .warn, .error, .critical]
  word := LogLevel.word
  mem_all a := by cases a <;> decide
  word_injective a b := by cases a <;> cases b <;> decide

/-- What is done if the file of a log exists already. -/
inductive IfExists where
  | fail
  | truncate
  | append
  deriving DecidableEq, Repr

/-- The word for what is done. -/
def IfExists.word : IfExists → String
  | fail => "fail"
  | truncate => "truncate"
  | append => "append"

instance : Keyword IfExists where
  all := [.fail, .truncate, .append]
  word := IfExists.word
  mem_all a := by cases a <;> decide
  word_injective a b := by cases a <;> cases b <;> decide

/-- Where a log goes: to the terminal, or to a file. -/
inductive Logging where
  | terminal (level : LogLevel)
  | file (level : LogLevel) (path : String) (ifExists : IfExists)
  deriving DecidableEq, Repr

namespace Logging

open ControlPlane.Toml

/-- The word for a way of logging. -/
def mode : Logging → String
  | terminal _ => "stderr-terminal"
  | file _ _ _ => "file"

/-- The least level that is logged. -/
def level : Logging → LogLevel
  | terminal level => level
  | file level _ _ => level

/-- Reads a keyword: a string, or a table whose only entry is an empty table under that word. -/
def readKeyword {α : Type} [Keyword α] : Value → Option α
  | .string word => Keyword.ofWord? word
  | .table [(word, .table [])] => Keyword.ofWord? word
  | _ => none

/-- Reads a string. -/
def readText : Value → Option String
  | .string text => some text
  | _ => none

/-- Reads a way of logging from the values of its fields. -/
def ofParts (mode : String) (level path ifExists : Option Value) : Option Logging := do
  match mode with
  | "stderr-terminal" => return terminal (← (← level) |> readKeyword)
  | "file" =>
    let level ← (← level) |> readKeyword
    return file level (← (← path) |> readText) (← (← ifExists) |> readKeyword)
  | _ => none

/-- Reads a way of logging: a table of its fields, or an array of exactly its fields in order. -/
def ofToml : Value → Option Logging
  | .table entries => do
    let mode ← (← Table.get? "mode" entries) |> readText
    ofParts mode (Table.get? "level" entries) (Table.get? "path" entries)
      (Table.get? "if_exists" entries)
  | .array [.string "stderr-terminal", level] => ofParts "stderr-terminal" level none none
  | .array [.string "file", level, path, ifExists] => ofParts "file" level path ifExists
  | _ => none

end Logging

end ControlPlane
