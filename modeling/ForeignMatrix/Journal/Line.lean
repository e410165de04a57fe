/-!
# Journal lines

Severity levels and the lines that the library writes to its journal.
-/

namespace ForeignMatrix

/-- Severity of a journal line, the gravest first. -/
inductive Level where
  /-- Something failed. -/
  | error
  /-- Something failed and the work went on. -/
  | warn
  /-- Something an operator may want to know. -/
  | info
  /-- Something a developer may want to know. -/
  | debug
  /-- Every step. -/
  | trace
  deriving DecidableEq, Repr

namespace Level

/-- All levels, the gravest first. -/
def all : List Level := [error, warn, info, debug, trace]

/-- Lower-case name, as settings and filters spell it. -/
def name : Level → String
  | error => "error"
  | warn => "warn"
  | info => "info"
  | debug => "debug"
  | trace => "trace"

/-- Upper-case name, as records show it. -/
def label : Level → String
  | error => "ERROR"
  | warn => "WARN"
  | info => "INFO"
  | debug => "DEBUG"
  | trace => "TRACE"

/-- Number of the level: one for the gravest, five for the finest. -/
def rank : Level → Nat
  | error => 1
  | warn => 2
  | info => 3
  | debug => 4
  | trace => 5

end Level

/-- One line of the journal. -/
structure JournalLine where
  /-- Severity. -/
  level : Level
  /-- Part of the library that wrote the line. -/
  target : String
  /-- Text of the line. -/
  message : String
  deriving DecidableEq, Repr

end ForeignMatrix
