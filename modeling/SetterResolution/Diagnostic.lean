/-!
# Positions and diagnostics

A declaration knows the position it was found at. What goes wrong with declarations, or with an
attribute that no setter accepts, is told by diagnostics; they are collected in the order in which
they arise, and none of them stops the work.
-/

namespace SetterResolution

/-- Where a declaration was found: the annotated element, with line and column when they are known.
A line is counted from one, and zero says that it is not known. -/
structure Position where
  /-- The annotated element. -/
  element : String
  /-- The line, or zero. -/
  line : UInt32
  /-- The column. -/
  column : UInt32
  deriving DecidableEq, Repr

namespace Position

/-- A position of which only the element is known. -/
def ofElement (element : String) : Position :=
  ⟨element, 0, 0⟩

/-- Whether line and column are known. -/
def hasLine (position : Position) : Bool :=
  position.line != 0

/-- The element, followed by line and column if they are known. -/
def text (position : Position) : String :=
  if position.hasLine then
    position.element ++ ":" ++ toString position.line.toNat ++ ":" ++ toString position.column.toNat
  else position.element

end Position

/-- How grave a diagnostic is. -/
inductive Severity where
  /-- A declaration was rejected or an attribute has no setter. -/
  | error
  /-- The input works but probably does not mean what it seems to. -/
  | warning
  /-- A note. -/
  | info
  deriving DecidableEq, Repr

/-- The word for a severity. -/
def Severity.name : Severity → String
  | error => "error"
  | warning => "warning"
  | info => "info"

/-- A message about a declaration or an attribute. -/
structure Diagnostic where
  /-- How grave it is. -/
  severity : Severity
  /-- What it says. -/
  message : String
  /-- What it is about, if that is known. -/
  position : Option Position
  deriving DecidableEq, Repr

/-- The diagnostic as one line of text, without the end of the line. -/
def Diagnostic.text (diagnostic : Diagnostic) : String :=
  let body := diagnostic.severity.name ++ ": " ++ diagnostic.message
  match diagnostic.position with
  | some position => position.text ++ ": " ++ body
  | none => body

/-- Diagnostics in the order in which they arose. -/
abbrev Report := List Diagnostic

namespace Report

/-- How many diagnostics of a severity there are. -/
def count (report : Report) (severity : Severity) : Nat :=
  report.countP fun diagnostic => diagnostic.severity = severity

/-- Whether there is an error. -/
def hasErrors (report : Report) : Bool :=
  report.any fun diagnostic => diagnostic.severity = .error

/-- The report as text, one line for each diagnostic. -/
def text (report : Report) : String :=
  String.join (report.map fun diagnostic => diagnostic.text ++ "\n")

end Report

end SetterResolution
