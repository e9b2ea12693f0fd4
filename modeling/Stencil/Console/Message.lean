import Stencil.Console.Style
import Stencil.Diagnostic

/-!
# Lines of messages

What is said to a user: a line starts with a symbol for what it is about, or is
set in.
-/

namespace Stencil.Console

/-- The symbol of a step, and of what a step leads to. -/
def arrow : String := "→"

/-- The symbol of what a method is made from. -/
def origin : String := "←"

/-- The symbol of a reason. -/
def bullet : String := "•"

/-- Text that stands out. -/
def strong (styled : Bool) (text : String) : String := paint styled { bold := true } text

/-- Text that stands back. -/
def faint (styled : Bool) (text : String) : String := paint styled { dimmed := true } text

/-- Coloured text. -/
def colored (styled : Bool) (color : Color) (text : String) : String :=
  paint styled { color := some color } text

/-- A line that starts with a symbol. -/
def symbolLine (styled : Bool) (color : Color) (symbol message : String) : String :=
  paint styled { bold := true, color := some color } symbol ++ " " ++ message

def step (styled : Bool) (message : String) : String := symbolLine styled .blue arrow message

def success (styled : Bool) (message : String) : String := symbolLine styled .green "✓" message

def failure (styled : Bool) (message : String) : String := symbolLine styled .red "✗" message

def warning (styled : Bool) (message : String) : String := symbolLine styled .yellow "!" message

def info (styled : Bool) (message : String) : String := "  " ++ faint styled message

def heading (styled : Bool) (title : String) : List String :=
  ["", strong styled title, faint styled (String.ofList (List.replicate 50 '─'))]

def label (styled : Bool) (severity : Severity) : String :=
  match severity with
  | .error => paint styled { bold := true, color := some .red } severity.label
  | .warning | .mandatoryWarning => colored styled .yellow severity.label
  | .note => faint styled severity.label

def diagnostic (styled : Bool) (diagnostic : Diagnostic) : String :=
  "  " ++ label styled diagnostic.severity ++ ": " ++ diagnostic.message

end Stencil.Console
