/-!
# Styled text on a terminal

Styled text stands between a control sequence that starts its style and one
that ends all styles.  Text within it that ends all styles is followed by the
start of the outer style again.
-/

namespace Stencil.Console

/-- The colours of text. -/
inductive Color where
  | red
  | green
  | yellow
  | blue
  | cyan
  deriving DecidableEq, Repr

def Color.code : Color → String
  | red => "31"
  | green => "32"
  | yellow => "33"
  | blue => "34"
  | cyan => "36"

/-- How text looks. -/
structure Style where
  bold : Bool := false
  dimmed : Bool := false
  color : Option Color := none
  deriving DecidableEq, Repr

def Style.codes (style : Style) : List String :=
  (if style.bold then ["1"] else []) ++ (if style.dimmed then ["2"] else []) ++
    (style.color.map Color.code).toList

def Style.start (style : Style) : List Char :=
  '\x1b' :: '[' :: (String.intercalate ";" style.codes).toList ++ ['m']

def stop : List Char := ['\x1b', '[', '0', 'm']

/-- Text with a style started again wherever all styles end. -/
def restart (style : Style) : List Char → List Char
  | '\x1b' :: '[' :: '0' :: 'm' :: rest => stop ++ style.start ++ restart style rest
  | c :: rest => c :: restart style rest
  | [] => []

/-- Text in a style, if styles are shown. -/
def paint (styled : Bool) (style : Style) (text : String) : String :=
  if styled then String.ofList (style.start ++ restart style text.toList ++ stop) else text

end Stencil.Console
