import CestExport.Text.Blank
import CestExport.Text.Upper
import CestExport.Php.Expression

/-!
# Key input

A recorded key input mixes plain text, keys such as `${KEY_ENTER}` and variables;
each part becomes one argument of the generated call.
-/

namespace CestExport.Keys

/-- Plain text, the name of a key, or the expression that reads a variable. -/
inductive Token
  | literal (text : String)
  | key (name : String)
  | variable (expression : String)
deriving DecidableEq, Repr

/-- Key names of a recording whose constant has another name. -/
def aliases : List (String × String) :=
  [("BKSP", "BACKSPACE"), ("BACK_SPACE", "BACKSPACE"), ("ESC", "ESCAPE"), ("DEL", "DELETE"),
    ("INS", "INSERT"), ("CTRL", "CONTROL"), ("PGUP", "PAGE_UP"), ("PGDN", "PAGE_DOWN"),
    ("RETURN", "RETURN_KEY"), ("NUM_PLUS", "ADD"), ("NUM_MINUS", "SUBTRACT"),
    ("NUM_MULTIPLY", "MULTIPLY"), ("NUM_DIVISION", "DIVIDE"), ("NUM_PERIOD", "DECIMAL"),
    ("N0", "NUMPAD0"), ("N1", "NUMPAD1"), ("N2", "NUMPAD2"), ("N3", "NUMPAD3"),
    ("N4", "NUMPAD4"), ("N5", "NUMPAD5"), ("N6", "NUMPAD6"), ("N7", "NUMPAD7"),
    ("N8", "NUMPAD8"), ("N9", "NUMPAD9"), ("NUM0", "NUMPAD0"), ("NUM1", "NUMPAD1"),
    ("NUM2", "NUMPAD2"), ("NUM3", "NUMPAD3"), ("NUM4", "NUMPAD4"), ("NUM5", "NUMPAD5"),
    ("NUM6", "NUMPAD6"), ("NUM7", "NUMPAD7"), ("NUM8", "NUMPAD8"), ("NUM9", "NUMPAD9")]

/-- The constant that stands for a key. -/
def constant (key : String) : String :=
  let name := Text.upper (Text.trim key)
  "WebDriverKeys::" ++ (aliases.lookup name).getD name

/-- How the name in a reference to a key begins. -/
def keyMark : String := "KEY_"

/-- A reference in a recorded key input. -/
def Token.ofReference (name : String) : Token :=
  match Text.after? keyMark name with
  | some k => .key k
  | none => .variable (Php.read name)

/-- The parts of a recorded key input. -/
def split (s : String) : List Token :=
  Template.collect Token.literal Token.ofReference s

/-- A token as it is displayed. -/
def Token.display : Token → String
  | .literal text => text
  | .key name => s!"Key['{name}']"
  | .variable expression => expression

/-- A token as an argument. -/
def Token.argument : Token → String
  | .literal text => Php.quote text
  | .key name => constant name
  | .variable expression => expression

/-- The arguments for a list of tokens. -/
def arguments : List Token → String
  | [] => Php.quote ""
  | tokens => ", ".intercalate (tokens.map Token.argument)

/-- The argument for a plain text, which stays as it is if it reads a variable. -/
def scalarArgument (s : String) : String :=
  if Php.isRead s then s else Php.quote s

end CestExport.Keys
