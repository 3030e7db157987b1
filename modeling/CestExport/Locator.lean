import CestExport.Failure
import CestExport.Php.Literal
import CestExport.Text.Cut

/-!
# Locators

A locator `strategy=value`, or a bare XPath that begins with `//`, becomes an
expression that finds an element.  The choices of a list are given in the same
way, a text without `=` being the label of the choice.
-/

namespace CestExport

/-- Locator strategies, and the methods that make the expressions. -/
def Locator.methods : List (String × String) :=
  [("id", "id"), ("name", "name"), ("css", "cssSelector"), ("xpath", "xpath"),
    ("link", "linkText"), ("linkText", "linkText"), ("partialLinkText", "partialLinkText")]

/-- The expression for a method and its argument. -/
def Locator.by (method value : String) : String :=
  s!"WebDriverBy::{method}({Php.quote value})"

/-- The expression for a locator. -/
def Locator.resolve (locator : String) : Except Failure String :=
  if locator = "" then .error .locatorEmpty
  else if Text.beginsWith "//" locator then .ok (Locator.by "xpath" locator)
  else
    match Text.cutFirst '=' locator with
    | none => .error (.locatorShape locator)
    | some (strategy, value) =>
      match Locator.methods.lookup strategy with
      | none => .error (.locatorStrategy strategy)
      | some method => .ok (Locator.by method value)

/-- A text as an XPath string; one with both kinds of quotes is put together from parts. -/
def XPath.literal (s : String) : String :=
  if !s.toList.contains '\'' then s!"'{s}'"
  else if !s.toList.contains '"' then s!"\"{s}\""
  else
    let parts := (Text.split (· == '\'') s).map fun part => s!"'{part}'"
    "concat(" ++ ", \"'\", ".intercalate parts ++ ")"

/-- The strategy and value of a choice. -/
def Choice.split (choice : String) : String × String :=
  (Text.cutFirst '=' choice).getD ("label", choice)

/-- The XPath of the option at an index, counted from zero. -/
def Choice.atIndex (choice value : String) : Except Failure String :=
  if Text.isDigits (Text.trim value) then do
    let n ← (Number.readWhole value).mapError .whole
    let place ← (Number.showWhole (n + 1)).mapError .whole
    .ok s!"(.//option)[{place}]"
  else .error (.choiceIndex choice)

/-- The XPath of a choice. -/
def Choice.path (choice : String) : Except Failure String :=
  let (strategy, value) := Choice.split choice
  if strategy = "label" then .ok s!".//option[. = {XPath.literal value}]"
  else if strategy = "value" then .ok s!".//option[@value = {XPath.literal value}]"
  else if strategy = "id" then .ok s!".//option[@id = {XPath.literal value}]"
  else if strategy = "index" then Choice.atIndex choice value
  else .error (.choiceStrategy strategy)

/-- The expression for a choice. -/
def Choice.resolve (choice : String) : Except Failure String :=
  if choice = "" then .error .choiceEmpty
  else (Choice.path choice).map (Locator.by "xpath")

end CestExport
