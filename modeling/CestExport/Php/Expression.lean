import CestExport.Php.Literal
import CestExport.Template

/-!
# Recorded texts as PHP expressions

Variables live in the array `$this->vars`.  A recorded text becomes the
concatenation of literals and reads of variables.
-/

namespace CestExport.Php

/-- How an expression that reads a variable begins. -/
def readMark : String := "$this->vars["

/-- The expression that reads a variable. -/
def read (name : String) : String :=
  readMark ++ quote name ++ "]"

/-- Whether an expression begins as a read does. -/
def isRead (expression : String) : Bool :=
  Text.beginsWith readMark expression

/-- A recorded text as an expression. -/
def text (s : String) : String :=
  match Template.collect quote read s with
  | [] => quote ""
  | operands => " . ".intercalate operands

end CestExport.Php
