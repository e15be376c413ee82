set_option autoImplicit false

/-!
Text that stays on one line. A backslash marks every escape, so the escaped text determines the
text; a title is also kept apart from the quotes around it.
-/

namespace Schemata.Text

-- A character inside a line: the backslash, the line feed, the carriage return and the tab are escaped.
def lineChar (c : Char) : List Char :=
  if c = '\\' then ['\\', '\\']
  else if c = '\n' then ['\\', 'n']
  else if c = '\r' then ['\\', 'r']
  else if c = '\t' then ['\\', 't']
  else [c]

-- A character inside double quotes on a line.
def titleChar (c : Char) : List Char :=
  if c = '"' then ['\\', '"'] else lineChar c

def lineText (text : String) : String := String.ofList (text.toList.flatMap lineChar)

def titleText (text : String) : String := String.ofList (text.toList.flatMap titleChar)

end Schemata.Text
