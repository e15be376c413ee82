set_option autoImplicit false

/-!
Reference tokens of JSON pointers (RFC 6901): a tilde is written `~0` and a slash `~1`, so that a
token holds no slash. A token is read in two passes, slashes first.
-/

namespace Schemata.Text

def tokenChar (c : Char) : List Char :=
  if c = '~' then ['~', '0'] else if c = '/' then ['~', '1'] else [c]

def escapeToken (text : String) : String := String.ofList (text.toList.flatMap tokenChar)

-- Every occurrence, from the left, of two characters in a row replaced by one.
def replacePair (first second replacement : Char) : List Char → List Char
  | [] => []
  | [c] => [c]
  | c :: d :: rest =>
    if c = first ∧ d = second then replacement :: replacePair first second replacement rest
    else c :: replacePair first second replacement (d :: rest)

def unescapeToken (token : String) : String :=
  String.ofList (replacePair '~' '0' '~' (replacePair '~' '1' '/' token.toList))

end Schemata.Text
