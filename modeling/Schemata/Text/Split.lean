set_option autoImplicit false

/-!
Text cut at every occurrence of a character. Pieces may be empty, and there is one more of them than
there are separators.
-/

namespace Schemata.Text

def pieces (separator : Char) : List Char → List (List Char)
  | [] => [[]]
  | c :: rest =>
    if c = separator then [] :: pieces separator rest
    else
      match pieces separator rest with
      | [] => [[c]]
      | piece :: others => (c :: piece) :: others

def split (separator : Char) (text : String) : List String :=
  (pieces separator text.toList).map String.ofList

end Schemata.Text
