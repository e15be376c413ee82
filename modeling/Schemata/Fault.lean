import Schemata.Form.Display

set_option autoImplicit false

/-!
Why an operation on values fails. Nothing is checked when a node is made, so what a field holds is
found out by the first operation that cannot use it; a fault names the use and what was found.
-/

namespace Schemata

inductive Fault where
  /-- A value that is none of the variants a question is about. -/
  | outsideUnion (value : Value)
  /-- A value was to be written that shows a number with too many digits. -/
  | tooManyDigits
  | noAttribute (typeName name : String)
  | noTypeAttribute (typeName name : String)
  /-- A vocabulary is asked for a word that it does not have, or a type for what only some types know. -/
  | notFound (name : String)
  | readOnly (field : String)
  /-- A member of an object that takes no attributes. -/
  | readOnlyMember (typeName name : String)
  | notWritable (typeName name : String)
  | fixedWord (name : String)
  /-- The table of attributes of a holder cannot be replaced. -/
  | readOnlyAttributes
  /-- Only a type can be the type of an object, and only a table its attributes. -/
  | notType (typeName : String)
  | notTable (typeName : String)
  | notCallable (typeName : String)
  | notIterable (typeName : String)
  | notSubscriptable (typeName : String)
  | typeNotSubscriptable (typeName : String)
  /-- A type that can be given parameters has all of them. -/
  | notGeneric (typeName : String)
  | noItemAssignment (typeName : String)
  | noLength (typeName : String)
  | outOfRange (position : String)
  | hugeIndex
  | wrongIndex (sequence typeName : String)
  | wrongTextIndex (typeName : String)
  | noKey (key : Value)
  | nameNotText
  | unhashable (typeName : String)
  /-- What a frozen table was given for a fingerprint is no number. -/
  | wrongFingerprint
  | unordered (left right : String)
  /-- What no text can be added to. -/
  | notAdded (typeName : String)
  | itemNotText (position : Nat) (typeName : String)
  | notPair (position : Nat)
  | pairLength (position length : Nat)
  | unexpectedArgument (callee name : String)
  | missingArguments (callee : String) (byNameOnly : Bool) (names : List String)
  /-- An object that is elsewhere was to be looked into. -/
  | unseen

-- How much of a value the message of `outsideUnion` shows.
def shownCharacters : Nat := 100

-- A text cut to its first characters, with dots when something is left out.
def cutText (limit : Nat) (text : String) : String :=
  let cs := text.toList
  if limit < cs.length then String.ofList (cs.take limit) ++ dots else text

-- The object that a message is about.
def objectOf (typeName : String) : String := "'" ++ typeName ++ "' object"

def Fault.message : Fault → String
  | .outsideUnion value =>
    "Expected code to be unreachable, but got: " ++ cutText shownCharacters value.display
  | .tooManyDigits =>
    "Exceeds the limit (" ++ toString digitLimit ++ " digits) for integer string conversion; " ++
      "use sys.set_int_max_str_digits() to increase the limit"
  | .noAttribute typeName name => objectOf typeName ++ " has no attribute '" ++ name ++ "'"
  | .noTypeAttribute typeName name => "type object '" ++ typeName ++ "' has no attribute '" ++ name ++ "'"
  | .notFound name => name
  | .readOnly field => "cannot assign to field " ++ Text.quoted field
  | .readOnlyMember typeName name => objectOf typeName ++ " attribute '" ++ name ++ "' is read-only"
  | .notWritable typeName name =>
    "attribute '" ++ name ++ "' of '" ++ typeName ++ "' objects is not writable"
  | .fixedWord name => "<enum 'Enum'> cannot set attribute '" ++ name ++ "'"
  | .readOnlyAttributes => "readonly attribute"
  | .notType typeName => "__class__ must be set to a class, not " ++ objectOf typeName
  | .notTable typeName => "__dict__ must be set to a dictionary, not a '" ++ typeName ++ "'"
  | .notCallable typeName => objectOf typeName ++ " is not callable"
  | .notIterable typeName => objectOf typeName ++ " is not iterable"
  | .notSubscriptable typeName => objectOf typeName ++ " is not subscriptable"
  | .typeNotSubscriptable typeName => "type '" ++ typeName ++ "' is not subscriptable"
  | .notGeneric typeName => "<class '" ++ typeName ++ "'> is not a generic class"
  | .noItemAssignment typeName => objectOf typeName ++ " does not support item assignment"
  | .noLength typeName => "object of type '" ++ typeName ++ "' has no len()"
  | .outOfRange position => position ++ " index out of range"
  | .hugeIndex => "cannot fit 'int' into an index-sized integer"
  | .wrongIndex sequence typeName => sequence ++ " indices must be integers or slices, not " ++ typeName
  | .wrongTextIndex typeName => "string indices must be integers, not '" ++ typeName ++ "'"
  | .noKey key => key.display
  | .nameNotText => "keywords must be strings"
  | .unhashable typeName => "unhashable type: '" ++ typeName ++ "'"
  | .wrongFingerprint => "__hash__ method should return an integer"
  | .unordered left right =>
    "'<' not supported between instances of '" ++ left ++ "' and '" ++ right ++ "'"
  | .notAdded typeName =>
    if typeName = Shape.tuple.typeName then "can only concatenate tuple (not \"str\") to tuple"
    else "unsupported operand type(s) for +=: '" ++ typeName ++ "' and 'str'"
  | .itemNotText position typeName =>
    "sequence item " ++ toString position ++ ": expected str instance, " ++ typeName ++ " found"
  | .notPair position =>
    "cannot convert dictionary update sequence element #" ++ toString position ++ " to a sequence"
  | .pairLength position length =>
    "dictionary update sequence element #" ++ toString position ++ " has length " ++ toString length
      ++ "; 2 is required"
  | .unexpectedArgument callee name =>
    callee ++ "() got an unexpected keyword argument '" ++ name ++ "'"
  | .missingArguments callee byNameOnly names =>
    callee ++ "() missing " ++ toString names.length ++ " required "
      ++ (if byNameOnly then "keyword-only" else "positional")
      ++ (if names.length = 1 then " argument: " else " arguments: ")
      ++ " and ".intercalate (names.map Text.quoted)
  | .unseen => "an object of which nothing is shown"

/-- Whether nothing is there under a name that was asked for. -/
def Fault.isMissing : Fault → Bool
  | .noAttribute .. => true
  | .noTypeAttribute .. => true
  | .notFound _ => true
  | _ => false

/-- Whether a position was asked for that a sequence does not have. -/
def Fault.isBeyond : Fault → Bool
  | .outOfRange _ => true
  | .hugeIndex => true
  | _ => false

/-- The written form of a value, if it has one. -/
def Value.written (value : Value) : Except Fault String :=
  if value.isOverlong then .error .tooManyDigits else .ok value.display

-- What is printed of a value: a text as it is, a word by its name, and anything else as it is written.
def Value.print : Value → String
  | .scalar (.text s) => s
  | .scalar (.keyword k) => k.qualified
  | value => value.display

/-- The printed form of a value, if it has one. -/
def Value.printed (value : Value) : Except Fault String :=
  if value.isOverlong then .error .tooManyDigits else .ok value.print

/-- The fault of a value that is none of the variants; its message has to be written first. -/
def Value.outside (value : Value) : Fault := if value.isOverlong then .tooManyDigits else .outsideUnion value

def Fault.mapValues (see : Value → Value) : Fault → Fault
  | .outsideUnion value => (see value).outside
  | .noKey key => .noKey (see key)
  | fault => fault

end Schemata
