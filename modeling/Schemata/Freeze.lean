import Schemata.Entries
import Schemata.Read

set_option autoImplicit false

/-!
Deep copies. Freezing turns every list and table of a value into a tuple and a frozen table,
thawing turns every tuple and frozen table into a list and a table; the copies are held by nobody
yet. Both go through containers only: a record or a word of a vocabulary is passed on as it is. A
frozen table that shows something else is copied by what it tells, and stops the copying if it cannot
tell it.
-/

namespace Schemata

-- The entries of what is told, each key once.
def Value.toldEntries (value : Value) : List (Value × Value) := entriesOf (value.told.toOption.getD [])

mutual
def Value.freeze : Value → Value
  | .list _ items => .tuple none (Value.freezeItems items)
  | .tuple _ items => .tuple none (Value.freezeItems items)
  | .table _ entries => .frozen none (Value.freezeEntries entries)
  | .frozen _ entries => .frozen none (Value.freezeEntries entries)
  | .showing _ other => if other.isMapping then other.freeze else .frozen none other.toldEntries
  | value => value
def Value.freezeItems : List Value → List Value
  | [] => []
  | value :: rest => value.freeze :: Value.freezeItems rest
def Value.freezeEntries : List (Value × Value) → List (Value × Value)
  | [] => []
  | (key, value) :: rest => (key, value.freeze) :: Value.freezeEntries rest
end

mutual
def Value.thaw : Value → Value
  | .list _ items => .list none (Value.thawItems items)
  | .tuple _ items => .list none (Value.thawItems items)
  | .table _ entries => .table none (Value.thawEntries entries)
  | .frozen _ entries => .table none (Value.thawEntries entries)
  | .showing _ other => if other.isMapping then other.thaw else .table none other.toldEntries
  | value => value
def Value.thawItems : List Value → List Value
  | [] => []
  | value :: rest => value.thaw :: Value.thawItems rest
def Value.thawEntries : List (Value × Value) → List (Value × Value)
  | [] => []
  | (key, value) :: rest => (key, value.thaw) :: Value.thawEntries rest
end

mutual
/-- Whether all that is copied of a value can be copied; the first fault is reported. -/
def Value.checkCopy : Value → Except Fault Unit
  | .list _ items => Value.checkItems items
  | .tuple _ items => Value.checkItems items
  | .table _ entries => Value.checkEntries entries
  | .frozen _ entries => Value.checkEntries entries
  | .showing _ other => if other.isMapping then other.checkCopy else other.told.map fun _ => ()
  | _ => .ok ()
def Value.checkItems : List Value → Except Fault Unit
  | [] => .ok ()
  | value :: rest => do
    value.checkCopy
    Value.checkItems rest
def Value.checkEntries : List (Value × Value) → Except Fault Unit
  | [] => .ok ()
  | (_, value) :: rest => do
    value.checkCopy
    Value.checkEntries rest
end

namespace Value

def frozenCopy (value : Value) : Except Fault Value := value.checkCopy.map fun _ => value.freeze

def thawedCopy (value : Value) : Except Fault Value := value.checkCopy.map fun _ => value.thaw

end Value
end Schemata
