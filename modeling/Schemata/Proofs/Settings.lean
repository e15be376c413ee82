import Schemata.Proofs.Documents
import Schemata.Proofs.Marking
import Schemata.Proofs.Written

set_option autoImplicit false

/-!
Which tables describe a configuration. Under each of the two known keys stands one of the words for it, and
whatever stands under any other key does not count. The first entry that offends against this is reported; where
none does, each field is the word that was given or its default, in whatever order the entries stand. A value that
cannot be asked for its fingerprint lets that fault through instead of being reported, and so does one that cannot be
written.
-/

namespace Schemata

namespace Config

-- The words that may stand under a known key.
def choices? (name : String) : Option (List String) :=
  if name = keyOrderKey then some (KeyOrder.all.map KeyOrder.text)
  else if name = missingRequiredKey then some (MissingRequired.all.map MissingRequired.text)
  else none

-- The word that a configuration has for a known key.
def word? (config : Config) (name : String) : Option String :=
  if name = keyOrderKey then some config.keyOrder.text
  else if name = missingRequiredKey then some config.missingRequired.text
  else none

-- What becomes of a configuration at one entry.
inductive Takes (config : Config) (name : String) (value : Value) : Except ConfigError Config → Prop where
  | unknown (foreign : choices? name = none) : Takes config name value (.ok config)
  | chosen (choices : List String) (next : Config) (word : String) (known : choices? name = some choices)
      (among : word ∈ choices) (spelled : value.text? = some word) (here : next.word? name = some word)
      (others : ∀ other, other ≠ name → next.word? other = config.word? other) : Takes config name value (.ok next)
  | refused (choices : List String) (known : choices? name = some choices)
      (different : ∀ choice ∈ choices, value.text? ≠ some choice) :
      Takes config name value (.error (refuse name value choices))

end Config

namespace Config

def named (entry : Value × Value) : String × Value := (keyWord entry, entry.2)

-- A configuration has the words that are given, and the defaults for keys that are absent.
structure Follows (config : Config) (entries : List (Value × Value)) : Prop where
  given : ∀ entry ∈ entries, (choices? (keyWord entry)).isSome → entry.2.text? = config.word? (keyWord entry)
  absent : ∀ name, (∀ entry ∈ entries, keyWord entry ≠ name) → config.word? name = ({} : Config).word? name

end Config
end Schemata
