/-!
# Documents

The tree that a JSON or a TOML text stands for.  It keeps what the types of
this library can be read from.  Of every other leaf it only keeps that it is
there: such a leaf may stand in a field that nobody asks for, and is refused
in every other place.
-/

namespace AccessPolicy

inductive Document where
  | null
  | boolean (value : Bool)
  | integer (value : Int)
  | text (value : String)
  | array (items : List Document)
  /-- Named fields in their written order.  A name may occur several times. -/
  | table (fields : List (String × Document))
  /-- A date, a time of day, or both. -/
  | moment
  /-- A well-formed leaf that no type is read from: a numeral with a fraction or
  an exponent, or a text with an escape for one half of a surrogate pair. -/
  | unread
  deriving Inhabited

end AccessPolicy
