import Avenger.Native

/-!
# Values

What expressions evaluate to.  Teams and functions are shared: a value only names the
place in the heap where one is kept, and two of them are the same value if they name the
same place.
-/

namespace Avenger

/-- The place of a scope in the heap. -/
structure ScopeId where
  index : Nat
  deriving DecidableEq

/-- The place of a team in the heap. -/
structure TeamId where
  index : Nat
  deriving DecidableEq

/-- The place of a function in the heap. -/
structure RoutineId where
  index : Nat
  deriving DecidableEq

/-- Values. -/
inductive Value where
  | null
  | number (value : Float)
  | boolean (value : Bool)
  | text (value : String)
  | team (id : TeamId)
  | routine (id : RoutineId)
  /-- A native function, as installed at one time; each installation makes new ones. -/
  | native (function : Native) (installation : Nat)
  /-- What a program evaluates to that an `endGame` outside of any loop has stopped. -/
  | stopped

namespace Value

/-- The kinds of values. -/
inductive Kind where
  | null
  | number
  | boolean
  | text
  | team
  | routine
  | native
  | stopped
  deriving DecidableEq

/-- The name of a kind in messages. -/
def Kind.label : Kind → String
  | null => "null"
  | number => "number"
  | boolean => "boolean"
  | text => "string"
  | team => "array"
  | routine => "function"
  | native => "native-fn"
  | stopped => "break"

def kind : Value → Kind
  | null => .null
  | number _ => .number
  | boolean _ => .boolean
  | text _ => .text
  | team _ => .team
  | routine _ => .routine
  | native .. => .native
  | stopped => .stopped

/-- Whether two values are the same.  Numbers compare as doubles do, so that a NaN differs
from itself and both zeros are one. -/
def same : Value → Value → Bool
  | null, null => true
  | number left, number right => left == right
  | boolean left, boolean right => left == right
  | text left, text right => left == right
  | team left, team right => left == right
  | routine left, routine right => left == right
  | native left installation, native right installation' =>
      left == right && installation == installation'
  | stopped, stopped => true
  | _, _ => false

/-- The truth of a condition.  Only numbers and truth values can be one. -/
def truth? : Value → Option Bool
  | boolean value => some value
  | number value => some (value != 0)
  | _ => none

end Value

end Avenger
