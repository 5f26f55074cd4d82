/-!
# Native functions

The functions that every global scope starts with, by name.
-/

namespace Avenger

/-- The native functions. -/
inductive Native where
  | vision
  | assertEqual
  | typeOf
  | time
  | rand
  | abs
  | floor
  | ceil
  | round
  | sqrt
  | sin
  | cos
  | tan
  | iSin
  | iCos
  | iTan
  | min
  | max
  | pow
  | len
  | charAt
  | concat
  | toLowerCase
  | toUpperCase
  | trim
  | indexOf
  | subStr
  | parseInt
  deriving DecidableEq

namespace Native

/-- The name that a native function is installed under. -/
def name : Native → String
  | vision => "vision"
  | assertEqual => "assertEqual"
  | typeOf => "typeOf"
  | time => "time"
  | rand => "rand"
  | abs => "abs"
  | floor => "floor"
  | ceil => "ceil"
  | round => "round"
  | sqrt => "sqrt"
  | sin => "sin"
  | cos => "cos"
  | tan => "tan"
  | iSin => "iSin"
  | iCos => "iCos"
  | iTan => "iTan"
  | min => "min"
  | max => "max"
  | pow => "pow"
  | len => "len"
  | charAt => "charAt"
  | concat => "concat"
  | toLowerCase => "toLowerCase"
  | toUpperCase => "toUpperCase"
  | trim => "trim"
  | indexOf => "indexOf"
  | subStr => "subStr"
  | parseInt => "parseInt"

/-- Every native function, in the order of installation. -/
def all : List Native :=
  [vision, assertEqual, typeOf, time, rand, abs, floor, ceil, round, sqrt, sin, cos, tan,
   iSin, iCos, iTan, min, max, pow, len, charAt, concat, toLowerCase, toUpperCase, trim,
   indexOf, subStr, parseInt]

/-- The least and the greatest number of arguments; without a greatest any number from the
least on will do. -/
def arity : Native → Nat × Option Nat
  | vision => (0, none)
  | time | rand => (0, some 0)
  | typeOf | abs | floor | ceil | round | sqrt | sin | cos | tan | iSin | iCos | iTan | len
  | toLowerCase | toUpperCase | trim => (1, some 1)
  | assertEqual | min | max | pow | charAt => (2, some 2)
  | concat | indexOf => (2, some 3)
  | subStr => (3, some 3)
  | parseInt => (1, some 2)

end Native

end Avenger
