/-
  What a scalar means. A plain scalar is null, a truth value or a number if it reads like one, in
  this order; any other scalar is a string. A fraction beyond the numbers is kept as a string.
-/
import Frontmatter.Yaml.Token
import Frontmatter.Yaml.Base64
import Frontmatter.Record.Json.Numeral
import Frontmatter.Record.Value
import Frontmatter.Text.Range
import Frontmatter.Text.CodePoint

namespace Frontmatter.Yaml

/-! ## Tags -/

/-- What the tag of a scalar asks for. -/
inductive TagKind where
  | untagged
  | null
  | string
  /-- The tag `!`: the scalar is a string whatever it reads like. -/
  | nonSpecific
  | binary
  /-- A tag for values of another kind. -/
  | otherKind
  | unknown
deriving DecidableEq, Repr

/-- The names of tags that a scalar may not bear. -/
def otherKinds : List String := ["int", "float", "bool", "timestamp", "seq", "map"]

/-- What a tag asks for, given in full. The local form of a known tag counts as the tag. -/
def TagKind.of : Option String → TagKind
  | none => .untagged
  | some "!" => .nonSpecific
  | some tag =>
    let named (name : String) : Bool := tag == "tag:yaml.org,2002:" ++ name || tag == "!" ++ name
    if named "null" then .null
    else if named "str" then .string
    else if named "binary" then .binary
    else if otherKinds.any named then .otherKind
    else .unknown

/-! ## Words -/

/-- The text in lower case, ASCII letters only. -/
def lower (cs : List Char) : List Char := cs.map Char.toLower

/-- Whether a plain scalar is null. -/
def isNullWord (cs : List Char) : Bool :=
  cs.isEmpty || cs == ['~'] || lower cs == ['n', 'u', 'l', 'l']

/-- The truth value that a word names. -/
def truth? (cs : List Char) : Option Bool :=
  let w := String.ofList (lower cs)
  if ["y", "yes", "true", "on"].contains w then some true
  else if ["n", "no", "false", "off"].contains w then some false
  else none

/-! ## Numbers -/

/-- Splits off a sign; true for a minus. -/
def takeSign : List Char → Bool × List Char
  | '-' :: rest => (true, rest)
  | '+' :: rest => (false, rest)
  | cs => (false, cs)

/-- The number that digits of a base write, underscores aside; none without any digit. -/
def digits? (base : Nat) (cs : List Char) : Option Nat :=
  let ds := cs.filter (· != '_')
  if ds.isEmpty then none
  else ds.foldlM (fun n c => do
    let d ← Text.hexValue? c
    if d < base then some (base * n + d) else none) 0

/-- The whole number that a word writes: decimal, or in the base of its mark. With a minus in front
it has at most 63 bits and a sign, else at most 64 bits. -/
def integer? (cs : List Char) : Option Int := do
  let (negative, body) := takeSign cs
  let n ← match body with
    | '0' :: m :: rest =>
      if m == 'x' || m == 'X' then digits? 16 rest
      else if m == 'o' || m == 'O' then digits? 8 rest
      else if m == 'b' || m == 'B' then digits? 2 rest
      else digits? 10 body
    | _ => digits? 10 body
  if negative then (if n ≤ Number.signedBound then some (-(n : Int)) else none)
  else if n < Number.unsignedBound then some n else none

/-- What a word that reads like a fraction stands for. -/
inductive Fraction where
  | finite (x : Binary64)
  | infinite (negative : Bool)
  | notANumber

/-- Reads the digits of a fraction, with a point anywhere among them, and the exponent. -/
def decimal? (negative : Bool) (cs : List Char) : Option Fraction := do
  let (whole, ⟨rest, _⟩) := Json.takeDigits cs
  let (fraction, rest) := match rest with
    | '.' :: after => let (ds, r) := Json.takeDigits after; (ds, r.1)
    | _ => ([], rest)
  if whole.isEmpty && fraction.isEmpty then none
  else
    let (e, rest) ← match rest with
      | c :: after =>
        if c == 'e' || c == 'E' then (Json.takeExponent after).map fun (e, r) => (e, r.1)
        else some (0, rest)
      | [] => some (0, rest)
    if !rest.isEmpty then none
    else
      match Binary64.ofDecimal negative (Json.valueOf (whole ++ fraction))
          (e - fraction.length) with
      | some x => some (.finite x)
      | none => some (.infinite negative)

/-- The fraction that a word writes. -/
def fraction? (cs : List Char) : Option Fraction :=
  let (negative, body) := takeSign cs
  let w := String.ofList (lower body)
  if ["inf", "infinity", ".inf"].contains w then some (.infinite negative)
  else if ["nan", ".nan"].contains w then some .notANumber
  else decimal? negative body

/-- The value of a fraction. Records hold finite numbers only, so others become words. -/
def Fraction.value : Fraction → Value
  | .finite x => .num (.frac x)
  | .infinite true => .str "-.inf"
  | .infinite false => .str ".inf"
  | .notANumber => .str ".nan"

/-- The text without blanks at its ends. -/
def trim (cs : List Char) : List Char :=
  ((cs.dropWhile Text.isBlank).reverse.dropWhile Text.isBlank).reverse

/-- The value of a plain scalar without a tag. -/
def plainValue (s : String) : Value :=
  let cs := s.toList
  let word := trim cs
  if isNullWord cs then .null
  else
    match truth? word with
    | some b => .bool b
    | none =>
      match integer? word with
      | some n => .num (.int n)
      | none =>
        match fraction? word with
        | some x => x.value
        | none => .str s

/-- The value of a scalar; none if its tag does not allow one. -/
def scalarValue (tag : Option String) (style : Style) (s : String) : Option Value :=
  match TagKind.of tag with
  | .null => some .null
  | .binary => (Base64.text? s).map .str
  | .otherKind => none
  | .nonSpecific => some (.str s)
  | .untagged | .string | .unknown => some (if style = .plain then plainValue s else .str s)

/-- The text of a scalar as a key: as it is written. Null is no key. -/
def keyText (tag : Option String) (style : Style) (s : String) : Option String :=
  match TagKind.of tag with
  | .null | .otherKind => none
  | .binary => Base64.text? s
  | .string => some s
  | .nonSpecific | .untagged | .unknown =>
    if style = .plain && isNullWord s.toList then none else some s

end Frontmatter.Yaml
