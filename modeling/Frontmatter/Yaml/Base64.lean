/-
  Binary scalars: base 64 with padding, blanks aside, that encodes UTF-8 text.
-/

namespace Frontmatter.Yaml.Base64

/-- The six bits that a letter stands for. -/
def bits? (c : Char) : Option Nat :=
  if 'A' ≤ c ∧ c ≤ 'Z' then some (c.toNat - 65)
  else if 'a' ≤ c ∧ c ≤ 'z' then some (c.toNat - 71)
  else if '0' ≤ c ∧ c ≤ '9' then some (c.toNat + 4)
  else if c = '+' then some 62
  else if c = '/' then some 63
  else none

/-- The bytes that groups of four letters stand for. Only the last group may be padded, and the
bits that its padding cuts off are zero. -/
def bytes? : List Char → Option (List Nat)
  | [] => some []
  | [a, b, '=', '='] => do
    let n := (← bits? a) * 64 + (← bits? b)
    if n % 16 = 0 then some [n / 16] else none
  | [a, b, c, '='] => do
    let n := ((← bits? a) * 64 + (← bits? b)) * 64 + (← bits? c)
    if n % 4 = 0 then some [n / 1024, n / 4 % 256] else none
  | a :: b :: c :: d :: rest => do
    let n := (((← bits? a) * 64 + (← bits? b)) * 64 + (← bits? c)) * 64 + (← bits? d)
    let more ← bytes? rest
    some (n / 65536 :: n / 256 % 256 :: n % 256 :: more)
  | _ => none

/-- The text that a binary scalar encodes. -/
def text? (s : String) : Option String := do
  let bytes ← bytes? (s.toList.filter (!·.isWhitespace))
  String.fromUTF8? ⟨(bytes.map UInt8.ofNat).toArray⟩

end Frontmatter.Yaml.Base64
