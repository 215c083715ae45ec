/-
  Dates and times of TOML: a date, a time, or both, and with both an offset. Seconds may be left
  out when reading and are always written.
-/
import Frontmatter.Number.Basic

namespace Frontmatter.Toml

/-- A day. -/
structure Date where
  year : Nat
  month : Nat
  day : Nat
deriving DecidableEq, Repr, Inhabited

/-- A time of day. The second may be 60, for a leap second. -/
structure Time where
  hour : Nat
  minute : Nat
  second : Nat
  nanosecond : Nat
deriving DecidableEq, Repr, Inhabited

/-- The distance from universal time, in minutes unless it is given as universal time itself. -/
inductive Offset where
  | universal
  | minutes (n : Int)
deriving DecidableEq, Repr, Inhabited

/-- A date, a time or both. -/
inductive Datetime where
  | date (d : Date)
  | time (t : Time)
  | both (d : Date) (t : Time) (offset : Option Offset)
deriving DecidableEq, Repr, Inhabited

/-! ## Text -/

/-- The last `width` digits of `n`. -/
def padded : (width n : Nat) → List Char
  | 0, _ => []
  | w + 1, n => padded w (n / 10) ++ [(n % 10).digitChar]

/-- The year, the month and the day with dashes. -/
def Date.text (d : Date) : List Char :=
  padded 4 d.year ++ '-' :: padded 2 d.month ++ '-' :: padded 2 d.day

/-- The fraction of a second without zeros at its end; nothing for a whole second. -/
def fractionText (nanosecond : Nat) : List Char :=
  if nanosecond = 0 then []
  else '.' :: ((padded 9 nanosecond).reverse.dropWhile (· == '0')).reverse

/-- The time with colons. -/
def Time.text (t : Time) : List Char :=
  padded 2 t.hour ++ ':' :: padded 2 t.minute ++ ':' :: padded 2 t.second
    ++ fractionText t.nanosecond

/-- `Z`, or the signed hours and minutes. -/
def Offset.text : Offset → List Char
  | .universal => ['Z']
  | .minutes n =>
    (if n < 0 then '-' else '+') :: padded 2 (n.natAbs / 60) ++ ':' :: padded 2 (n.natAbs % 60)

/-- The text of a date or time, with `T` between the two. -/
def Datetime.text : Datetime → List Char
  | .date d => d.text
  | .time t => t.text
  | .both d t offset => d.text ++ 'T' :: t.text ++ (offset.map Offset.text).getD []

/-! ## Reading -/

/-- The number that exactly `width` digits write, and the rest. -/
def takeNumber : (width : Nat) → List Char → Option (Nat × List Char)
  | 0, cs => some (0, cs)
  | w + 1, c :: rest => do
    if c.isDigit then
      let (n, rest) ← takeNumber w rest
      some ((c.toNat - 48) * Nat.pow 10 w + n, rest)
    else none
  | _ + 1, [] => none

/-- The rest after a character that must come next. -/
def expect (c : Char) : List Char → Option (List Char)
  | d :: rest => if c = d then some rest else none
  | [] => none

/-- Whether February has a 29th day. -/
def isLeapYear (year : Nat) : Bool := year % 4 == 0 && (year % 100 != 0 || year % 400 == 0)

/-- How many days a month has. -/
def daysIn (year month : Nat) : Nat :=
  if month = 2 then if isLeapYear year then 29 else 28
  else if month = 4 ∨ month = 6 ∨ month = 9 ∨ month = 11 then 30
  else 31

/-- Reads a date. -/
def takeDate (cs : List Char) : Option (Date × List Char) := do
  let (year, cs) ← takeNumber 4 cs
  let (month, cs) ← takeNumber 2 (← expect '-' cs)
  let (day, cs) ← takeNumber 2 (← expect '-' cs)
  if 1 ≤ month ∧ month ≤ 12 ∧ 1 ≤ day ∧ day ≤ daysIn year month then some (⟨year, month, day⟩, cs)
  else none

/-- Reads the fraction of a second, if there is one. Digits after the ninth are dropped. -/
def takeFraction (cs : List Char) : Option (Nat × List Char) :=
  match cs with
  | '.' :: rest =>
    let digits := rest.takeWhile Char.isDigit
    if digits.isEmpty then none
    else
      let nine := (digits ++ List.replicate 9 '0').take 9
      (takeNumber 9 nine).map fun (n, _) => (n, rest.drop digits.length)
  | cs => some (0, cs)

/-- Reads a time of day. -/
def takeTime (cs : List Char) : Option (Time × List Char) := do
  let (hour, cs) ← takeNumber 2 cs
  let (minute, cs) ← takeNumber 2 (← expect ':' cs)
  let (second, nanosecond, cs) ← match cs with
    | ':' :: rest => do
      let (second, cs) ← takeNumber 2 rest
      let (nanosecond, cs) ← takeFraction cs
      some (second, nanosecond, cs)
    | cs => some (0, 0, cs)
  if hour ≤ 23 ∧ minute ≤ 59 ∧ second ≤ 60 then some (⟨hour, minute, second, nanosecond⟩, cs)
  else none

/-- Reads an offset, up to the end. -/
def offset? (cs : List Char) : Option (Option Offset) :=
  match cs with
  | [] => some none
  | ['Z'] | ['z'] => some (some .universal)
  | sign :: rest => do
    let (hour, cs) ← takeNumber 2 rest
    let (minute, cs) ← takeNumber 2 (← expect ':' cs)
    if cs.isEmpty ∧ hour ≤ 23 ∧ minute ≤ 59 then
      if sign = '+' then some (some (.minutes (60 * hour + minute)))
      else if sign = '-' then some (some (.minutes (-(60 * hour + minute : Nat))))
      else none
    else none

/-- The date or time that a text writes. -/
def Datetime.ofText? (cs : List Char) : Option Datetime :=
  match takeDate cs with
  | some (d, []) => some (.date d)
  | some (d, sep :: rest) => do
    if sep = 'T' ∨ sep = 't' ∨ sep = ' ' then
      let (t, rest) ← takeTime rest
      (offset? rest).map (.both d t)
    else none
  | none =>
    match takeTime cs with
    | some (t, []) => some (.time t)
    | _ => none

end Frontmatter.Toml
