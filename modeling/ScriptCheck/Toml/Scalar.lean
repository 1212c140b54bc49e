import ScriptCheck.Toml.Value

/-! # Unquoted Values of TOML

  Numbers, times and the two truth values are written without quotes. Each form
  has its own grammar and none is a prefix of another's, so a text is simply
  tried against all of them.

  Numbers may have any size here. Of integers in groups only the first group and
  the ends of the others are examined; whether the whole stands for a number is
  another question, which only whoever looks at the value has to ask. Times are
  checked against the calendar and the clock, where a minute may have a leap
  second and the seconds may be left out.
-/

namespace ScriptCheck.Toml

/-! ## Section 1: Digits -/

/-- The groups of a text, between which underscores stand. -/
def groups : List Char → List (List Char)
  | [] => [[]]
  | '_' :: rest => [] :: groups rest
  | c :: rest =>
    match groups rest with
    | [] => [[c]]
    | group :: more => (c :: group) :: more

/-- Digits in groups: underscores stand between digits only. -/
def areDigits (isDigit : Char → Bool) (text : List Char) : Bool :=
  (groups text).all fun group => !group.isEmpty && group.all isDigit

def isHexDigit (c : Char) : Bool :=
  c.isDigit || ('a' ≤ c && c ≤ 'f') || ('A' ≤ c && c ≤ 'F')

def digitValue (c : Char) : Nat :=
  if c.isDigit then c.toNat - 48
  else if 'a' ≤ c then c.toNat - 87
  else c.toNat - 55

/-- The values of digits in groups, one by one. -/
def digitValues (text : List Char) : List Nat := (text.filter (· != '_')).map digitValue

def digitsValue (base : Nat) (text : List Char) : Nat := (digitValues text).foldl (base * · + ·) 0

/-- Decimal digits in groups, without a leading zero unless it is all there is. -/
def isDecimal (text : List Char) : Bool :=
  areDigits Char.isDigit text && (text.length == 1 || text.head? != some '0')

def unsigned : List Char → List Char
  | '+' :: rest => rest
  | '-' :: rest => rest
  | text => text

/-- The value of decimal digits in groups, with the sign in front of them. -/
def signedValue (text : List Char) : Int :=
  if text.head? = some '-' then -(digitsValue 10 (unsigned text))
  else digitsValue 10 (unsigned text)

/-! ## Section 2: Numbers -/

/-- What the digits after the mark of a base stand for. There may be none, but then no value
    either. -/
def based? (base : Nat) (isDigit : Char → Bool) (digits : List Char) : Option Value :=
  if digits.isEmpty then some .valueless
  else if areDigits isDigit digits then some (.integer (digitsValue base digits))
  else none

def isFloatMark (c : Char) : Bool := c == '.' || c == 'e' || c == 'E'

/-- Several groups that are taken for an integer: the first is of decimal digits without a leading
    zero, each of the others begins and, but for the last, ends with a digit of any notation, and
    nothing in them makes a float. -/
def areIntegerGroups (text : List Char) : Bool :=
  match groups text with
  | first :: more =>
    isDecimal first && first.head? != some '0' && !more.isEmpty
      && more.all (·.head?.any isHexDigit)
      && more.dropLast.all (·.getLast?.any isHexDigit)
      && !more.any (·.any isFloatMark)
  | [] => false

/-- An integer: in one of three bases with a mark, or decimal with or without a sign. -/
def integer? : List Char → Option Value
  | '0' :: 'x' :: digits => based? 16 isHexDigit digits
  | '0' :: 'o' :: digits => based? 8 (fun c => '0' ≤ c && c ≤ '7') digits
  | '0' :: 'b' :: digits => based? 2 (fun c => c == '0' || c == '1') digits
  | text =>
    if isDecimal (unsigned text) then some (.integer (signedValue text))
    else if areIntegerGroups (unsigned text) then some .valueless
    else none

/-- A text before and after the first of its characters that is such a mark. The mark itself is
    left out; without one there is nothing after. -/
def cutAt (isMark : Char → Bool) (text : List Char) : List Char × Option (List Char) :=
  match text.dropWhile (!isMark ·) with
  | [] => (text, none)
  | _ :: after => (text.takeWhile (!isMark ·), some after)

/-- A float: an integer part with a fraction, an exponent or both, or one of two names. -/
def float? (text : List Char) : Option Value :=
  let text := unsigned text
  if text = ['i', 'n', 'f'] ∨ text = ['n', 'a', 'n'] then some (.float none)
  else
    let (mantissa, exponent) := cutAt (fun c => c == 'e' || c == 'E') text
    let (whole, fraction) := cutAt (· == '.') mantissa
    if isDecimal whole
        && fraction.all (areDigits Char.isDigit)
        && exponent.all (areDigits Char.isDigit <| unsigned ·)
        && (fraction.isSome || exponent.isSome) then
      some (.float (some (.ofDigits (digitValues whole) (digitValues (fraction.getD []))
        (signedValue (exponent.getD [])))))
    else none

/-! ## Section 3: Times -/

/-- The number that exactly this many digits make. -/
def fixedDigits? (count : Nat) (text : List Char) : Option Nat :=
  if text.length = count ∧ text.all Char.isDigit then some (digitsValue 10 text) else none

def daysOfMonth (year month : Nat) : Nat :=
  if month = 2 then
    if year % 4 = 0 ∧ (year % 100 ≠ 0 ∨ year % 400 = 0) then 29 else 28
  else if month ∈ [4, 6, 9, 11] then 30
  else 31

/-- A date, `2024-02-29`. -/
def isDate (text : List Char) : Bool :=
  match fixedDigits? 4 (text.take 4), text.drop 4 with
  | some year, '-' :: a :: b :: '-' :: day =>
    match fixedDigits? 2 [a, b], fixedDigits? 2 day with
    | some month, some day =>
      1 ≤ month && month ≤ 12 && 1 ≤ day && day ≤ daysOfMonth year month
    | _, _ => false
  | _, _ => false

/-- Two digits whose number is at most `most`. -/
def isBelow (most : Nat) (text : List Char) : Bool :=
  match fixedDigits? 2 text with
  | some n => n ≤ most
  | none => false

/-- A time of day, `23:59`, `23:59:60` or `23:59:59.25`. -/
def isTimeOfDay : List Char → Bool
  | a :: b :: ':' :: c :: d :: rest =>
    isBelow 23 [a, b] && isBelow 59 [c, d] &&
      match rest with
      | [] => true
      | ':' :: e :: f :: fraction =>
        isBelow 60 [e, f] &&
          match fraction with
          | [] => true
          | '.' :: digits => !digits.isEmpty && digits.all Char.isDigit
          | _ => false
      | _ => false
  | _ => false

/-- An offset from universal time, `+05:30`. -/
def isOffset : List Char → Bool
  | sign :: a :: b :: ':' :: minutes =>
    (sign == '+' || sign == '-') && isBelow 23 [a, b] && isBelow 59 minutes
  | _ => false

/-- A time of day with or without an offset. -/
def isClock (text : List Char) : Bool :=
  isTimeOfDay text
    || (match text.getLast? with
      | some c => (c == 'Z' || c == 'z') && isTimeOfDay text.dropLast
      | none => false)
    || (isOffset (text.drop (text.length - 6)) && isTimeOfDay (text.take (text.length - 6)))

/-- A date, a time of day, or both with a letter or a space between them. -/
def isTime (text : List Char) : Bool :=
  isDate text || isTimeOfDay text
    || (isDate (text.take 10) && isClock (text.drop 11)
      && (text.drop 10).head?.any fun c => c == 'T' || c == 't' || c == ' ')

/-! ## Section 4: Values -/

/-- The value that is written so without quotes, if there is one. -/
def scalar? (text : List Char) : Option Value :=
  if text = ['t', 'r', 'u', 'e'] then some (.boolean true)
  else if text = ['f', 'a', 'l', 's', 'e'] then some (.boolean false)
  else
    (integer? text) <|> (float? text) <|>
      if isTime text then some (.time (String.ofList text)) else none

end ScriptCheck.Toml
