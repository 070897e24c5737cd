import SchemaMigration.Toml.Lexical

/-!
# Numbers, dates and times of TOML text

All of these are read as far as they go; the text that follows is judged by the caller.
-/

namespace SchemaMigration.Toml

/-! ### Numbers -/

/-- More digits of a number: each may have an underscore in front. -/
def moreDigits (isDigit : Char → Bool) : List Char → List Char × List Char
  | [] => ([], [])
  | '_' :: c :: rest =>
    if isDigit c then
      let (digits, rest) := moreDigits isDigit rest
      (c :: digits, rest)
    else ([], '_' :: c :: rest)
  | c :: rest =>
    if isDigit c then
      let (digits, rest) := moreDigits isDigit rest
      (c :: digits, rest)
    else ([], c :: rest)

/-- The digits of a number, the first of them without an underscore. -/
def digits? (isDigit : Char → Bool) : List Char → Option (List Char × List Char)
  | c :: rest =>
    if isDigit c then
      let (digits, rest) := moreDigits isDigit rest
      some (c :: digits, rest)
    else none
  | [] => none

/-- Is the character a digit in a base? -/
def isDigitIn (base : Nat) (c : Char) : Bool :=
  match Digits.hex? c with
  | some n => n < base
  | none => false

/-- An integer in the base that its letter announces. -/
def basedInt? : List Char → Option (Int × List Char)
  | '0' :: letter :: rest => do
    let base ← match letter with
      | 'x' => some 16
      | 'o' => some 8
      | 'b' => some 2
      | _ => none
    let (digits, rest) ← digits? (isDigitIn base) rest
    let n := digits.foldl (fun n c => n * base + (Digits.hex? c).getD 0) 0
    return ((n : Int), rest)
  | _ => none

/-- The sign at the front: is it a minus, and what follows. -/
def sign : List Char → Bool × List Char
  | '-' :: rest => (true, rest)
  | '+' :: rest => (false, rest)
  | cs => (false, cs)

/-- The whole part of a number: a zero by itself, or digits that do not start with one. -/
def whole? : List Char → Option (List Char × List Char)
  | '0' :: rest => some (['0'], rest)
  | cs => digits? Char.isDigit cs

/-- The digits behind a point. -/
def fraction? : List Char → Option (List Char × List Char)
  | '.' :: rest => digits? Char.isDigit rest
  | _ => none

/-- The exponent behind an `e`. -/
def exponent? : List Char → Option (Int × List Char)
  | c :: rest => do
    if c ≠ 'e' ∧ c ≠ 'E' then none
    let (negative, rest) := sign rest
    let (digits, rest) ← digits? Char.isDigit rest
    let n : Int := Digits.toNat digits
    return (if negative then -n else n, rest)
  | [] => none

/-- A number in decimal digits; with a fraction or an exponent it is a double. -/
def decimal? (cs : List Char) : Option (Reading (Value × List Char)) := do
  let (negative, unsigned) := sign cs
  let (whole, rest) ← whole? unsigned
  let fraction := fraction? rest
  let rest := (fraction.map (·.2)).getD rest
  let exponent := exponent? rest
  let rest := (exponent.map (·.2)).getD rest
  if fraction.isNone ∧ exponent.isNone then
    if Digits.limit < whole.length then return .error (.tooManyDigits whole.length)
    else
      let n : Int := Digits.toNat whole
      return .ok (.int (if negative then -n else n), rest)
  else
    let places := (fraction.map (·.1)).getD []
    let scale := (exponent.map (·.1)).getD 0
    let x := Double.ofDecimal negative (Digits.toNat (whole ++ places)) (scale - places.length)
    return .ok (.float x, rest)

/-- A word for infinity or for no number, with or without a sign. -/
def wordNumber? (cs : List Char) : Option (Double × List Char) :=
  let (negative, rest) := sign cs
  match rest with
  | 'i' :: 'n' :: 'f' :: rest => some (.infinite negative, rest)
  | 'n' :: 'a' :: 'n' :: rest => some (.nan, rest)
  | _ => none

/-! ### Dates and times -/

/-- A number of exactly two digits within bounds. -/
def twoDigits? (low high : Nat) : List Char → Option (Nat × List Char)
  | a :: b :: rest => do
    if !a.isDigit || !b.isDigit then none
    let n := Digits.toNat [a, b]
    if n < low ∨ high < n then none
    return (n, rest)
  | _ => none

/-- What remains behind the given character. -/
def behind? (c : Char) : List Char → Option (List Char)
  | x :: rest => if x = c then some rest else none
  | [] => none

/-- The microseconds behind a point; more than six digits are cut off. -/
def microseconds : List Char → Nat × List Char
  | '.' :: rest =>
    let (digits, behind) := Digits.split rest
    if digits.isEmpty then (0, '.' :: rest)
    else
      let six := digits.take 6
      (Digits.toNat (six ++ List.replicate (6 - six.length) '0'), behind)
  | cs => (0, cs)

/-- A time of day. -/
def clock? (cs : List Char) : Option (Clock × List Char) := do
  let (hour, cs) ← twoDigits? 0 23 cs
  let (minute, cs) ← twoDigits? 0 59 (← behind? ':' cs)
  let (second, cs) ← twoDigits? 0 59 (← behind? ':' cs)
  let (fraction, cs) := microseconds cs
  return (⟨hour, minute, second, fraction⟩, cs)

/-- The year, the month and the day of a date, which need not exist. -/
def day? : List Char → Option ((Nat × Nat × Nat) × List Char)
  | a :: b :: c :: d :: cs => do
    if !([a, b, c, d].all Char.isDigit) then none
    let (month, cs) ← twoDigits? 1 12 (← behind? '-' cs)
    let (day, cs) ← twoDigits? 1 31 (← behind? '-' cs)
    return ((Digits.toNat [a, b, c, d], month, day), cs)
  | _ => none

/-- An offset from universal time, in minutes, if there is one. -/
def offset (cs : List Char) : Option Int × List Char :=
  match cs with
  | 'Z' :: rest => (some 0, rest)
  | 'z' :: rest => (some 0, rest)
  | c :: rest =>
    let distance? : Option (Int × List Char) := do
      if c ≠ '+' ∧ c ≠ '-' then none
      let (hours, rest) ← twoDigits? 0 23 rest
      let (minutes, rest) ← twoDigits? 0 59 (← behind? ':' rest)
      let size : Int := hours * 60 + minutes
      return (if c = '-' then -size else size, rest)
    match distance? with
    | some (minutes, rest) => (some minutes, rest)
    | none => (none, cs)
  | [] => (none, [])

/-- The time of day behind a date, after a `T` or a space. -/
def clockBehindDay? : List Char → Option (Clock × List Char)
  | c :: rest => if c = 'T' ∨ c = 't' ∨ c = ' ' then clock? rest else none
  | [] => none

/-- A date, or a moment. The date has to exist. -/
def dateOrMoment? (cs : List Char) : Option (Reading (Value × List Char)) := do
  let ((year, month, day), rest) ← day? cs
  match Date.of year month day with
  | .error _ => return .error .malformed
  | .ok date =>
    match clockBehindDay? rest with
    | none => return .ok (.date date, rest)
    | some (clock, rest) =>
      let (minutes, rest) := offset rest
      return .ok (.moment ⟨date, clock, minutes⟩, rest)

/-! ### Scalars -/

/-- A word for a boolean. -/
def bool? : List Char → Option (Bool × List Char)
  | 't' :: 'r' :: 'u' :: 'e' :: rest => some (true, rest)
  | 'f' :: 'a' :: 'l' :: 's' :: 'e' :: rest => some (false, rest)
  | _ => none

/-- The value at the front that is neither an array nor a table. -/
def scalar (cs : List Char) : Reading (Value × List Char) :=
  match string? cs with
  | some body => do
    let (text, rest) ← body
    return (.text (String.ofList text), rest)
  | none =>
    match bool? cs with
    | some (b, rest) => .ok (.bool b, rest)
    | none =>
      match dateOrMoment? cs with
      | some stamp => stamp
      | none =>
        match clock? cs with
        | some (clock, rest) => .ok (.clock clock, rest)
        | none =>
          match basedInt? cs with
          | some (n, rest) => .ok (.int n, rest)
          | none =>
            match decimal? cs with
            | some number => number
            | none =>
              match wordNumber? cs with
              | some (x, rest) => .ok (.float x, rest)
              | none => .error .malformed

end SchemaMigration.Toml
