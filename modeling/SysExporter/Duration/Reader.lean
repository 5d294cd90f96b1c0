import SysExporter.Duration.Unit
import SysExporter.Text.Blank
import SysExporter.Text.Numeral
import SysExporter.Text.Quoted

namespace SysExporter.Duration

open Text

-- Why a text is not a duration. Offsets count bytes.
inductive ReadFault where
  | empty
  | numberExpected (offset : Nat)
  | invalidCharacter (offset : Nat)
  | tooLarge
  | unitNeeded (value : Nat)
  | unknownUnit (unit : String)
  | carryOverflow
  | zero
  deriving DecidableEq, Repr

def ReadFault.message : ReadFault → String
  | .empty => "value was empty"
  | .numberExpected offset => s!"expected number at {offset}"
  | .invalidCharacter offset => s!"invalid character at {offset}"
  | .tooLarge =>
    "number is too large or cannot be represented without a lack of precision " ++
      "(values below 1ns are not supported)"
  | .unitNeeded value => s!"time unit needed, for example {value}sec or {value}ms"
  | .unknownUnit unit =>
    "unknown time unit " ++ quote unit ++ ", supported units: ns, us/µs, ms, sec, min, " ++
      "hours, days, weeks, months, years (and few variations)"
  | .carryOverflow => "overflow in Duration::new"
  | .zero => "timeout must be non-zero"

-- Digits after a point: numerator over a power of ten.
structure Fraction where
  numerator : Nat
  denominator : Nat
  deriving DecidableEq, Repr

structure Quantity where
  whole : Nat
  fraction : Option Fraction
  unit : List Char
  deriving DecidableEq, Repr

-- Where in a quantity the reader stands. Between quantities it remembers the
-- offset at which it began to wait, in a fraction that of the last character
-- it has not used up, and in a unit the letters so far, last first.
inductive Mode where
  | between (start : Nat)
  | whole (value : Nat)
  | fraction (value : Nat) (digits : Fraction) (start : Nat)
  | unit (value : Nat) (digits : Option Fraction) (letters : List Char)
  deriving DecidableEq, Repr

def isUnitLetter (c : Char) : Bool :=
  ('a' ≤ c && c ≤ 'z') || ('A' ≤ c && c ≤ 'Z') || c == 'µ'

-- One more digit of a fraction. Both numbers of the fraction fit one word.
def Fraction.extend (f : Fraction) (digit : Nat) : Option Fraction :=
  if f.denominator * 10 < UInt64.size && f.numerator * 10 + digit < UInt64.size then
    some ⟨f.numerator * 10 + digit, f.denominator * 10⟩
  else none

-- What one character does: it moves the reader on, and it may end a quantity.
def Mode.step (offset : Nat) (c : Char) : Mode → Except ReadFault (Mode × Option Quantity)
  | .between start =>
    match digitValue? c with
    | some digit => .ok (.whole digit, none)
    | none => if isBlank c then .ok (.between start, none) else .error (.numberExpected start)
  | .whole value =>
    match digitValue? c with
    | some digit =>
      if value * 10 + digit < UInt64.size then .ok (.whole (value * 10 + digit), none)
      else .error .tooLarge
    | none =>
      if isBlank c then .ok (.whole value, none)
      else if isUnitLetter c then .ok (.unit value none [c], none)
      else if c = '.' then .ok (.fraction value ⟨0, 1⟩ offset, none)
      else .error (.invalidCharacter offset)
  | .fraction value digits start =>
    match digitValue? c with
    | some digit =>
      match digits.extend digit with
      | some digits => .ok (.fraction value digits (offset + c.utf8Size), none)
      | none => .error .tooLarge
    | none =>
      if isBlank c then .ok (.fraction value digits (offset + c.utf8Size), none)
      else if isUnitLetter c && digits.denominator ≠ 1 then
        .ok (.unit value (some digits) [c], none)
      else .error (.invalidCharacter start)
  | .unit value digits letters =>
    match digitValue? c with
    | some digit => .ok (.whole digit, some ⟨value, digits, letters.reverse⟩)
    | none =>
      if isBlank c then
        .ok (.between (offset + c.utf8Size), some ⟨value, digits, letters.reverse⟩)
      else if isUnitLetter c then .ok (.unit value digits (c :: letters), none)
      else .error (.invalidCharacter offset)

-- What the end of the text means. A number without letters has an empty unit.
def Mode.finish : Mode → Except ReadFault (Option Quantity)
  | .between _ => .ok none
  | .whole value => .ok (some ⟨value, none, []⟩)
  | .fraction value digits start =>
    if digits.denominator = 1 then .error (.invalidCharacter start)
    else .ok (some ⟨value, some digits, []⟩)
  | .unit value digits letters => .ok (some ⟨value, digits, letters.reverse⟩)

-- The quantities of a text up to the first fault, and the fault.
def Mode.scan (offset : Nat) (mode : Mode) : List Char → List Quantity × Option ReadFault
  | [] =>
    match mode.finish with
    | .ok last => (last.toList, none)
    | .error fault => ([], some fault)
  | c :: rest =>
    match mode.step offset c with
    | .error fault => ([], some fault)
    | .ok (next, done) =>
      let (later, fault) := next.scan (offset + c.utf8Size) rest
      (done.toList ++ later, fault)

def scaled (n scale : Nat) : Except ReadFault Nat :=
  if n * scale < UInt64.size then .ok (n * scale) else .error .tooLarge

-- A fraction of a unit, which must come out whole.
def portion (f : Fraction) (scale : Nat) : Except ReadFault Nat := do
  let product ← scaled f.numerator scale
  if product % f.denominator = 0 then return product / f.denominator else .error .tooLarge

-- The sum, with every part fitting one word. Exactly one second of nanoseconds
-- is carried last, and that carry has no fault of its own.
def add (d : Duration) (seconds nanos : Nat) : Except ReadFault Duration :=
  let total := d.nanos + nanos
  if UInt64.size ≤ total then .error .tooLarge
  else
    let carried := if 1000000000 < total then total / 1000000000 else 0
    let rest := if 1000000000 < total then total % 1000000000 else total
    if UInt64.size ≤ d.seconds + (seconds + carried) then .error .tooLarge
    else match ofParts? (d.seconds + (seconds + carried)) rest with
      | some sum => .ok sum
      | none => .error .carryOverflow

def addWhole (d : Duration) (n : Nat) (u : TimeUnit) : Except ReadFault Duration := do
  match u.inNanos? with
  | some scale => d.add 0 (← scaled n scale)
  | none => d.add (← scaled n u.inSeconds) 0

-- Fractions of a minute and below are counted in nanoseconds, the others in
-- seconds. A nanosecond has no fractions.
def addFraction (d : Duration) (f : Fraction) (u : TimeUnit) : Except ReadFault Duration := do
  match u with
  | .nanosecond => .error .tooLarge
  | .microsecond | .millisecond => d.add 0 (← portion f (u.inNanos?.getD 1))
  | .second | .minute => d.add 0 (← portion f (u.inSeconds * 1000000000))
  | _ => d.add (← portion f u.inSeconds) 0

def addQuantity (d : Duration) (q : Quantity) : Except ReadFault Duration := do
  match TimeUnit.ofText? q.unit with
  | none =>
    if q.unit.isEmpty then .error (.unitNeeded q.whole)
    else .error (.unknownUnit (String.ofList q.unit))
  | some u =>
    let sum ← d.addWhole q.whole u
    match q.fraction with
    | none => return sum
    | some f => sum.addFraction f u

-- Quantities are added up from the left. A bare zero needs no unit.
def parse (text : List Char) : Except ReadFault Duration := do
  if text = ['0'] then return zero
  let (quantities, fault) := Mode.scan 0 (.between 0) text
  let sum ← quantities.foldlM addQuantity zero
  match fault with
  | some fault => .error fault
  | none => if quantities.isEmpty then .error .empty else return sum

-- A deadline: blanks around it are ignored, and it cannot be zero.
def parseTimeout (text : String) : Except ReadFault Duration := do
  let d ← parse (trim text.toList)
  if d.isZero then .error .zero else return d

end SysExporter.Duration
