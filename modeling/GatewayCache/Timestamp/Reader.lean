import GatewayCache.Text.Blank
import GatewayCache.Text.Scan
import GatewayCache.Timestamp.Basic

/-!
Reading timestamps: date, separator, time and offset from UTC. White space may stand in front of
every number, hyphen, colon and of the offset, and at the end; a number may have fewer digits than
its usual width.
-/
namespace GatewayCache.Timestamp

open Text

namespace Read

/-- Takes a number of at least one and at most `width` digits, after white space. -/
def number (width : Nat) (input : List Char) : Option (Nat × List Char) :=
  let cs := dropBlank input
  let ds := (cs.take width).takeWhile Char.isDigit
  if ds.isEmpty then none else some (ofDigits ds, cs.drop ds.length)

/-- Takes a year: four digits at most, or a sign and any number of digits. -/
def year (input : List Char) : Option (Int × List Char) :=
  match dropBlank input with
  | '-' :: rest => do
    guard (rest.head?.any Char.isDigit)
    let (n, rest) ← number rest.length rest
    some (-(n : Int), rest)
  | '+' :: rest => do
    guard (rest.head?.any Char.isDigit)
    let (n, rest) ← number rest.length rest
    some ((n : Int), rest)
  | cs => do
    let (n, rest) ← number 4 cs
    some ((n : Int), rest)

/-- Passes over a mark, after white space. -/
def mark (c : Char) (input : List Char) : Option (List Char) :=
  match dropBlank input with
  | d :: rest => if d = c then some rest else none
  | [] => none

def date (input : List Char) : Option (Date × List Char) := do
  let (year, rest) ← year input
  let rest ← mark '-' rest
  let (month, rest) ← number 2 rest
  let rest ← mark '-' rest
  let (day, rest) ← number 2 rest
  some (⟨year, month, day⟩, rest)

/-- The nanoseconds that the digits after the point denote; those after the ninth do not count. -/
def nanos (digits : List Char) : Nat :=
  let ds := digits.take 9
  ofDigits ds * Nat.pow 10 (9 - ds.length)

/-- Takes a point and the digits after it, if there is a point. -/
def fraction (input : List Char) : Option (Nat × List Char) :=
  match input with
  | '.' :: rest =>
    let ds := rest.takeWhile Char.isDigit
    if ds.isEmpty then none else some (nanos ds, rest.dropWhile Char.isDigit)
  | _ => some (0, input)

/-- Takes a time of day, as hour, minute, second and nanosecond. -/
def time (input : List Char) : Option ((Nat × Nat × Nat × Nat) × List Char) := do
  let (hour, rest) ← number 2 input
  let rest ← mark ':' rest
  let (minute, rest) ← number 2 rest
  let rest ← mark ':' rest
  let (second, rest) ← number 2 rest
  let (nano, rest) ← fraction rest
  some ((hour, minute, second, nano), rest)

/-- Takes hours and minutes of an offset, with any colons and white space between them. -/
def hoursMinutes (input : List Char) : Option (Nat × List Char) :=
  match input with
  | h :: h' :: rest =>
    match rest.dropWhile (fun c => c == ':' || isBlank c) with
    | m :: m' :: rest =>
      if [h, h', m, m'].all Char.isDigit && ofDigits [m, m'] < 60 && ofDigits [h, h'] < 24 then
        some (ofDigits [h, h'] * 60 + ofDigits [m, m'], rest)
      else none
    | _ => none
  | _ => none

/-- Whether a text starts with `UTC` in any case. -/
def startsUtc (input : List Char) : Bool := (input.take 3).map Char.toLower == ['u', 't', 'c']

/-- Takes an offset in minutes: a name of UTC, or a sign with hours and minutes. -/
def offset (input : List Char) : Option (Int × List Char) :=
  let cs := dropBlank input
  if startsUtc cs then some (0, cs.drop 3)
  else
    match cs with
    | 'Z' :: rest => some (0, rest)
    | 'z' :: rest => some (0, rest)
    | '+' :: rest => do
      let (n, rest) ← hoursMinutes rest
      some ((n : Int), rest)
    | sign :: rest =>
      if sign = '-' || sign = '\u2212' then do
        let (n, rest) ← hoursMinutes rest
        some (-(n : Int), rest)
      else none
    | [] => none

/-- Passes over what stands between date and time. -/
def separator : List Char → Option (List Char)
  | c :: rest => if c = 'T' || c = 't' || c = ' ' then some rest else none
  | [] => none

end Read

/-- The instant that a text denotes. -/
def parse? (text : String) : Option Timestamp := do
  let (date, rest) ← Read.date text.toList
  let rest ← Read.separator rest
  let ((hour, minute, second, nano), rest) ← Read.time rest
  let (offset, rest) ← Read.offset rest
  guard (rest.all isBlank)
  ofLocal? ⟨date, hour, minute, second, nano⟩ offset

end GatewayCache.Timestamp
