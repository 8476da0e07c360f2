import GatewayCache.Timestamp.Basic

/-! Writing timestamps in one canonical form, always in UTC. -/
namespace GatewayCache.Timestamp

namespace Write

/-- The decimal digits of a number, with zeros in front up to `width`. -/
def padded (width n : Nat) : List Char :=
  let ds := Nat.toDigits 10 n
  List.replicate (width - ds.length) '0' ++ ds

/-- Four digits for the years 0 to 9999; any other year has a sign and at least four digits. -/
def year (y : Int) : List Char :=
  if 0 ≤ y ∧ y ≤ 9999 then padded 4 y.toNat
  else (if y < 0 then '-' else '+') :: padded 4 y.natAbs

/-- No fraction when it is zero, else the fewest of three, six and nine digits that lose nothing. -/
def fraction (nano : Nat) : List Char :=
  if nano = 0 then []
  else if nano % 1000000 = 0 then '.' :: padded 3 (nano / 1000000)
  else if nano % 1000 = 0 then '.' :: padded 6 (nano / 1000)
  else '.' :: padded 9 nano

def civil (c : Civil) : List Char :=
  year c.date.year ++ '-' :: padded 2 c.date.month ++ '-' :: padded 2 c.date.day ++
    'T' :: padded 2 c.hour ++ ':' :: padded 2 c.minute ++ ':' :: padded 2 c.second ++
    fraction c.nano ++ ['Z']

end Write

/-- The text of an instant. -/
def render (t : Timestamp) : String := String.ofList (Write.civil t.utc)

end GatewayCache.Timestamp
