import SqlResolution.Text.Decimal
import SqlResolution.Text.Digit
import SqlResolution.Text.Quoted
import SqlResolution.Text.Split

/-!
# IPv4 addresses

Four octets in decimal with points between them. An octet has one to three ASCII
digits, no leading zero, and is at most 255. The first fault found is the one
reported: the number of octets before any octet, and the octets from left to
right.
-/

namespace SqlResolution.Address

open SqlResolution.Text

structure V4 where
  a : UInt8
  b : UInt8
  c : UInt8
  d : UInt8
  deriving DecidableEq, Repr

inductive OctetFault where
  | empty
  | notDigits (octet : String)
  | tooLong (octet : String)
  | leadingZero (octet : String)
  | tooLarge (value : Nat)
  deriving DecidableEq, Repr

/-- What is wrong with a text that should be an IPv4 address. -/
inductive V4Fault where
  | slash (text : String)
  | empty
  | notFourOctets (text : String)
  | octet (fault : OctetFault) (text : String)
  deriving DecidableEq, Repr

def OctetFault.message : OctetFault → String
  | .empty => "Empty octet not permitted"
  | .notDigits octet => s!"Only decimal digits permitted in {quoted octet}"
  | .tooLong octet => s!"At most 3 characters permitted in {quoted octet}"
  | .leadingZero octet => s!"Leading zeros are not permitted in {quoted octet}"
  | .tooLarge value => s!"Octet {value} (> 255) not permitted"

def V4Fault.message : V4Fault → String
  | .slash text => s!"Unexpected '/' in {quoted text}"
  | .empty => "Address cannot be empty"
  | .notFourOctets text => s!"Expected 4 octets in {quoted text}"
  | .octet fault text => s!"{fault.message} in {quoted text}"

def readOctet (cs : List Char) : Except OctetFault UInt8 :=
  if cs = [] then .error .empty
  else if !cs.all isAsciiDigit then .error (.notDigits (String.ofList cs))
  else if 3 < cs.length then .error (.tooLong (String.ofList cs))
  else if cs ≠ ['0'] && cs.head? = some '0' then .error (.leadingZero (String.ofList cs))
  else
    let value := Decimal.value cs
    if 255 < value then .error (.tooLarge value) else .ok value.toUInt8

def V4.read (text : String) : Except V4Fault V4 :=
  if text.toList.contains '/' then .error (.slash text)
  else if text.toList = [] then .error .empty
  else
    match splitOn '.' text.toList with
    | [a, b, c, d] =>
      let octets : Except OctetFault V4 :=
        return ⟨← readOctet a, ← readOctet b, ← readOctet c, ← readOctet d⟩
      octets.mapError (.octet · text)
    | _ => .error (.notFourOctets text)

/-- The address in decimal with points. -/
def V4.text (address : V4) : String :=
  String.ofList (['.'].intercalate
    ([address.a, address.b, address.c, address.d].map fun octet => Decimal.digits octet.toNat))

/-- An address of the local host: every one that begins with 127. -/
def V4.isLoopback (address : V4) : Bool :=
  address.a = 127

/-- The address of all hosts on the local network. -/
def V4.limitedBroadcast : V4 :=
  ⟨255, 255, 255, 255⟩

end SqlResolution.Address
