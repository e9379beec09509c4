import SqlResolution.Address.V6

/-!
# Addresses

The address of a host, of either version. A text is tried as an IPv4 address
first; which version failed, and how, is of no interest when neither fits.
-/

namespace SqlResolution

open SqlResolution.Text

inductive Address where
  | v4 (address : Address.V4)
  | v6 (address : Address.V6)
  deriving DecidableEq

namespace Address

def read? (text : String) : Option Address :=
  match V4.read text with
  | .ok address => some (v4 address)
  | .error _ => (V6.read? text).map v6

/-- The address in its normal form. -/
def text : Address → String
  | v4 address => address.text
  | v6 address => address.text

end Address

end SqlResolution
