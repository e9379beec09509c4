/-!
# Settings

A setting holds the value that was asked for. It may also have been asked for and
left blank: then it holds nothing, and is shown as a pair of brackets with nothing
between them. A blank setting does no harm where it is only shown or passed on. It
is for those who need its value to say what is to become of them without it.
-/

namespace SqlResolution

/-- What was asked for. -/
inductive Setting (α : Type) where
  | value (content : α)
  | blank
  deriving DecidableEq, Repr

namespace Setting

variable {α β ε : Type}

/-- A setting is shown as its value is. -/
def textBy (write : α → String) : Setting α → String
  | value content => write content
  | blank => "[]"

/-- The setting whose value is made from that of another. -/
def map (f : α → β) : Setting α → Setting β
  | value content => value (f content)
  | blank => blank

/-- Reads the value of a setting. There is nothing to be read wrongly in a blank one. -/
def readBy (read : α → Except ε β) : Setting α → Except ε (Setting β)
  | value content => (read content).map value
  | blank => .ok blank

end Setting

end SqlResolution
