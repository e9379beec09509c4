import SqlResolution.Request
import SqlResolution.Text.Decimal

/-!
# Unfit values

A value may be unfit for its use in three ways: nothing can be made of what it
holds; or it is of a type that has no such use, whatever it holds; or it should
have been there and a setting was left blank instead. The last two are found out
where the value is used, and what is said about them names that use.
-/

namespace SqlResolution

open SqlResolution.Text

/-- A value that nothing can be made of. -/
inductive InvalidValue where
  | requestKind (fault : Request.KindFault)
  | emptyInstanceName
  | address (text : String)
  | tooManyDigits (count : Nat)
  deriving DecidableEq, Repr

def InvalidValue.message : InvalidValue → String
  | .requestKind fault => fault.message
  | .emptyInstanceName => "instance_name must not be empty"
  | .address text => s!"{quoted text} does not appear to be an IPv4 or IPv6 address"
  | .tooManyDigits count =>
    s!"Exceeds the limit ({Decimal.digitLimit} digits) for integer string conversion: " ++
    s!"value has {count} digits; use sys.set_int_max_str_digits() to increase the limit"

/-- A use that a value is of the wrong type for. Types and classes go by their names. No field of
a class can be named as the record itself is, which is `reservedField`; and a class is named by a
text and nothing else. -/
inductive WrongType where
  | missingFields (className first : String) (others : List String)
  | unknownField (className name : String)
  | reservedField (className name : String)
  | noClassName (typeName : String)
  | uncounted (typeName : String)
  | noSequence (typeName : String)
  | changeable (typeName : String)
  deriving DecidableEq, Repr

/-- Names, of which there is at least one, as a list in words. -/
def WrongType.listed (first : String) : List String → String
  | [] => quoted first
  | [last] => s!"{quoted first} and {quoted last}"
  | names =>
    let earlier := (first :: names).dropLast.map quoted
    let last := quoted (names.getLastD first)
    ", ".intercalate earlier ++ ", and " ++ last

def WrongType.message : WrongType → String
  | .missingFields className first others =>
    let plural := if others.isEmpty then "" else "s"
    s!"{className}.__init__() missing {others.length + 1} required positional " ++
    s!"argument{plural}: {listed first others}"
  | .unknownField className name =>
    s!"{className}.__init__() got an unexpected keyword argument '{name}'"
  | .reservedField className name =>
    s!"{className}.__init__() got multiple values for argument '{name}'"
  | .noClassName typeName => s!"attribute name must be string, not '{typeName}'"
  | .uncounted typeName => s!"object of type '{typeName}' has no len()"
  | .noSequence typeName => s!"'{typeName}' object is not iterable"
  | .changeable typeName => s!"unhashable type: '{typeName}'"

/-- A blank setting whose value was needed: the least level of what is logged, or one of the times
to wait. -/
inductive BlankSetting where
  | level
  | response
  | inactivity
  | total
  deriving DecidableEq, Repr

def BlankSetting.message : BlankSetting → String
  | .level => "'list' object has no attribute 'upper'"
  | .response => "'<=' not supported between instances of 'list' and 'float'"
  | .inactivity => "'<' not supported between instances of 'float' and 'list'"
  | .total => "unsupported operand type(s) for +: 'float' and 'list'"

end SqlResolution
