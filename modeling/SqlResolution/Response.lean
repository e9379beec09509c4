import SqlResolution.Frame
import SqlResolution.Instance.OfRecord

/-!
# Answers

An answer is framed data. For the questions about instances the data is text in
UTF-8, records that become instances. For the question about an administration
port it is a record of six bytes in all, in which the size field counts the
header too: that tells it from a framed text of the same length.
-/

namespace SqlResolution.Response

open SqlResolution.Text

/-- The instances that a text describes, with the notices on the way. -/
def readText (source text : String) : List Notice × Except Failure (List Instance) :=
  match Record.split text with
  | .error fault => ([], .error (.malformed (.truncated fault)))
  | .ok records =>
    let (notices, result) := Instance.ofRecords source records
    (notices, result.mapError .invalidValue)

/-- The instances that a datagram describes, with the notices on the way. -/
def read (source : String) (data : List UInt8) : List Notice × Except Failure (List Instance) :=
  match Frame.decode data with
  | .error fault => ([], .error (.malformed (.frame fault)))
  | .ok payload =>
    match Utf8.decode payload with
    | .error fault => ([], .error (.malformed (.notText source fault)))
    | .ok text => readText source text

/-- What a framed answer without the record of an administration port says. -/
def readNoAdminPort (data : List UInt8) : Failure :=
  match Frame.decode data with
  | .error fault => .malformed (.frame fault)
  | .ok _ => .notFound .noAdminPort

/-- The administration port that a datagram names. -/
def readAdminPort (data : List UInt8) : Except Failure AdminPort :=
  match data with
  | [] => .error (.malformed .adminEmpty)
  | opcode :: rest =>
    if opcode ≠ Protocol.responseOpcode then .error (.malformed (.frame (.opcode opcode)))
    else
      match rest with
      | sizeLow :: sizeHigh :: body =>
        match body with
        | [version, low, high] =>
          if Protocol.wordOfBytes sizeLow sizeHigh = Protocol.adminResponseSize then
            let port := Protocol.wordOfBytes low high
            if version ≠ Protocol.adminVersion then .error (.malformed (.adminVersion version))
            else if port = 0 then .error (.notFound .zeroAdminPort)
            else .ok ⟨port⟩
          else .error (readNoAdminPort data)
        | _ => .error (readNoAdminPort data)
      | _ => .error (.malformed .adminNoSize)

end SqlResolution.Response
