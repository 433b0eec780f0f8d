/-
# Packet codes

The packet types of the RADIUS standards. Each has its octet and its name, and the octet determines
the type.
-/

namespace Radius

/-- The type of a packet. -/
inductive Code where
  | accessRequest
  | accessAccept
  | accessReject
  | accountingRequest
  | accountingResponse
  | accessChallenge
  | statusServer
  | statusClient
  | disconnectRequest
  | disconnectAck
  | disconnectNak
  | coaRequest
  | coaAck
  | coaNak
deriving DecidableEq

namespace Code

/-- All packet types. -/
def all : List Code :=
  [accessRequest, accessAccept, accessReject, accountingRequest, accountingResponse,
   accessChallenge, statusServer, statusClient, disconnectRequest, disconnectAck, disconnectNak,
   coaRequest, coaAck, coaNak]

/-- The octet of a packet type. -/
def toUInt8 : Code → UInt8
  | accessRequest => 1
  | accessAccept => 2
  | accessReject => 3
  | accountingRequest => 4
  | accountingResponse => 5
  | accessChallenge => 11
  | statusServer => 12
  | statusClient => 13
  | disconnectRequest => 40
  | disconnectAck => 41
  | disconnectNak => 42
  | coaRequest => 43
  | coaAck => 44
  | coaNak => 45

/-- The packet type of an octet. -/
def ofUInt8? (octet : UInt8) : Option Code :=
  all.find? (·.toUInt8 == octet)

/-- The name of a packet type. -/
def name : Code → String
  | accessRequest => "Access-Request"
  | accessAccept => "Access-Accept"
  | accessReject => "Access-Reject"
  | accountingRequest => "Accounting-Request"
  | accountingResponse => "Accounting-Response"
  | accessChallenge => "Access-Challenge"
  | statusServer => "Status-Server"
  | statusClient => "Status-Client"
  | disconnectRequest => "Disconnect-Request"
  | disconnectAck => "Disconnect-ACK"
  | disconnectNak => "Disconnect-NAK"
  | coaRequest => "CoA-Request"
  | coaAck => "CoA-ACK"
  | coaNak => "CoA-NAK"

@[simp] theorem ofUInt8?_toUInt8 (code : Code) : ofUInt8? code.toUInt8 = some code := by
  cases code <;> decide

theorem toUInt8_of_ofUInt8? {octet : UInt8} {code : Code} (h : ofUInt8? octet = some code) :
    code.toUInt8 = octet := by
  simpa using List.find?_some h

end Code

end Radius
