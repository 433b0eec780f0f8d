/-
# Standard attributes

The attribute types of the RADIUS standards that are known by name, with the kind of value each
carries. Type 26 carries the attributes of vendors.
-/
import Radius.Value.Kind

namespace Radius

/-- A standard attribute type. -/
structure StandardType where
  /-- The type octet. -/
  code : UInt8
  /-- The name in the standard. -/
  name : String
  /-- The kind of value. -/
  kind : Kind
deriving DecidableEq

namespace StandardType

/-- The known standard types, in ascending order of their codes. -/
def table : List StandardType :=
  [⟨1, "User-Name", .text⟩,
   ⟨2, "User-Password", .octets⟩,
   ⟨3, "CHAP-Password", .octets⟩,
   ⟨4, "NAS-IP-Address", .ipv4⟩,
   ⟨5, "NAS-Port", .integer⟩,
   ⟨6, "Service-Type", .integer⟩,
   ⟨7, "Framed-Protocol", .integer⟩,
   ⟨8, "Framed-IP-Address", .ipv4⟩,
   ⟨9, "Framed-IP-Netmask", .ipv4⟩,
   ⟨10, "Framed-Routing", .integer⟩,
   ⟨11, "Filter-Id", .text⟩,
   ⟨12, "Framed-MTU", .integer⟩,
   ⟨13, "Framed-Compression", .integer⟩,
   ⟨14, "Login-IP-Host", .ipv4⟩,
   ⟨15, "Login-Service", .integer⟩,
   ⟨16, "Login-TCP-Port", .integer⟩,
   ⟨18, "Reply-Message", .text⟩,
   ⟨19, "Callback-Number", .text⟩,
   ⟨20, "Callback-Id", .text⟩,
   ⟨22, "Framed-Route", .text⟩,
   ⟨23, "Framed-IPX-Network", .ipv4⟩,
   ⟨24, "State", .octets⟩,
   ⟨25, "Class", .octets⟩,
   ⟨26, "Vendor-Specific", .octets⟩,
   ⟨27, "Session-Timeout", .integer⟩,
   ⟨28, "Idle-Timeout", .integer⟩,
   ⟨29, "Termination-Action", .integer⟩,
   ⟨30, "Called-Station-Id", .text⟩,
   ⟨31, "Calling-Station-Id", .text⟩,
   ⟨32, "NAS-Identifier", .text⟩,
   ⟨33, "Proxy-State", .octets⟩,
   ⟨34, "Login-LAT-Service", .text⟩,
   ⟨35, "Login-LAT-Node", .text⟩,
   ⟨36, "Login-LAT-Group", .octets⟩,
   ⟨37, "Framed-AppleTalk-Link", .integer⟩,
   ⟨38, "Framed-AppleTalk-Network", .integer⟩,
   ⟨39, "Framed-AppleTalk-Zone", .text⟩,
   ⟨40, "Acct-Status-Type", .integer⟩,
   ⟨41, "Acct-Delay-Time", .integer⟩,
   ⟨42, "Acct-Input-Octets", .integer⟩,
   ⟨43, "Acct-Output-Octets", .integer⟩,
   ⟨44, "Acct-Session-Id", .text⟩,
   ⟨45, "Acct-Authentic", .integer⟩,
   ⟨46, "Acct-Session-Time", .integer⟩,
   ⟨47, "Acct-Input-Packets", .integer⟩,
   ⟨48, "Acct-Output-Packets", .integer⟩,
   ⟨49, "Acct-Terminate-Cause", .integer⟩,
   ⟨50, "Acct-Multi-Session-Id", .text⟩,
   ⟨51, "Acct-Link-Count", .integer⟩,
   ⟨52, "Acct-Input-Gigawords", .integer⟩,
   ⟨53, "Acct-Output-Gigawords", .integer⟩,
   ⟨55, "Event-Timestamp", .integer⟩,
   ⟨60, "CHAP-Challenge", .octets⟩,
   ⟨61, "NAS-Port-Type", .integer⟩,
   ⟨62, "Port-Limit", .integer⟩,
   ⟨63, "Login-LAT-Port", .text⟩,
   ⟨77, "Connect-Info", .text⟩,
   ⟨79, "EAP-Message", .octets⟩,
   ⟨80, "Message-Authenticator", .octets⟩,
   ⟨87, "NAS-Port-Id", .text⟩,
   ⟨88, "Framed-Pool", .text⟩]

/-- The standard type with the given code. -/
def ofCode? (code : UInt8) : Option StandardType :=
  table.find? (·.code == code)

/-- The code of the attribute that carries vendor attributes. -/
def vendorSpecific : UInt8 := 26

end StandardType

end Radius
