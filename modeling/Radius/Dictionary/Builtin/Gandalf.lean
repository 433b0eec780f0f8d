/-
# Dictionary text for Gandalf access servers
-/

namespace Radius.Builtin

/-- The attributes of Gandalf access servers, with the names of their values. -/
def gandalf : String :=
"VENDOR Gandalf 64

BEGIN-VENDOR Gandalf

ATTRIBUTE Gandalf-Operational-Modes 1 integer
ATTRIBUTE Gandalf-Compression-Status 2 integer
ATTRIBUTE Gandalf-Min-Outgoing-Bit-Rate 3 string
ATTRIBUTE Gandalf-Authentication-String 6 string
ATTRIBUTE Gandalf-PPP-Authentication 7 integer
ATTRIBUTE Gandalf-PPP-NCP-Type 8 integer
ATTRIBUTE Gandalf-Fwd-Multicast-In 9 integer
ATTRIBUTE Gandalf-Fwd-Broadcast-In 10 integer
ATTRIBUTE Gandalf-Fwd-Unicast-In 11 integer
ATTRIBUTE Gandalf-Fwd-Multicast-Out 12 integer
ATTRIBUTE Gandalf-Fwd-Broadcast-Out 13 integer
ATTRIBUTE Gandalf-Fwd-Unicast-Out 14 integer
ATTRIBUTE Gandalf-Around-The-Corner 15 integer
ATTRIBUTE Gandalf-Channel-Group-Name-1 16 string
ATTRIBUTE Gandalf-Dial-Prefix-Name-1 17 string
ATTRIBUTE Gandalf-Phone-Number-1 18 string
ATTRIBUTE Gandalf-Calling-Line-ID-1 19 string
ATTRIBUTE Gandalf-Channel-Group-Name-2 20 string
ATTRIBUTE Gandalf-Dial-Prefix-Name-2 21 string
ATTRIBUTE Gandalf-Phone-Number-2 22 string
ATTRIBUTE Gandalf-Calling-Line-ID-2 23 string
ATTRIBUTE Gandalf-IPX-Spoofing-State 24 integer
ATTRIBUTE Gandalf-IPX-Watchdog-Spoof 25 integer
ATTRIBUTE Gandalf-SAP-Group-Name-1 26 string
ATTRIBUTE Gandalf-SAP-Group-Name-2 27 string
ATTRIBUTE Gandalf-SAP-Group-Name-3 28 string
ATTRIBUTE Gandalf-SAP-Group-Name-4 29 string
ATTRIBUTE Gandalf-SAP-Group-Name-5 30 string
ATTRIBUTE Gandalf-Hunt-Group 31 string
ATTRIBUTE Gandalf-Modem-Mode 32 integer
ATTRIBUTE Gandalf-Modem-Required-1 33 integer
ATTRIBUTE Gandalf-Modem-Required-2 34 integer

VALUE Gandalf-Operational-Modes Call-Only 1
VALUE Gandalf-Operational-Modes Answer-Only 2
VALUE Gandalf-Operational-Modes Call-Answer 3
VALUE Gandalf-Operational-Modes Permanent 4

VALUE Gandalf-Compression-Status Disabled 1
VALUE Gandalf-Compression-Status Enabled 2

VALUE Gandalf-PPP-Authentication PAP 1
VALUE Gandalf-PPP-Authentication CHAP 2
VALUE Gandalf-PPP-Authentication PAP-CHAP 3

VALUE Gandalf-PPP-NCP-Type BCP 1
VALUE Gandalf-PPP-NCP-Type IPCP 2
VALUE Gandalf-PPP-NCP-Type IPXCP 3

VALUE Gandalf-IPX-Spoofing-State Forward 1
VALUE Gandalf-IPX-Spoofing-State Spoof 2
VALUE Gandalf-IPX-Spoofing-State Filter-All 3

VALUE Gandalf-Modem-Mode Auto 1
VALUE Gandalf-Modem-Mode Manual 2

END-VENDOR Gandalf
"

end Radius.Builtin
