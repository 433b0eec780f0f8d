/-
# Dictionary text for Juniper routers
-/

namespace Radius.Builtin

/-- The attributes of Juniper routers, with the names of their values. -/
def juniper : String :=
"VENDOR Juniper 2636

BEGIN-VENDOR Juniper

ATTRIBUTE Juniper-Local-User-Name 1 string
ATTRIBUTE Juniper-Allow-Commands 2 string
ATTRIBUTE Juniper-Deny-Commands 3 string
ATTRIBUTE Juniper-Allow-Configuration 4 string
ATTRIBUTE Juniper-Deny-Configuration 5 string
ATTRIBUTE Juniper-Interactive-Command 8 string
ATTRIBUTE Juniper-Configuration-Change 9 string
ATTRIBUTE Juniper-User-Permissions 10 string
ATTRIBUTE Juniper-Junosspace-Profile 11 string
ATTRIBUTE Juniper-Junosspace-Profiles 12 string
ATTRIBUTE Juniper-CTP-Group 21 integer
ATTRIBUTE Juniper-CTPView-APP-Group 22 integer
ATTRIBUTE Juniper-CTPView-OS-Group 23 integer
ATTRIBUTE Juniper-Primary-Dns 31 ipaddr
ATTRIBUTE Juniper-Primary-Wins 32 ipaddr
ATTRIBUTE Juniper-Secondary-Dns 33 ipaddr
ATTRIBUTE Juniper-Secondary-Wins 34 ipaddr
ATTRIBUTE Juniper-Interface-id 35 string
ATTRIBUTE Juniper-Ip-Pool-Name 36 string
ATTRIBUTE Juniper-Keep-Alive 37 integer
ATTRIBUTE Juniper-CoS-Traffic-Control-Profile 38 string
ATTRIBUTE Juniper-CoS-Parameter 39 string
ATTRIBUTE Juniper-encoding 47 integer
ATTRIBUTE Juniper-Switching-Filter 48 string
ATTRIBUTE Juniper-VoIP-Vlan 49 string
ATTRIBUTE Juniper-CWA-Redirect-URL 50 string
ATTRIBUTE Juniper-AV-Pair 51 string
ATTRIBUTE Juniper-UserRole 52 string

VALUE Juniper-CTP-Group Read_Only 1
VALUE Juniper-CTP-Group Admin 2
VALUE Juniper-CTP-Group Privileged_Admin 3
VALUE Juniper-CTP-Group Auditor 4

VALUE Juniper-CTPView-APP-Group Web_Viewer 1
VALUE Juniper-CTPView-APP-Group Net_Admin 2
VALUE Juniper-CTPView-APP-Group Global_Admin 3

VALUE Juniper-CTPView-OS-Group Web_Manager 1
VALUE Juniper-CTPView-OS-Group System_Admin 2
VALUE Juniper-CTPView-OS-Group Auditor 3

VALUE Juniper-encoding Juniper-Encoding-Raw 0
VALUE Juniper-encoding Juniper-Encoding-Base64 1

END-VENDOR Juniper
"

end Radius.Builtin
