/-
# Dictionary text for Huawei access servers
-/

namespace Radius.Builtin

/-- The attributes of Huawei access servers, with the names of their values. -/
def huawei : String :=
"VENDOR Huawei 2011

BEGIN-VENDOR Huawei

ATTRIBUTE Huawei-Input-Burst-Size 1 integer
ATTRIBUTE Huawei-Input-Average-Rate 2 integer
ATTRIBUTE Huawei-Input-Peak-Rate 3 integer
ATTRIBUTE Huawei-Output-Burst-Size 4 integer
ATTRIBUTE Huawei-Output-Average-Rate 5 integer
ATTRIBUTE Huawei-Output-Peak-Rate 6 integer
ATTRIBUTE Huawei-In-Kb-Before-T-Switch 7 integer
ATTRIBUTE Huawei-Out-Kb-Before-T-Switch 8 integer
ATTRIBUTE Huawei-In-Pkt-Before-T-Switch 9 integer
ATTRIBUTE Huawei-Out-Pkt-Before-T-Switch 10 integer
ATTRIBUTE Huawei-In-Kb-After-T-Switch 11 integer
ATTRIBUTE Huawei-Out-Kb-After-T-Switch 12 integer
ATTRIBUTE Huawei-In-Pkt-After-T-Switch 13 integer
ATTRIBUTE Huawei-Out-Pkt-After-T-Switch 14 integer
ATTRIBUTE Huawei-Remanent-Volume 15 integer
ATTRIBUTE Huawei-Tariff-Switch-Interval 16 integer
ATTRIBUTE Huawei-ISP-ID 17 string
ATTRIBUTE Huawei-Max-Users-Per-Logic-Port 18 integer
ATTRIBUTE Huawei-Command 20 integer
ATTRIBUTE Huawei-Priority 22 integer
ATTRIBUTE Huawei-Connect-ID 26 integer
ATTRIBUTE Huawei-Portal-URL 27 string
ATTRIBUTE Huawei-FTP-Directory 28 string
ATTRIBUTE Huawei-Exec-Privilege 29 integer
ATTRIBUTE Huawei-IP-Address 30 ipaddr
ATTRIBUTE Huawei-Qos-Profile-Name 31 string
ATTRIBUTE Huawei-SIP-Server 32 string
ATTRIBUTE Huawei-User-Password 33 string
ATTRIBUTE Huawei-Command-Mode 34 string
ATTRIBUTE Huawei-Renewal-Time 35 integer
ATTRIBUTE Huawei-Rebinding-Time 36 integer
ATTRIBUTE Huawei-IGMP-Enable 37 integer
ATTRIBUTE Huawei-Startup-Stamp 59 integer
ATTRIBUTE Huawei-IP-Host-Addr 60 string
ATTRIBUTE Huawei-Up-Priority 61 integer
ATTRIBUTE Huawei-Down-Priority 62 integer
ATTRIBUTE Huawei-Tunnel-VPN-Instance 63 string
ATTRIBUTE Huawei-VT-Name 64 string
ATTRIBUTE Huawei-User-Date 65 string
ATTRIBUTE Huawei-User-Class 66 string
ATTRIBUTE Huawei-Subnet-Mask 72 ipaddr
ATTRIBUTE Huawei-Gateway-Address 73 ipaddr
ATTRIBUTE Huawei-Lease-Time 74 integer
ATTRIBUTE Huawei-Output-Burst-Size-64 100 octets
ATTRIBUTE Huawei-Input-Gigawords-64 101 octets
ATTRIBUTE Huawei-Domain-Name 138 string
ATTRIBUTE Huawei-Policy-Name 95 string
ATTRIBUTE Huawei-Acct-Packet-Type 255 integer

VALUE Huawei-Command Trigger-Request 1
VALUE Huawei-Command Terminate-Request 2
VALUE Huawei-Command SetPolicy 3
VALUE Huawei-Command Result 4
VALUE Huawei-Command SubscribeReq 5
VALUE Huawei-Command SubscribeAck 6
VALUE Huawei-Command UnsubscribeReq 7
VALUE Huawei-Command UnsubscribeAck 8

VALUE Huawei-Exec-Privilege Visit 0
VALUE Huawei-Exec-Privilege Monitor 1
VALUE Huawei-Exec-Privilege Config 2
VALUE Huawei-Exec-Privilege Manage 3

VALUE Huawei-IGMP-Enable Enabled 0
VALUE Huawei-IGMP-Enable Disabled 1

VALUE Huawei-Acct-Packet-Type Acct-Interim 1
VALUE Huawei-Acct-Packet-Type Realtime-Accounting 2

END-VENDOR Huawei
"

end Radius.Builtin
