/-
# Dictionary text for Cisco ASA firewalls
-/

namespace Radius.Builtin

/-- The attributes of Cisco ASA firewalls, with the names of their values. -/
def ciscoAsa : String :=
"VENDOR Cisco-ASA 3076

BEGIN-VENDOR Cisco-ASA

ATTRIBUTE ASA-Access-Hours 1 string
ATTRIBUTE ASA-Simultaneous-Logins 2 integer
ATTRIBUTE ASA-Primary-DNS 5 ipaddr
ATTRIBUTE ASA-Secondary-DNS 6 ipaddr
ATTRIBUTE ASA-Primary-WINS 7 ipaddr
ATTRIBUTE ASA-Secondary-WINS 8 ipaddr
ATTRIBUTE ASA-SEP-Card-Assignment 9 integer
ATTRIBUTE ASA-Tunneling-Protocols 11 integer
ATTRIBUTE ASA-IPsec-Sec-Association 12 string
ATTRIBUTE ASA-IPsec-Authentication 13 integer
ATTRIBUTE ASA-Banner1 15 string
ATTRIBUTE ASA-IPsec-Allow-Passwd-Store 16 integer
ATTRIBUTE ASA-Use-Client-Address 17 integer
ATTRIBUTE ASA-PPTP-Encryption 20 integer
ATTRIBUTE ASA-L2TP-Encryption 21 integer
ATTRIBUTE ASA-Group-Policy 25 string
ATTRIBUTE ASA-IPsec-Split-Tunnel-List 27 string
ATTRIBUTE ASA-IPsec-Default-Domain 28 string
ATTRIBUTE ASA-IPsec-Split-DNS-Names 29 string
ATTRIBUTE ASA-IPsec-Tunnel-Type 30 integer
ATTRIBUTE ASA-IPsec-Mode-Config 31 integer
ATTRIBUTE ASA-IPsec-Over-UDP 34 integer
ATTRIBUTE ASA-IPsec-Over-UDP-Port 35 integer
ATTRIBUTE ASA-Banner2 36 string
ATTRIBUTE ASA-PPTP-MPPC-Compression 37 integer
ATTRIBUTE ASA-L2TP-MPPC-Compression 38 integer
ATTRIBUTE ASA-IPsec-IP-Compression 39 integer
ATTRIBUTE ASA-IPsec-IKE-Peer-ID-Check 40 integer
ATTRIBUTE ASA-IKE-Keep-Alives 41 integer
ATTRIBUTE ASA-IPsec-Auth-On-Rekey 42 integer
ATTRIBUTE ASA-Required-Client-Firewall-Vendor-Code 45 integer
ATTRIBUTE ASA-Authenticated-User-Idle-Timeout 50 integer
ATTRIBUTE ASA-Cisco-IP-Phone-Bypass 51 integer
ATTRIBUTE ASA-IPsec-Split-Tunneling-Policy 55 integer
ATTRIBUTE ASA-IPsec-Required-Client-Firewall-Capability 56 integer
ATTRIBUTE ASA-IPsec-Client-Firewall-Filter-Name 57 string
ATTRIBUTE ASA-IPsec-Backup-Servers 59 integer
ATTRIBUTE ASA-IPsec-Backup-Server-List 60 string
ATTRIBUTE ASA-DHCP-Network-Scope 61 string
ATTRIBUTE ASA-MS-Client-Subnet-Mask 63 ipaddr
ATTRIBUTE ASA-Allow-Network-Extension-Mode 64 integer
ATTRIBUTE ASA-Authorization-Type 65 integer
ATTRIBUTE ASA-Authorization-Required 66 integer
ATTRIBUTE ASA-Authorization-DN-Field 67 string
ATTRIBUTE ASA-IKE-KeepAlive-Confidence-Interval 68 integer
ATTRIBUTE ASA-WebVPN-Content-Filter-Parameters 69 integer
ATTRIBUTE ASA-Member-Of 145 string
ATTRIBUTE ASA-Client-Type 150 integer
ATTRIBUTE ASA-Session-Type 151 integer
ATTRIBUTE ASA-Session-Subtype 152 integer
ATTRIBUTE ASA-Address-Pools 217 string
ATTRIBUTE ASA-IPv6-Address-Pools 218 string
ATTRIBUTE ASA-IPv6-VPN-Filter 219 string

VALUE ASA-Tunneling-Protocols PPTP 1
VALUE ASA-Tunneling-Protocols L2TP 2
VALUE ASA-Tunneling-Protocols IPSec 4
VALUE ASA-Tunneling-Protocols L2TP-over-IPSec 8
VALUE ASA-Tunneling-Protocols WebVPN 16
VALUE ASA-Tunneling-Protocols SVC 32
VALUE ASA-Tunneling-Protocols IKEv2 64

VALUE ASA-IPsec-Authentication None 0
VALUE ASA-IPsec-Authentication RADIUS 1
VALUE ASA-IPsec-Authentication LDAP-Authorization-Only 2
VALUE ASA-IPsec-Authentication NT-Domain 3
VALUE ASA-IPsec-Authentication SDI 4
VALUE ASA-IPsec-Authentication Internal 5
VALUE ASA-IPsec-Authentication RADIUS-with-Expiry 6
VALUE ASA-IPsec-Authentication Kerberos-Active-Directory 7

VALUE ASA-IPsec-Tunnel-Type LAN-to-LAN 1
VALUE ASA-IPsec-Tunnel-Type Remote-Access 2

VALUE ASA-IPsec-Split-Tunneling-Policy No-Split-Tunneling 0
VALUE ASA-IPsec-Split-Tunneling-Policy Split-Tunneling 1
VALUE ASA-IPsec-Split-Tunneling-Policy Local-LAN-Permitted 2

VALUE ASA-Client-Type Cisco-VPN-Client 1
VALUE ASA-Client-Type AnyConnect-Client-SSL-VPN 2
VALUE ASA-Client-Type Clientless-SSL-VPN 3
VALUE ASA-Client-Type Cut-Through-Proxy 4
VALUE ASA-Client-Type L2TP-IPsec-SSL-VPN 5
VALUE ASA-Client-Type AnyConnect-Client-IPsec-VPN 6

VALUE ASA-Session-Type None 0
VALUE ASA-Session-Type AnyConnect-Client-SSL-VPN 1
VALUE ASA-Session-Type AnyConnect-Client-IPSec-VPN 2
VALUE ASA-Session-Type Clientless-SSL-VPN 3
VALUE ASA-Session-Type Clientless-Email-Proxy 4
VALUE ASA-Session-Type Cisco-VPN-Client 5
VALUE ASA-Session-Type IKEv1-IPSec-VPN 6
VALUE ASA-Session-Type IKEv2-IPSec-VPN 7

VALUE ASA-Session-Subtype None 0
VALUE ASA-Session-Subtype Clientless 1
VALUE ASA-Session-Subtype Client 2
VALUE ASA-Session-Subtype Client-Only 3

END-VENDOR Cisco-ASA
"

end Radius.Builtin
