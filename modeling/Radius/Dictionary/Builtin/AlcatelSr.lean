/-
# Dictionary text for Alcatel-Lucent service routers
-/

namespace Radius.Builtin

/-- The attributes of Alcatel-Lucent service routers, with the names of their values. -/
def alcatelSr : String :=
"VENDOR Alcatel-Lucent-Service-Router 6527

BEGIN-VENDOR Alcatel-Lucent-Service-Router

ATTRIBUTE Timetra-Access 1 integer
ATTRIBUTE Timetra-Home-Directory 2 string
ATTRIBUTE Timetra-Restrict-To-Home 3 integer
ATTRIBUTE Timetra-Profile 4 string
ATTRIBUTE Timetra-Default-Action 5 integer
ATTRIBUTE Timetra-Cmd 6 string
ATTRIBUTE Timetra-Action 7 integer
ATTRIBUTE Timetra-Exec-File 8 string
ATTRIBUTE Alc-Primary-Dns 9 ipaddr
ATTRIBUTE Alc-Secondary-Dns 10 ipaddr
ATTRIBUTE Alc-Subsc-ID-Str 11 string
ATTRIBUTE Alc-Subsc-Prof-Str 12 string
ATTRIBUTE Alc-SLA-Prof-Str 13 string
ATTRIBUTE Alc-Force-Renew 14 string
ATTRIBUTE Alc-Create-Host 15 string
ATTRIBUTE Alc-ANCP-Str 16 string
ATTRIBUTE Alc-Retail-Serv-Id 17 integer
ATTRIBUTE Alc-Default-Router 18 ipaddr
ATTRIBUTE Alc-Acct-I-Inprof-Octets-64 19 octets
ATTRIBUTE Alc-Acct-I-Outprof-Octets-64 20 octets
ATTRIBUTE Alc-Acct-O-Inprof-Octets-64 21 octets
ATTRIBUTE Alc-Acct-O-Outprof-Octets-64 22 octets
ATTRIBUTE Alc-Acct-I-Inprof-Pkts-64 23 octets
ATTRIBUTE Alc-Acct-I-Outprof-Pkts-64 24 octets
ATTRIBUTE Alc-Acct-O-Inprof-Pkts-64 25 octets
ATTRIBUTE Alc-Acct-O-Outprof-Pkts-64 26 octets
ATTRIBUTE Alc-Client-Hardware-Addr 27 string
ATTRIBUTE Alc-Int-Dest-Id-Str 28 string
ATTRIBUTE Alc-Primary-Nbns 29 ipaddr
ATTRIBUTE Alc-Secondary-Nbns 30 ipaddr
ATTRIBUTE Alc-MSAP-Serv-Id 31 integer
ATTRIBUTE Alc-MSAP-Policy 32 string
ATTRIBUTE Alc-MSAP-Interface 33 string
ATTRIBUTE Alc-PPPoE-PADO-Delay 34 integer
ATTRIBUTE Alc-PPPoE-Service-Name 35 string
ATTRIBUTE Alc-DHCP-Vendor-Class-Id 36 string
ATTRIBUTE Alc-Acct-OC-I-Inprof-Octets-64 37 octets
ATTRIBUTE Alc-Acct-OC-I-Outprof-Octets-64 38 octets
ATTRIBUTE Alc-Acct-OC-O-Inprof-Octets-64 39 octets
ATTRIBUTE Alc-Acct-OC-O-Outprof-Octets-64 40 octets
ATTRIBUTE Alc-App-Prof-Str 45 string
ATTRIBUTE Alc-Tunnel-Group 46 string has_tag
ATTRIBUTE Alc-Tunnel-Algorithm 47 integer has_tag
ATTRIBUTE Alc-Tunnel-Max-Sessions 48 integer has_tag
ATTRIBUTE Alc-Tunnel-Idle-Timeout 49 integer has_tag
ATTRIBUTE Alc-Tunnel-Hello-Interval 50 integer has_tag
ATTRIBUTE Alc-Tunnel-Destruct-Timeout 51 integer has_tag
ATTRIBUTE Alc-Tunnel-Max-Retries-Estab 52 integer has_tag
ATTRIBUTE Alc-Tunnel-Max-Retries-Not-Estab 53 integer has_tag
ATTRIBUTE Alc-Tunnel-AVP-Hiding 54 integer has_tag
ATTRIBUTE Alc-BGP-Policy 55 string
ATTRIBUTE Alc-BGP-Auth-Keychain 56 string
ATTRIBUTE Alc-BGP-Auth-Key 57 octets
ATTRIBUTE Alc-BGP-Export-Policy 58 string
ATTRIBUTE Alc-BGP-Import-Policy 59 string
ATTRIBUTE Alc-BGP-PeerAS 60 integer
ATTRIBUTE Alc-IPsec-Serv-Id 61 integer
ATTRIBUTE Alc-IPsec-Interface 62 string
ATTRIBUTE Alc-IPsec-Tunnel-Template-Id 63 integer
ATTRIBUTE Alc-IPsec-SA-Lifetime 64 integer
ATTRIBUTE Alc-IPsec-SA-PFS-Group 65 integer
ATTRIBUTE Alc-IPsec-SA-Encr-Algorithm 66 integer
ATTRIBUTE Alc-IPsec-SA-Auth-Algorithm 67 integer
ATTRIBUTE Alc-IPsec-SA-Replay-Window 68 integer
ATTRIBUTE Alc-Acct-I-High-Octets-Drop_64 69 octets
ATTRIBUTE Alc-Acct-I-Low-Octets-Drop_64 70 octets
ATTRIBUTE Alc-Acct-I-High-Pack-Drop_64 71 octets
ATTRIBUTE Alc-Acct-I-Low-Pack-Drop_64 72 octets
ATTRIBUTE Alc-Acct-I-High-Octets-Offer_64 73 octets
ATTRIBUTE Alc-Acct-I-Low-Octets-Offer_64 74 octets
ATTRIBUTE Alc-Acct-I-High-Pack-Offer_64 75 octets
ATTRIBUTE Alc-Acct-I-Low-Pack-Offer_64 76 octets
ATTRIBUTE Alc-Acct-I-Unc-Octets-Offer_64 77 octets
ATTRIBUTE Alc-Acct-I-Unc-Pack-Offer_64 78 octets
ATTRIBUTE Alc-Acct-I-All-Octets-Offer_64 79 octets
ATTRIBUTE Alc-Acct-I-All-Pack-Offer_64 80 octets
ATTRIBUTE Alc-Acct-O-Inprof-Pack-Drop_64 81 octets
ATTRIBUTE Alc-Acct-O-Outprof-Pack-Drop_64 82 octets
ATTRIBUTE Alc-Acct-O-Inprof-Octs-Drop_64 83 octets
ATTRIBUTE Alc-Acct-O-Outprof-Octs-Drop_64 84 octets
ATTRIBUTE Alc-Credit-Control-CategoryMap 94 string
ATTRIBUTE Alc-Credit-Control-Quota 95 string
ATTRIBUTE Alc-Tunnel-Challenge 96 integer has_tag
ATTRIBUTE Alc-Force-Nak 97 string
ATTRIBUTE Alc-Ipv6-Address 99 ipv6addr
ATTRIBUTE Alc-Serv-Id 100 integer
ATTRIBUTE Alc-Interface 101 string
ATTRIBUTE Alc-ToServer-Dhcp-Options 102 octets
ATTRIBUTE Alc-ToClient-Dhcp-Options 103 octets
ATTRIBUTE Alc-Tunnel-Serv-Id 104 integer
ATTRIBUTE Alc-Ipv6-Primary-Dns 105 ipv6addr
ATTRIBUTE Alc-Ipv6-Secondary-Dns 106 ipv6addr
ATTRIBUTE Alc-Acct-I-statmode 107 string
ATTRIBUTE Alc-Acct-I-Hprof-Octets-Drop_64 108 octets
ATTRIBUTE Alc-Acct-O-statmode 118 string
ATTRIBUTE Alc-Subscriber-QoS-Override 126 string
ATTRIBUTE Alc-Delegated-IPv6-Pool 131 string
ATTRIBUTE Alc-Access-Loop-Rate-Down 132 integer
ATTRIBUTE Alc-Access-Loop-Encap-Offset 133 octets
ATTRIBUTE Alc-Subscriber-Filter 134 string
ATTRIBUTE Alc-PPP-Force-IPv6CP 135 integer
ATTRIBUTE Alc-Onetime-Http-Redirection-Filter-Id 136 string
ATTRIBUTE Alc-Authentication-Policy-Name 137 string
ATTRIBUTE Alc-LI-Action 138 integer
ATTRIBUTE Alc-LI-Destination 139 string
ATTRIBUTE Alc-LI-FC 140 integer
ATTRIBUTE Alc-LI-Direction 141 integer
ATTRIBUTE Alc-Subscriber-Prefix-Type 142 integer
ATTRIBUTE Alc-Wlan-Portal-Redirect 172 string
ATTRIBUTE Alc-Wlan-Portal-Url 173 string
ATTRIBUTE Alc-Lease-Time 174 integer
ATTRIBUTE Alc-DSL-Line-State 175 integer
ATTRIBUTE Alc-DSL-Type 176 integer
ATTRIBUTE Alc-Portal-Url 177 string
ATTRIBUTE Alc-Ipv6-Portal-Url 178 string
ATTRIBUTE Alc-SAP-Session-Index 180 integer
ATTRIBUTE Alc-SLAAC-IPv6-Pool 181 string
ATTRIBUTE Alc-WPP-Error-Code 183 integer
ATTRIBUTE Alc-Onetime-Http-Redirect-Reactivate 185 string
ATTRIBUTE Alc-Wlan-Dia-Kit 186 string
ATTRIBUTE Alc-Nat-Port-Range 190 string
ATTRIBUTE Alc-Wlan-SSID-VLAN 193 string
ATTRIBUTE Alc-UPnP-Sub-Override-Policy 194 string
ATTRIBUTE Alc-Trigger-Acct-Interim 195 string
ATTRIBUTE Alc-Acct-Triggered-Reason 196 integer
ATTRIBUTE Alc-Wlan-Ue-Creation-Type 197 integer
ATTRIBUTE Alc-Wlan-Ue-Creation-Event 198 integer
ATTRIBUTE Alc-Wlan-Ue-Creation-Reason 199 integer
ATTRIBUTE Alc-Mgw-Interface-Type 200 integer
ATTRIBUTE Alc-Wlan-SSID 201 string
ATTRIBUTE Alc-Bonding-Id 235 string
ATTRIBUTE Alc-Bonding-Reference-Rate 236 integer

VALUE Timetra-Access ftp 1
VALUE Timetra-Access console 2
VALUE Timetra-Access both 3

VALUE Timetra-Restrict-To-Home true 1
VALUE Timetra-Restrict-To-Home false 2

VALUE Timetra-Default-Action permit-all 1
VALUE Timetra-Default-Action deny-all 2
VALUE Timetra-Default-Action none 3

VALUE Timetra-Action permit 1
VALUE Timetra-Action deny 2

VALUE Alc-Tunnel-Algorithm weighted-access 1
VALUE Alc-Tunnel-Algorithm existing-first 2
VALUE Alc-Tunnel-Algorithm weighted-random 3

VALUE Alc-Tunnel-AVP-Hiding nothing 1
VALUE Alc-Tunnel-AVP-Hiding sensitive-only 2
VALUE Alc-Tunnel-AVP-Hiding all 3

VALUE Alc-Tunnel-Challenge never 1
VALUE Alc-Tunnel-Challenge always 2

VALUE Alc-PPP-Force-IPv6CP true 1
VALUE Alc-PPP-Force-IPv6CP false 2

VALUE Alc-LI-Action no-action 1
VALUE Alc-LI-Action enable 2
VALUE Alc-LI-Action disable 3

VALUE Alc-LI-Direction ingress 1
VALUE Alc-LI-Direction egress 2

VALUE Alc-Subscriber-Prefix-Type pd 1
VALUE Alc-Subscriber-Prefix-Type wan-host 2

VALUE Alc-DSL-Line-State SHOWTIME 1
VALUE Alc-DSL-Line-State IDLE 2
VALUE Alc-DSL-Line-State SILENT 3

VALUE Alc-DSL-Type ADSL1 1
VALUE Alc-DSL-Type ADSL2 2
VALUE Alc-DSL-Type ADSL2PLUS 3
VALUE Alc-DSL-Type VDSL1 4
VALUE Alc-DSL-Type VDSL2 5
VALUE Alc-DSL-Type SDSL 6
VALUE Alc-DSL-Type other 7

VALUE Alc-Acct-Triggered-Reason regular 1
VALUE Alc-Acct-Triggered-Reason sla-start 2
VALUE Alc-Acct-Triggered-Reason sla-stop 3
VALUE Alc-Acct-Triggered-Reason Framed-IP-Address-up 4
VALUE Alc-Acct-Triggered-Reason Framed-IP-Address-down 5
VALUE Alc-Acct-Triggered-Reason Alc-Ipv6-Address-up 6
VALUE Alc-Acct-Triggered-Reason Alc-Ipv6-Address-down 7
VALUE Alc-Acct-Triggered-Reason Delegated-IPv6-Prefix-up 8
VALUE Alc-Acct-Triggered-Reason Delegated-IPv6-Prefix-down 9
VALUE Alc-Acct-Triggered-Reason Framed-IPv6-Prefix-up 10
VALUE Alc-Acct-Triggered-Reason Framed-IPv6-Prefix-down 11

VALUE Alc-Wlan-Ue-Creation-Type iom 1
VALUE Alc-Wlan-Ue-Creation-Type cpm 2

VALUE Alc-Mgw-Interface-Type gn 1
VALUE Alc-Mgw-Interface-Type s2a 2
VALUE Alc-Mgw-Interface-Type s2b 3

END-VENDOR Alcatel-Lucent-Service-Router
"

end Radius.Builtin
