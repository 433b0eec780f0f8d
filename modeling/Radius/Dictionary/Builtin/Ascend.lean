/-
# Dictionary text for Ascend access servers
-/

namespace Radius.Builtin

/-- The attributes of Ascend access servers, with the names of their values. -/
def ascend : String :=
"VENDOR Ascend 529

BEGIN-VENDOR Ascend

ATTRIBUTE Ascend-Max-Shared-Users 2 integer
ATTRIBUTE Ascend-UU-Info 7 string
ATTRIBUTE Ascend-CIR-Timer 9 integer
ATTRIBUTE Ascend-FR-08-Mode 10 integer
ATTRIBUTE Ascend-Destination-Nas-Port 11 integer
ATTRIBUTE Ascend-FR-SVC-Addr 12 string
ATTRIBUTE Ascend-NAS-Port-Format 13 integer
ATTRIBUTE Ascend-ATM-Fault-Management 14 integer
ATTRIBUTE Ascend-ATM-Loopback-Cell-Loss 15 integer
ATTRIBUTE Ascend-Ckt-Type 16 integer
ATTRIBUTE Ascend-SVC-Enabled 17 integer
ATTRIBUTE Ascend-Session-Type 18 integer
ATTRIBUTE Ascend-H323-Gatekeeper 19 ipaddr
ATTRIBUTE Ascend-Global-Call-Id 20 string
ATTRIBUTE Ascend-H323-Conference-Id 21 integer
ATTRIBUTE Ascend-H323-Fegw-Address 22 ipaddr
ATTRIBUTE Ascend-H323-Dialed-Time 23 integer
ATTRIBUTE Ascend-Dialed-Number 24 string
ATTRIBUTE Ascend-Inter-Arrival-Jitter 25 integer
ATTRIBUTE Ascend-Dropped-Octets 26 integer
ATTRIBUTE Ascend-Dropped-Packets 27 integer
ATTRIBUTE Ascend-X25-Pad-X3-Profile 29 integer
ATTRIBUTE Ascend-X25-Pad-X3-Parameters 30 string
ATTRIBUTE Ascend-Tunnel-VRouter-Name 31 string
ATTRIBUTE Ascend-Disconnect-Cause 195 integer
ATTRIBUTE Ascend-Connect-Progress 196 integer
ATTRIBUTE Ascend-Data-Rate 197 integer
ATTRIBUTE Ascend-PreSession-Time 198 integer
ATTRIBUTE Ascend-Token-Idle 199 integer
ATTRIBUTE Ascend-Require-Auth 201 integer
ATTRIBUTE Ascend-Number-Sessions 202 string
ATTRIBUTE Ascend-Authen-Alias 203 string
ATTRIBUTE Ascend-Token-Expiry 204 integer
ATTRIBUTE Ascend-Menu-Selector 205 string
ATTRIBUTE Ascend-Menu-Item 206 string
ATTRIBUTE Ascend-PW-Warntime 207 integer
ATTRIBUTE Ascend-PW-Lifetime 208 integer
ATTRIBUTE Ascend-IP-Direct 209 ipaddr
ATTRIBUTE Ascend-PPP-VJ-Slot-Comp 210 integer
ATTRIBUTE Ascend-PPP-VJ-1172 211 integer
ATTRIBUTE Ascend-PPP-Async-Map 212 integer
ATTRIBUTE Ascend-Third-Prompt 213 string
ATTRIBUTE Ascend-Send-Secret 214 string
ATTRIBUTE Ascend-Receive-Secret 215 string
ATTRIBUTE Ascend-IPX-Peer-Mode 216 integer
ATTRIBUTE Ascend-IP-Pool-Definition 217 string
ATTRIBUTE Ascend-Assign-IP-Pool 218 integer
ATTRIBUTE Ascend-FR-Direct 219 integer
ATTRIBUTE Ascend-FR-Direct-Profile 220 string
ATTRIBUTE Ascend-FR-Direct-DLCI 221 integer
ATTRIBUTE Ascend-Handle-IPX 222 integer
ATTRIBUTE Ascend-Netware-timeout 223 integer
ATTRIBUTE Ascend-IPX-Alias 224 integer
ATTRIBUTE Ascend-Metric 225 integer
ATTRIBUTE Ascend-PRI-Number-Type 226 integer
ATTRIBUTE Ascend-Dial-Number 227 string
ATTRIBUTE Ascend-Route-IP 228 integer
ATTRIBUTE Ascend-Route-IPX 229 integer
ATTRIBUTE Ascend-Bridge 230 integer
ATTRIBUTE Ascend-Send-Auth 231 integer
ATTRIBUTE Ascend-Send-Passwd 232 string
ATTRIBUTE Ascend-Link-Compression 233 integer
ATTRIBUTE Ascend-Target-Util 234 integer
ATTRIBUTE Ascend-Maximum-Channels 235 integer
ATTRIBUTE Ascend-Inc-Channel-Count 236 integer
ATTRIBUTE Ascend-Dec-Channel-Count 237 integer
ATTRIBUTE Ascend-Seconds-Of-History 238 integer
ATTRIBUTE Ascend-History-Weigh-Type 239 integer
ATTRIBUTE Ascend-Add-Seconds 240 integer
ATTRIBUTE Ascend-Remove-Seconds 241 integer
ATTRIBUTE Ascend-Data-Filter 242 abinary
ATTRIBUTE Ascend-Call-Filter 243 abinary
ATTRIBUTE Ascend-Idle-Limit 244 integer
ATTRIBUTE Ascend-Preempt-Limit 245 integer
ATTRIBUTE Ascend-Callback 246 integer
ATTRIBUTE Ascend-Data-Svc 247 integer
ATTRIBUTE Ascend-Force-56 248 integer
ATTRIBUTE Ascend-Billing-Number 249 string
ATTRIBUTE Ascend-Call-By-Call 250 integer
ATTRIBUTE Ascend-Transit-Number 251 string
ATTRIBUTE Ascend-Host-Info 252 string
ATTRIBUTE Ascend-PPP-Address 253 ipaddr
ATTRIBUTE Ascend-MPP-Idle-Percent 254 integer
ATTRIBUTE Ascend-Xmit-Rate 255 integer

VALUE Ascend-FR-08-Mode FR-08-Mode-No 0
VALUE Ascend-FR-08-Mode FR-08-Mode-Yes 1

VALUE Ascend-Ckt-Type Ascend-PVC 0
VALUE Ascend-Ckt-Type Ascend-SVC 1

VALUE Ascend-Session-Type Ascend-Unused 0
VALUE Ascend-Session-Type Ascend-Unknown 1
VALUE Ascend-Session-Type Ascend-G711-Ulaw 2
VALUE Ascend-Session-Type Ascend-G711-Alaw 3
VALUE Ascend-Session-Type Ascend-G723 4
VALUE Ascend-Session-Type Ascend-G729 5
VALUE Ascend-Session-Type Ascend-G723-64KPS 6
VALUE Ascend-Session-Type Ascend-G728 7
VALUE Ascend-Session-Type Ascend-RT24 8

VALUE Ascend-Disconnect-Cause No-Reason 0
VALUE Ascend-Disconnect-Cause Not-Applicable 1
VALUE Ascend-Disconnect-Cause Unknown 2
VALUE Ascend-Disconnect-Cause Call-Disconnected 3
VALUE Ascend-Disconnect-Cause CLID-Authentication-Failed 4
VALUE Ascend-Disconnect-Cause CLID-RADIUS-Timeout 5
VALUE Ascend-Disconnect-Cause Modem-No-DCD 10
VALUE Ascend-Disconnect-Cause DCD-Detected-But-Inactive 11
VALUE Ascend-Disconnect-Cause Modem-Invalid-Result-Codes 12
VALUE Ascend-Disconnect-Cause TermSrv-User-Quit 20
VALUE Ascend-Disconnect-Cause TermSrv-Idle-Timeout 21
VALUE Ascend-Disconnect-Cause TermSrv-Exit-Telnet 22
VALUE Ascend-Disconnect-Cause TermSrv-No-IPaddr 23
VALUE Ascend-Disconnect-Cause TermSrv-Exit-Raw-TCP 24
VALUE Ascend-Disconnect-Cause TermSrv-Exit-Login-Failed 25
VALUE Ascend-Disconnect-Cause TermSrv-Exit-Raw-TCP-Disabled 26
VALUE Ascend-Disconnect-Cause TermSrv-CTRL-C-In-Login 27
VALUE Ascend-Disconnect-Cause TermSrv-Destroyed 28
VALUE Ascend-Disconnect-Cause TermSrv-User-Closed-VCon 29
VALUE Ascend-Disconnect-Cause TermSrv-VCon-Destroyed 30
VALUE Ascend-Disconnect-Cause TermSrv-Exit-Rlogin 31
VALUE Ascend-Disconnect-Cause TermSrv-Bad-Rlogin-Option 32
VALUE Ascend-Disconnect-Cause TermSrv-Insufficient-Resources 33
VALUE Ascend-Disconnect-Cause MPP-No-NULL-Msg-Timeout 35
VALUE Ascend-Disconnect-Cause PPP-LCP-Timeout 40
VALUE Ascend-Disconnect-Cause PPP-LCP-Negotion-Failed 41
VALUE Ascend-Disconnect-Cause PPP-PAP-Auth-Failed 42
VALUE Ascend-Disconnect-Cause PPP-CHAP-Auth-Failed 43
VALUE Ascend-Disconnect-Cause PPP-Rmt-Auth-Failed 44
VALUE Ascend-Disconnect-Cause PPP-Rcv-Terminate-Req 45
VALUE Ascend-Disconnect-Cause PPP-Rcv-Close-Event 46
VALUE Ascend-Disconnect-Cause PPP-No-NCPs-Open 47
VALUE Ascend-Disconnect-Cause PPP-MP-Bundle-Unknown 48
VALUE Ascend-Disconnect-Cause PPP-LCP-Close-MP-Add-Fail 49
VALUE Ascend-Disconnect-Cause Session-Table-Full 50
VALUE Ascend-Disconnect-Cause Out-Of-Resources 51
VALUE Ascend-Disconnect-Cause Invalid-IP-Address 52
VALUE Ascend-Disconnect-Cause Hostname-Resolution-Failed 53
VALUE Ascend-Disconnect-Cause Bad-Or-Missing-Port-Number 54
VALUE Ascend-Disconnect-Cause Host-Reset 60
VALUE Ascend-Disconnect-Cause Connection-Refused 61
VALUE Ascend-Disconnect-Cause Connection-Timeout 62
VALUE Ascend-Disconnect-Cause Connection-Closed 63
VALUE Ascend-Disconnect-Cause Network-Unreachable 64
VALUE Ascend-Disconnect-Cause Host-Unreachable 65
VALUE Ascend-Disconnect-Cause Network-Unreachable-Admin 66
VALUE Ascend-Disconnect-Cause Host-Unreachable-Admin 67
VALUE Ascend-Disconnect-Cause Port-Unreachable 68
VALUE Ascend-Disconnect-Cause Session-Timeout 100
VALUE Ascend-Disconnect-Cause Invalid-Incoming-User 101
VALUE Ascend-Disconnect-Cause Disconnect-Due-To-Callback 102
VALUE Ascend-Disconnect-Cause Proto-Disabled-Or-Unsupported 120
VALUE Ascend-Disconnect-Cause Disconnect-Req-By-RADIUS 150
VALUE Ascend-Disconnect-Cause Disconnect-Req-By-Local-Admin 151
VALUE Ascend-Disconnect-Cause V110-Timeout-Sync-Retry-Exceed 160
VALUE Ascend-Disconnect-Cause PPP-Auth-Timer-Exp 170
VALUE Ascend-Disconnect-Cause Incoming-MP-Bundle-Mismatch 180
VALUE Ascend-Disconnect-Cause Invalid-Channel-Specified 181
VALUE Ascend-Disconnect-Cause Dialout-Retry-Exceeded 182
VALUE Ascend-Disconnect-Cause Call-Ended-By-Peer 185
VALUE Ascend-Disconnect-Cause Normal-Call-Clearing 190

VALUE Ascend-Connect-Progress Progress-Unknown 1
VALUE Ascend-Connect-Progress Call-Up 10
VALUE Ascend-Connect-Progress Modem-Up 30
VALUE Ascend-Connect-Progress Modem-Awaiting-DCD 31
VALUE Ascend-Connect-Progress Modem-Awaiting-Codes 32
VALUE Ascend-Connect-Progress TermSrv-Started 40
VALUE Ascend-Connect-Progress TermSrv-Raw-TCP-Started 41
VALUE Ascend-Connect-Progress TermSrv-Telnet-Started 42
VALUE Ascend-Connect-Progress TermSrv-Raw-TCP-Connected 43
VALUE Ascend-Connect-Progress TermSrv-Telnet-Connected 44
VALUE Ascend-Connect-Progress TermSrv-Rlogin-Started 45
VALUE Ascend-Connect-Progress TermSrv-Rlogin-Connected 46
VALUE Ascend-Connect-Progress Modem-Outdial-Call-Up 50
VALUE Ascend-Connect-Progress LAN-Session-Up 60
VALUE Ascend-Connect-Progress LCP-Opening 61
VALUE Ascend-Connect-Progress CCP-Opening 62
VALUE Ascend-Connect-Progress IPNCP-Opening 63
VALUE Ascend-Connect-Progress BNCP-Opening 64
VALUE Ascend-Connect-Progress LCP-Opened 65
VALUE Ascend-Connect-Progress CCP-Opened 66
VALUE Ascend-Connect-Progress IPNCP-Opened 67
VALUE Ascend-Connect-Progress BNCP-Opened 68

VALUE Ascend-Require-Auth Not-Require-Auth 0
VALUE Ascend-Require-Auth Require-Auth 1

VALUE Ascend-PPP-VJ-Slot-Comp VJ-Slot-Comp-No 1

VALUE Ascend-PPP-VJ-1172 PPP-VJ-1172 1

VALUE Ascend-IPX-Peer-Mode IPX-Peer-Router 0
VALUE Ascend-IPX-Peer-Mode IPX-Peer-Dialin 1

VALUE Ascend-FR-Direct FR-Direct-No 0
VALUE Ascend-FR-Direct FR-Direct-Yes 1

VALUE Ascend-Handle-IPX Handle-IPX-None 0
VALUE Ascend-Handle-IPX Handle-IPX-Client 1
VALUE Ascend-Handle-IPX Handle-IPX-Server 2

VALUE Ascend-PRI-Number-Type Unknown-Number 0
VALUE Ascend-PRI-Number-Type Intl-Number 1
VALUE Ascend-PRI-Number-Type National-Number 2
VALUE Ascend-PRI-Number-Type Local-Number 4
VALUE Ascend-PRI-Number-Type Abbrev-Number 5

VALUE Ascend-Route-IP Route-IP-No 0
VALUE Ascend-Route-IP Route-IP-Yes 1

VALUE Ascend-Route-IPX Route-IPX-No 0
VALUE Ascend-Route-IPX Route-IPX-Yes 1

VALUE Ascend-Bridge Bridge-No 0
VALUE Ascend-Bridge Bridge-Yes 1

VALUE Ascend-Send-Auth Send-Auth-None 0
VALUE Ascend-Send-Auth Send-Auth-PAP 1
VALUE Ascend-Send-Auth Send-Auth-CHAP 2
VALUE Ascend-Send-Auth Send-Auth-MS-CHAP 3

VALUE Ascend-Link-Compression Link-Comp-None 0
VALUE Ascend-Link-Compression Link-Comp-Stac 1
VALUE Ascend-Link-Compression Link-Comp-Stac-Draft-9 2
VALUE Ascend-Link-Compression Link-Comp-MS-Stac 3

VALUE Ascend-History-Weigh-Type History-Constant 0
VALUE Ascend-History-Weigh-Type History-Linear 1
VALUE Ascend-History-Weigh-Type History-Quadratic 2

VALUE Ascend-Callback Callback-No 0
VALUE Ascend-Callback Callback-Yes 1

VALUE Ascend-Force-56 Force-56-No 0
VALUE Ascend-Force-56 Force-56-Yes 1

END-VENDOR Ascend
"

end Radius.Builtin
