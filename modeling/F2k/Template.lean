import F2k.Lib.Text

namespace F2k

open Lib

/-! The NetFlow V9 and IPFIX information elements the collector knows, and the templates an
exporter announces over them. -/

inductive ExportFn
  | saveFlowBytes
  | printNumber
  | saveFlowPkts
  | printTcpFlags
  | processSrcPort
  | printIpv4SrcAddr
  | printNet
  | printNetName
  | processInputSnmp
  | printInterfaceName
  | printInterfaceDescription
  | processDstPort
  | printIpv4DstAddr
  | processOutputSnmp
  | saveLastSwitched
  | saveFirstSwitched
  | printIpv6SrcAddr
  | printIpv6DstAddr
  | printNetNameV6
  | printNetV6
  | printEngineIdName
  | processSrcMac
  | processPostSrcMac
  | processDirection
  | printFlowCacheDirection
  | processDstMac
  | processPostDstMac
  | printApplicationIdName
  | printFlowEndReason
  | saveFirstSecond
  | saveLastSecond
  | saveFirstMsecond
  | saveLastMsecond
  | printBiflowDirection
  | printSelectorName
  | printString
  | printCountryCode
  | printASIpv4Name
  | printCountry6Code
  | printAS6Name
  | printLanCountryCode
  | printWanCountryCode
  | printLanASName
  | printWanASName
  | printHttpUrl
  | printHttpHost
  | printHttpHostL2
  | printHttpUserAgent
  | printHttpReferer
  | printHttpsCommonName
  | printHost
  | printHostL2
  | printReferer
  | printRefererL2
  | printSsidName
  | printClientMac
  | printDirectionBasedClientMac
  | printMacMap
  | printMacVendor
  | printDirectionBasedClientMacVendor
  | printLanAddr
  | printLanAddrNet
  | printLanAddrNetName
  | printWanAddr
  | printWanAddrNet
  | printWanAddrNetName
  | printLanPort
  | printWanPort
  | printLanInterface
  | printLanInterfaceName
  | printLanInterfaceDescription
  | printWanInterface
  | printWanInterfaceName
  | printWanInterfaceDescription
  | printStaIpv4Address
  | printMac
  | printNetflowType
  | printClientName
  | printTargetName
deriving DecidableEq, Repr

/-- `V9V10TemplateElementId`: identifier, whether the value is quoted, the name in the
message, the exporter, and the elements printed from the same bytes afterwards. -/
inductive Element
  | mk (templateElementId : UInt16) (quote : Bool) (jsonElementName : Option Bytes)
      (exportFn : Option ExportFn) (postTemplate : List Element)

namespace Element

def templateElementId : Element → UInt16
  | mk templateElementId _ _ _ _ => templateElementId

def quote : Element → Bool
  | mk _ quote _ _ _ => quote

def jsonElementName : Element → Option Bytes
  | mk _ _ jsonElementName _ _ => jsonElementName

def exportFn : Element → Option ExportFn
  | mk _ _ _ exportFn _ => exportFn

def postTemplate : Element → List Element
  | mk _ _ _ _ postTemplate => postTemplate

end Element

def ntopBaseId : UInt16 := 57472

/-- `PRIVATE_ENTITY_ID`: the preprocessor's counter only keeps the identifiers above
`ntopBaseId + 1024` and apart from each other. -/
def privateEntityId (counter : UInt16) : UInt16 := ntopBaseId + 1024 + counter

def entity (templateElementId : UInt16) (quote : Bool) (jsonElementName : Option String)
    (exportFn : Option ExportFn) (postTemplate : List Element) : Element :=
  .mk templateElementId quote (jsonElementName.map ascii) exportFn postTemplate

/-! Elements the code or other elements refer to by name. -/

def inBytes : Element :=
  entity 1 false (some "bytes") (some .saveFlowBytes) []

def printInBytes : Element :=
  entity (privateEntityId 0) false (some "bytes") (some .printNumber) []

def inPkts : Element :=
  entity 2 false (some "pkts") (some .saveFlowPkts) []

def printInPkts : Element :=
  entity (privateEntityId 1) false (some "pkts") (some .printNumber) []

def protocol : Element :=
  entity 4 false (some "l4_proto") (some .printNumber) []

def srcTos : Element :=
  entity 5 false (some "tos") (some .printNumber) []

def tcpFlags : Element :=
  entity 6 true (some "tcp_flags") (some .printTcpFlags) []

def l4SrcPort : Element :=
  entity 7 false (some "src_port") (some .processSrcPort) []

def ipv4SrcNetName : Element :=
  entity (privateEntityId 3) true (some "src_net_name") (some .printNetName) []

def ipv4SrcNet : Element :=
  entity (privateEntityId 2) true (some "src_net") (some .printNet) [ipv4SrcNetName]

def srcIpCountry : Element :=
  entity (privateEntityId 26) true (some "src_country_code") (some .printCountryCode) []

def ipv4SrcAsnumName : Element :=
  entity (privateEntityId 28) true (some "src_as_name") (some .printASIpv4Name) []

def ipv4SrcAddr : Element :=
  entity 8 true (some "src") (some .printIpv4SrcAddr)
    [ipv4SrcNet, srcIpCountry, ipv4SrcAsnumName]

def inputSnmpName : Element :=
  entity (privateEntityId 4) true (some "input_snmp_name") (some .printInterfaceName) []

def inputSnmpDescription : Element :=
  entity (privateEntityId 5) true (some "input_snmp_description") (some .printInterfaceDescription)
    []

def inputSnmp : Element :=
  entity 10 false (some "input_snmp") (some .processInputSnmp)
    [inputSnmpName, inputSnmpDescription]

def l4DstPort : Element :=
  entity 11 false (some "dst_port") (some .processDstPort) []

def ipv4DstNetName : Element :=
  entity (privateEntityId 7) true (some "dst_net_name") (some .printNetName) []

def ipv4DstNet : Element :=
  entity (privateEntityId 6) true (some "dst_net") (some .printNet) [ipv4DstNetName]

def dstIpCountry : Element :=
  entity (privateEntityId 27) true (some "dst_country_code") (some .printCountryCode) []

def ipv4DstAsnumName : Element :=
  entity (privateEntityId 29) true (some "dst_as_name") (some .printASIpv4Name) []

def ipv4DstAddr : Element :=
  entity 12 true (some "dst") (some .printIpv4DstAddr)
    [ipv4DstNet, dstIpCountry, ipv4DstAsnumName]

def outputSnmpName : Element :=
  entity (privateEntityId 8) true (some "output_snmp_name") (some .printInterfaceName) []

def outputSnmpDescription : Element :=
  entity (privateEntityId 9) true (some "output_snmp_description") (some .printInterfaceDescription)
    []

def outputSnmp : Element :=
  entity 14 false (some "output_snmp") (some .processOutputSnmp)
    [outputSnmpName, outputSnmpDescription]

def lastSwitched : Element :=
  entity 21 false (some "timestamp") (some .saveLastSwitched) []

def printLastSwitched : Element :=
  entity (privateEntityId 10) false (some "timestamp") (some .printNumber) []

def firstSwitched : Element :=
  entity 22 false (some "first_switched") (some .saveFirstSwitched) []

def printFirstSwitched : Element :=
  entity (privateEntityId 11) false (some "first_switched") (some .printNumber) []

def ipv6SrcNetName : Element :=
  entity (privateEntityId 13) true (some "src_net_name") (some .printNetNameV6) []

def ipv6SrcNet : Element :=
  entity (privateEntityId 14) true (some "src_net") (some .printNetV6) [ipv6SrcNetName]

def ipv6SrcIpCountry : Element :=
  entity (privateEntityId 30) true (some "src_country_code") (some .printCountry6Code) []

def ipv6SrcAsName : Element :=
  entity (privateEntityId 32) true (some "src_as_name") (some .printAS6Name) []

def ipv6SrcAddr : Element :=
  entity 27 true (some "src") (some .printIpv6SrcAddr)
    [ipv6SrcNet, ipv6SrcIpCountry, ipv6SrcAsName]

def ipv6DstNetName : Element :=
  entity (privateEntityId 16) true (some "dst_net_name") (some .printNetNameV6) []

def ipv6DstNet : Element :=
  entity (privateEntityId 17) true (some "dst_net") (some .printNetV6) [ipv6DstNetName]

def ipv6DstIpCountry : Element :=
  entity (privateEntityId 31) true (some "dst_country_code") (some .printCountry6Code) []

def ipv6DstAsName : Element :=
  entity (privateEntityId 33) true (some "dst_as_name") (some .printAS6Name) []

def ipv6DstAddr : Element :=
  entity 28 true (some "dst") (some .printIpv6DstAddr)
    [ipv6DstNet, ipv6DstIpCountry, ipv6DstAsName]

def engineType : Element :=
  entity 38 false (some "engine_type") (some .printNumber) []

def engineIdName : Element :=
  entity (privateEntityId 18) true (some "engine_id_name") (some .printEngineIdName) []

def engineId : Element :=
  entity 39 false (some "engine_id") none [engineIdName]

def printDirection : Element :=
  entity (privateEntityId 23) true (some "direction") (some .printFlowCacheDirection) []

def applicationName : Element :=
  entity 96 true (some "application_id_name") (some .printApplicationIdName) []

def applicationId : Element :=
  entity 95 true (some "application_id") none [applicationName, engineId]

def selectorName : Element :=
  entity 335 true (some "selector_name") (some .printSelectorName) []

def selectorId : Element :=
  entity 302 false (some "selector_id") (some .printNumber) [selectorName]

def staIpv4AddressIpCountry : Element :=
  entity (privateEntityId 34) true (some "lan_ip_country_code") (some .printCountryCode) []

def staIpv4AddressAsName : Element :=
  entity (privateEntityId 35) true (some "lan_ip_as_name") (some .printASIpv4Name) []

def lanIpCountry : Element :=
  entity (privateEntityId 36) true (some "lan_ip_country_code") (some .printLanCountryCode) []

def wanIpCountry : Element :=
  entity (privateEntityId 37) true (some "wan_ip_country_code") (some .printWanCountryCode) []

def lanIpAsName : Element :=
  entity (privateEntityId 38) true (some "lan_ip_as_name") (some .printLanASName) []

def wanIpAsName : Element :=
  entity (privateEntityId 39) true (some "wan_ip_as_name") (some .printWanASName) []

def ciscoHttpUrl : Element :=
  entity (privateEntityId 40) true (some "http_url") (some .printHttpUrl) []

def ciscoHttpHostL2 : Element :=
  entity (privateEntityId 42) true (some "http_host_l2") (some .printHttpHostL2) []

def ciscoHttpHost : Element :=
  entity (privateEntityId 41) true (some "http_host") (some .printHttpHost) [ciscoHttpHostL2]

def ciscoHttpUserAgent : Element :=
  entity (privateEntityId 43) true (some "http_user_agent") (some .printHttpUserAgent) []

def ciscoHttpRefererL2 : Element :=
  entity (privateEntityId 46) true (some "http_referer_l2") none []

def ciscoHttpReferer : Element :=
  entity (privateEntityId 45) true (some "http_referer") (some .printHttpReferer)
    [ciscoHttpRefererL2]

def ciscoHttpsCommonName : Element :=
  entity (privateEntityId 47) true (some "https_common_name") (some .printHttpsCommonName) []

def ciscoUrl : Element :=
  entity 12235 true (some "") none
    [ciscoHttpUrl, ciscoHttpHost, ciscoHttpUserAgent, ciscoHttpReferer, ciscoHttpsCommonName]

def hostL2 : Element :=
  entity (privateEntityId 49) true (some "host_l2_domain") (some .printHostL2) []

def host : Element :=
  entity (privateEntityId 48) true (some "host") (some .printHost) [hostL2]

def refererL2 : Element :=
  entity (privateEntityId 51) true (some "referer_l2") (some .printRefererL2) []

def referer : Element :=
  entity (privateEntityId 50) true (some "referer") (some .printReferer) [refererL2]

def clientMacVendor : Element :=
  entity (privateEntityId 63) true (some "client_mac_vendor") (some .printMacVendor) []

def clientMacAddress : Element :=
  entity (privateEntityId 60) true (some "client_mac") (some .printClientMac) [clientMacVendor]

def staMacAddress : Element :=
  entity 365 true (some "sta_mac") none [clientMacAddress]

def directionBasedClientMacVendor : Element :=
  entity (privateEntityId 64) true (some "client_mac_vendor") (some .printDirectionBasedClientMacVendor)
    []

def clientMacBasedOnDirection : Element :=
  entity (privateEntityId 61) true (some "client_mac") (some .printDirectionBasedClientMac)
    [directionBasedClientMacVendor]

def lanIpNetNameBasedOnDirection : Element :=
  entity (privateEntityId 67) true (some "lan_ip_net_name") (some .printLanAddrNetName) []

def lanIpNetBasedOnDirection : Element :=
  entity (privateEntityId 66) true (some "lan_ip_net") (some .printLanAddrNet)
    [lanIpNetNameBasedOnDirection]

def lanIpBasedOnDirection : Element :=
  entity (privateEntityId 65) true (some "lan_ip") (some .printLanAddr)
    [lanIpNetBasedOnDirection, lanIpCountry, lanIpAsName]

def wanIpNetNameBasedOnDirection : Element :=
  entity (privateEntityId 70) true (some "wan_ip_net_name") (some .printWanAddrNetName) []

def wanIpNetBasedOnDirection : Element :=
  entity (privateEntityId 69) true (some "wan_ip_net") (some .printWanAddrNet)
    [wanIpNetNameBasedOnDirection]

def wanIpBasedOnDirection : Element :=
  entity (privateEntityId 68) true (some "wan_ip") (some .printWanAddr)
    [wanIpNetBasedOnDirection, wanIpCountry, wanIpAsName]

def lanPort : Element :=
  entity (privateEntityId 71) false (some "lan_l4_port") (some .printLanPort) []

def wanPort : Element :=
  entity (privateEntityId 72) false (some "wan_l4_port") (some .printWanPort) []

def lanInterfaceName : Element :=
  entity (privateEntityId 74) true (some "lan_interface_name") (some .printLanInterfaceName) []

def lanInterfaceDescription : Element :=
  entity (privateEntityId 75) true (some "lan_interface_description") (some .printLanInterfaceDescription)
    []

def lanInterface : Element :=
  entity (privateEntityId 73) false (some "lan_interface") (some .printLanInterface)
    [lanInterfaceName, lanInterfaceDescription]

def wanInterfaceName : Element :=
  entity (privateEntityId 77) true (some "wan_interface_name") (some .printWanInterfaceName) []

def wanInterfaceDescription : Element :=
  entity (privateEntityId 78) true (some "wan_interface_description") (some .printWanInterfaceDescription)
    []

def wanInterface : Element :=
  entity (privateEntityId 76) false (some "wan_interface") (some .printWanInterface)
    [wanInterfaceName, wanInterfaceDescription]

def staIpv4AddressNetName : Element :=
  entity (privateEntityId 80) true (some "lan_ip_net_name") (some .printNetName) []

def staIpv4AddressNet : Element :=
  entity (privateEntityId 79) true (some "lan_ip_net") (some .printNet) [staIpv4AddressNetName]

def staIpv4Address : Element :=
  entity 366 true (some "lan_ip") (some .printStaIpv4Address)
    [staIpv4AddressNet, staIpv4AddressIpCountry, staIpv4AddressAsName]

def redborderType : Element :=
  entity (privateEntityId 81) true (some "type") (some .printNetflowType) []

def flowSequence : Element :=
  entity (privateEntityId 82) true (some "flow_sequence") (some .printNumber) []

def dnsClientName : Element :=
  entity (privateEntityId 83) true (some "lan_ip_name") (some .printClientName) []

def dnsTargetName : Element :=
  entity (privateEntityId 84) true (some "wan_ip_name") (some .printTargetName) []

/-! The table `ver9_templates`, up to its end mark. -/

def ver9Templates : List Element := [
  inBytes, printInBytes, inPkts, printInPkts,
  entity 3 false (some "flows") none [],
  protocol, srcTos, tcpFlags, l4SrcPort, ipv4SrcAddr, ipv4SrcNet, ipv4SrcNetName,
  entity 9 true (some "ipv4_src_mask") none [],
  inputSnmp, inputSnmpName, inputSnmpDescription, l4DstPort, ipv4DstAddr, ipv4DstNet,
  ipv4DstNetName,
  entity 13 true (some "ipv4_dst_mask") none [],
  outputSnmp, outputSnmpName, outputSnmpDescription,
  entity 15 true (some "ipv4_next_hop") none [],
  entity 16 false (some "prev_as") (some .printNumber) [],
  entity 17 false (some "next_as") (some .printNumber) [],
  lastSwitched, printLastSwitched, firstSwitched, printFirstSwitched,
  entity 23 false (some "out_bytes") none [],
  entity 24 false (some "out_pkts") none [],
  ipv6SrcAddr, ipv6DstAddr,
  entity 29 false (some "ipv6_src_mask") none [],
  entity 30 false (some "ipv6_dst_mask") none [],
  entity (privateEntityId 12) true (some "src_name") none [],
  ipv6SrcNetName, ipv6SrcNet,
  entity (privateEntityId 15) true (some "dst_name") none [],
  ipv6DstNetName, ipv6DstNet,
  entity 32 false (some "icmp_type") none [],
  entity 34 false (some "sampling_interval") none [],
  entity 35 false (some "sampling_algorithm") none [],
  entity 36 false (some "flow_active_timeout") none [],
  entity 37 false (some "flow_inactive_timeout") none [],
  engineType, engineId, engineIdName,
  entity 40 false (some "total_bytes_exp") none [],
  entity 41 false (some "total_pkts_exp") none [],
  entity 42 false (some "total_flows_exp") none [],
  entity 48 false (some "flow_sampler_id") none [],
  entity 52 false (some "min_ttl") none [],
  entity 53 false (some "max_ttl") none [],
  entity 56 true (some "src_mac") (some .processSrcMac) [],
  entity 81 true (some "post_dst_mac") (some .processPostSrcMac) [],
  entity (privateEntityId 19) true (some "in_src_mac_name") none [],
  entity (privateEntityId 20) true (some "out_src_mac_name") none [],
  entity 58 false (some "cisco_src_vlan") (some .printNumber) [],
  entity 59 false (some "cisco_dst_vlan") (some .printNumber) [],
  entity 243 false (some "src_vlan") (some .printNumber) [],
  entity 254 false (some "dst_vlan") (some .printNumber) [],
  entity (privateEntityId 21) true (some "src_vlan_name") none [],
  entity (privateEntityId 22) true (some "dst_vlan_name") none [],
  entity 60 false (some "ip_protocol_version") (some .printNumber) [],
  entity 61 true (some "direction") (some .processDirection) [],
  printDirection,
  entity 62 true (some "ipv6_next_hop") none [],
  entity 70 false (some "mpls_label_1") none [],
  entity 71 false (some "mpls_label_2") none [],
  entity 72 false (some "mpls_label_3") none [],
  entity 73 false (some "mpls_label_4") none [],
  entity 74 false (some "mpls_label_5") none [],
  entity 75 false (some "mpls_label_6") none [],
  entity 76 false (some "mpls_label_7") none [],
  entity 77 false (some "mpls_label_8") none [],
  entity 78 false (some "mpls_label_9") none [],
  entity 79 false (some "mpls_label_10") none [],
  entity 80 true (some "dst_mac") (some .processDstMac) [],
  entity 82 true none none [],
  entity 83 true none none [],
  entity (privateEntityId 24) true (some "in_dst_mac_name") none [],
  entity 57 true (some "post_dst_mac") (some .processPostDstMac) [],
  entity (privateEntityId 25) true (some "out_dst_mac_name") none [],
  applicationId, applicationName,
  entity 102 false (some "packet_section_offset") none [],
  entity 103 false (some "sampled_packet_size") none [],
  entity 104 false (some "sampled_packet_id") none [],
  entity 134 false (some "dropped_bytes_total") (some .printNumber) [],
  entity 135 false (some "dropped_pkts_total") (some .printNumber) [],
  entity 136 true (some "flow_end_reason") (some .printFlowEndReason) [],
  entity 144 false (some "exporting_process_id") (some .printNumber) [],
  entity 148 false (some "flow_id") none [],
  entity 150 false (some "flow_start_sec") (some .saveFirstSecond) [],
  entity 151 false (some "flow_end_sec") (some .saveLastSecond) [],
  entity 152 false (some "flow_start_milliseconds") (some .saveFirstMsecond) [],
  entity 153 false (some "flow_end_milliseconds") (some .saveLastMsecond) [],
  entity 210 false (some "padding") none [],
  entity 234 false (some "input_vrf") (some .printNumber) [],
  entity 235 false (some "output_vrf") (some .printNumber) [],
  entity 239 true (some "biflow_direction") (some .printBiflowDirection) [],
  entity 277 false (some "observation_point_type") none [],
  entity 280 false (some "transaction_id") (some .printNumber) [],
  entity 300 false (some "observation_point_id") none [],
  selectorId,
  entity 304 false (some "ipfix_sampling_algorithm") none [],
  entity 309 false (some "sampling_size") none [],
  entity 310 false (some "sampling_population") none [],
  entity 312 false (some "frame_length") none [],
  entity 318 false (some "packets_observed") none [],
  entity 319 false (some "packets_selected") none [],
  selectorName,
  entity 371 true (some "user") (some .printString) [],
  entity (ntopBaseId + 80) false (some "fragments") none [],
  entity (ntopBaseId + 82) false (some "client_nw_delay_sec") none [],
  entity (ntopBaseId + 83) false (some "client_nw_delay_usec") none [],
  entity (ntopBaseId + 123) false (some "client_nw_delay_ms") none [],
  entity (ntopBaseId + 84) false (some "server_nw_delay_sec") none [],
  entity (ntopBaseId + 85) false (some "server_nw_delay_usec") none [],
  entity (ntopBaseId + 124) false (some "server_nw_delay_ms") none [],
  entity (ntopBaseId + 86) false (some "appl_latency_sec") none [],
  entity (ntopBaseId + 87) false (some "appl_latency_usec") none [],
  entity (ntopBaseId + 125) false (some "appl_latency_ms") none [],
  entity (ntopBaseId + 88) false (some "num_pkts_up_to_128_bytes") none [],
  entity (ntopBaseId + 89) false (some "num_pkts_128_to_256_bytes") none [],
  entity (ntopBaseId + 90) false (some "num_pkts_256_to_512_bytes") none [],
  entity (ntopBaseId + 91) false (some "num_pkts_512_to_1024_bytes") none [],
  entity (ntopBaseId + 92) false (some "num_pkts_1024_to_1514_bytes") none [],
  entity (ntopBaseId + 93) false (some "num_pkts_over_1514_bytes") none [],
  entity (ntopBaseId + 98) false (some "cumulative_icmp_type") none [],
  srcIpCountry, dstIpCountry, ipv4SrcAsnumName, ipv4DstAsnumName, ipv6SrcIpCountry,
  ipv6DstIpCountry, ipv6SrcAsName, ipv6DstAsName, staIpv4AddressIpCountry,
  staIpv4AddressAsName, lanIpCountry, wanIpCountry, lanIpAsName, wanIpAsName,
  entity (ntopBaseId + 105) false (some "flow_proto_port") none [],
  entity (ntopBaseId + 106) false (some "upstream_tunnel_id") none [],
  entity (ntopBaseId + 107) false (some "longest_flow_pkt") none [],
  entity (ntopBaseId + 108) false (some "shortest_flow_pkt") none [],
  entity (ntopBaseId + 109) false (some "retransmitted_in_pkts") none [],
  entity (ntopBaseId + 110) false (some "retransmitted_out_pkts") none [],
  entity (ntopBaseId + 111) false (some "ooorder_in_pkts") none [],
  entity (ntopBaseId + 112) false (some "ooorder_out_pkts") none [],
  entity (ntopBaseId + 113) false (some "l2_proto") none [],
  entity (ntopBaseId + 114) true (some "untunneled_src") none [],
  entity (ntopBaseId + 115) false (some "untunneled_srcport") none [],
  entity (ntopBaseId + 116) true (some "untunneled_dst_str") none [],
  entity (ntopBaseId + 117) false (some "untunneled_dstport") none [],
  entity (ntopBaseId + 118) false (some "l7_proto") none [],
  entity (ntopBaseId + 119) true (some "l7_proto_name") none [],
  entity (ntopBaseId + 120) false (some "downstream_tunnel_id") none [],
  entity (ntopBaseId + 121) true (some "flow_user_name") none [],
  entity (ntopBaseId + 122) true (some "flow_server_name") none [],
  entity (ntopBaseId + 126) true (some "plugin_name") none [],
  entity (ntopBaseId + 347) false (some "num_pkts_ttl_eq_1") none [],
  entity (ntopBaseId + 346) false (some "num_pkts_ttl_2_5") none [],
  entity (ntopBaseId + 334) false (some "num_pkts_ttl_5_32") none [],
  entity (ntopBaseId + 335) false (some "num_pkts_ttl_32_64") none [],
  entity (ntopBaseId + 336) false (some "num_pkts_ttl_64_96") none [],
  entity (ntopBaseId + 337) false (some "num_pkts_ttl_96_128") none [],
  entity (ntopBaseId + 338) false (some "num_pkts_ttl_128_160") none [],
  entity (ntopBaseId + 339) false (some "num_pkts_ttl_160_192") none [],
  entity (ntopBaseId + 340) false (some "num_pkts_ttl_192_224") none [],
  entity (ntopBaseId + 341) false (some "num_pkts_ttl_224_255") none [],
  ciscoUrl, ciscoHttpUrl, ciscoHttpHost, ciscoHttpHostL2, ciscoHttpUserAgent,
  entity (privateEntityId 44) true (some "http_user_agent_os") none [],
  ciscoHttpReferer, ciscoHttpRefererL2, ciscoHttpsCommonName, host, hostL2, referer,
  refererL2,
  entity (privateEntityId 52) true (some "http_social_user") none [],
  entity (privateEntityId 53) true (some "http_social_media") none [],
  entity (privateEntityId 54) true (some "http_social_media") none [],
  entity (privateEntityId 55) true (some "http_social_media") none [],
  entity (privateEntityId 56) true (some "http_social_user") none [],
  entity (privateEntityId 57) true (some "http_social_user") none [],
  entity (privateEntityId 58) true (some "http_social_user") none [],
  entity (privateEntityId 59) true (some "http_social_user") none [],
  entity 147 true (some "wireless_id") (some .printSsidName) [],
  staMacAddress, clientMacAddress, clientMacBasedOnDirection,
  entity (privateEntityId 62) true (some "client_mac_name") (some .printMacMap) [],
  clientMacVendor, directionBasedClientMacVendor, lanIpBasedOnDirection,
  lanIpNetBasedOnDirection, lanIpNetNameBasedOnDirection, wanIpBasedOnDirection,
  wanIpNetBasedOnDirection, wanIpNetNameBasedOnDirection, lanPort, wanPort, lanInterface,
  lanInterfaceName, lanInterfaceDescription, wanInterface, wanInterfaceName,
  wanInterfaceDescription, staIpv4Address, staIpv4AddressNet, staIpv4AddressNetName,
  entity 367 true (some "wireless_station") (some .printMac) [],
  redborderType, flowSequence, dnsClientName, dnsTargetName]

def findTemplate (templateElementId : UInt16) : Option Element :=
  ver9Templates.find? fun element => element.templateElementId = templateElementId

/-- The elements of a NetFlow V5 record, in the order they are printed. -/
def v5TemplateFields : List Element :=
  [ipv4SrcAddr, ipv4DstAddr, inputSnmp, outputSnmp, inPkts, inBytes, firstSwitched, lastSwitched,
    srcTos, l4SrcPort, l4DstPort, tcpFlags, protocol, engineType, engineId]

/-! Templates. -/

structure TemplateField where
  fieldId : UInt16
  fieldLen : UInt16
  v9Template : Option Element

/-- `FlowSetV9Ipfix`: `fieldCount` is the number of fields. -/
structure FlowSetV9Ipfix where
  templateId : UInt16
  isOptionTemplate : Bool
  fields : List TemplateField

def FlowSetV9Ipfix.fieldCount (template : FlowSetV9Ipfix) : Nat :=
  template.fields.length

end F2k
