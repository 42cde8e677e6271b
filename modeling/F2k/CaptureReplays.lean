import F2k.PacketBuffers
import F2k.PacketCapture
import Mathlib.Data.List.ReduceOption

namespace F2k

open Lib

/-! Captures of what exporters send: the packets that the capture loop adds to the queues are those
that a listener would have added. -/

/-! `fetchPcapPackets` -/

/-- What `pcap_next_ex` comes back with, and what stands behind the block that a frame is copied
into. -/
inductive PcapNext
  | packet (hdr : PcapPkthdr) (pkt : Bytes) (beyond : Mem)
  | noPacket
  | failed
  | fileOver

structure PcapFetch where
  numFailures : Nat := 0
  captureNumPacketAndQuit : Nat
  shutdownInProgress : Bool := false
  endOfPcapReached : Bool := false
  /-- The packets that were added to the queue of their sensor's worker. -/
  added : List QueuedPacket := []

/-- What a worker sees of the packet, whose pointer was moved behind the headers. -/
def CapturedPacket.queued (packet : CapturedPacket) (buffer : Mem) : QueuedPacket where
  netflowDeviceIp := packet.netflowDeviceIp
  buffer := buffer.shift packet.buffer
  bufferLen := packet.bufferLen
  sensor := some packet.sensor.network

def Decoded.queued (decoded : Decoded) (buffer : Mem) : List QueuedPacket :=
  (decoded.packet.map fun packet => packet.queued buffer).toList

namespace PcapFetch

/-- The end of a turn: packets are counted down to the last one that is wanted. -/
def counted (fetch : PcapFetch) : PcapFetch :=
  if fetch.captureNumPacketAndQuit > 1 then
    { fetch with captureNumPacketAndQuit := fetch.captureNumPacketAndQuit - 1 }
  else if fetch.captureNumPacketAndQuit = 1 then
    { fetch with shutdownInProgress := true, endOfPcapReached := true }
  else fetch

/-- A turn of the loop, and whether it is left. An interface is waited for until it is back; a file
is not. -/
def turn (globals : CaptureGlobals) (pcapFile : Bool) (fetch : PcapFetch) :
    PcapNext → Run (PcapFetch × Bool)
  | .packet hdr pkt beyond => do
      let (h, buffer) := nextPcapPacket globals.snaplen hdr pkt beyond
      let decoded ← decodePacket globals h buffer
      pure
        ({ fetch with numFailures := 0, added := fetch.added ++ decoded.queued buffer }.counted,
          false)
  | .noPacket => if pcapFile then pure (fetch, true) else pure (fetch.counted, false)
  | .failed =>
      let fetch := { fetch with numFailures := fetch.numFailures + 1 }
      if fetch.numFailures ≥ 10 ∧ pcapFile then pure (fetch, true)
      else pure (fetch.counted, false)
  | .fileOver => pure ({ fetch with endOfPcapReached := true }, true)

end PcapFetch

def fetchPcapPackets (globals : CaptureGlobals) (pcapFile : Bool) (fetch : PcapFetch) :
    List PcapNext → Run PcapFetch
  | [] => pure fetch
  | next :: rest =>
      if fetch.shutdownInProgress then pure fetch
      else do
        let (fetch, left) ← fetch.turn globals pcapFile next
        if left then pure fetch else fetchPcapPackets globals pcapFile fetch rest

/-! What exporters send -/

/-- An IPv4 datagram to a port for flows, in one fragment. Whatever else is in its headers does not
matter. -/
structure UdpDatagram where
  typeOfService : UInt8
  identification : UInt16
  flags : UInt8
  timeToLive : UInt8
  headerChecksum : UInt16
  source : UInt32
  destination : UInt32
  options : Bytes
  sourcePort : UInt16
  destinationPort : UInt16
  checksum : UInt16
  payload : Bytes
  words : options.length % 4 = 0
  fewOptions : options.length ≤ 40
  whole : flags &&& 0x3f = 0
  flowPort : isFlowPort destinationPort.toNat = true
  notSflow : destinationPort ≠ 6343
  fits : 28 + options.length + payload.length < 65536

namespace UdpDatagram

variable (datagram : UdpDatagram)

def ipLen : Nat := 28 + datagram.options.length + datagram.payload.length

def ipHeader : Bytes :=
  [.ofNat (0x45 + datagram.options.length / 4), datagram.typeOfService] ++ toBe 2 datagram.ipLen ++
    toBe 2 datagram.identification.toNat ++ [datagram.flags, 0] ++ [datagram.timeToLive, 17] ++
    toBe 2 datagram.headerChecksum.toNat ++ toBe 4 datagram.source.toNat ++
    toBe 4 datagram.destination.toNat ++ datagram.options

def udpHeader : Bytes :=
  toBe 2 datagram.sourcePort.toNat ++ toBe 2 datagram.destinationPort.toNat ++
    toBe 2 (8 + datagram.payload.length) ++ toBe 2 datagram.checksum.toNat

def bytes : Bytes :=
  datagram.ipHeader ++ datagram.udpHeader ++ datagram.payload

/-- The IP header as the decoder reads it. -/
def header (ehshift : Nat) : NetworkHeader where
  estimatedLen := ehshift + datagram.ipLen
  hlen := 20 + datagram.options.length
  payloadLen := 8 + datagram.payload.length
  srcIpv4 := datagram.source
  proto := 17
  isFragmentedPacket := false

/-- The packet for the sensor that was found, behind so many bytes of a link header. -/
def decoded (ehshift : Nat) : Option Sensor → Decoded
  | none => .unknownSensor
  | some sensor =>
      .addedToWorker
        { netflowDeviceIp := datagram.source
          buffer := ehshift + (28 + datagram.options.length)
          bufferLen := datagram.payload.length
          sensor }

/-- What a listener would have received. -/
def incoming : Incoming where
  fromHost := datagram.source
  bytes := datagram.payload

end UdpDatagram

/-- The link headers of IPv4 packets. -/
inductive IsIpv4Link : Datalink → Bytes → Prop
  | ethernet {addresses : Bytes} (length : addresses.length = 12) :
      IsIpv4Link .ethernet (addresses ++ [8, 0])
  | null : IsIpv4Link .null [2, 0, 0, 0]
  | raw : IsIpv4Link .raw []

/-- A frame that is nothing for the workers: no IP, no UDP, a fragment, or to another port. -/
structure ForOthers (datalink : Datalink) (buffer : Mem) : Prop where
  notIpv6 : ethType datalink buffer ≠ ethertypeIpv6
  other : ethType datalink buffer = ethertypeIp →
    let ip := buffer.shift (ethShift datalink)
    let dport := ntohs ip ((ip 0 &&& 0x0f).toNat * 4 + 2)
    ip 9 ≠ 17 ∨ ntohs ip 6 % 2 ^ 14 ≠ 0 ∨ isFlowPort dport = false ∨ dport = 6343

/-- What is captured, and the datagram in it. A datagram was captured to its end, whatever pads it;
with no file the loop also waits and tries again. -/
inductive Captures (globals : CaptureGlobals) (pcapFile : Bool) :
    PcapNext → Option UdpDatagram → Prop
  | datagram {hdr : PcapPkthdr} {link padding : Bytes} {beyond : Mem} {datagram : UdpDatagram}
      (isLink : IsIpv4Link globals.datalink link)
      (captured : link.length + datagram.bytes.length ≤ hdr.caplen.toNat)
      (snapped : link.length + datagram.bytes.length ≤ globals.snaplen.toNat)
      (length : hdr.caplen ≤ hdr.len) (time : 0 ≤ hdr.tsSec ∧ 0 ≤ hdr.tsUsec) :
      Captures globals pcapFile
        (.packet hdr (link ++ datagram.bytes ++ padding) beyond) (some datagram)
  | other {hdr : PcapPkthdr} {pkt : Bytes} {beyond : Mem}
      (others : ForOthers globals.datalink (nextPcapPacket globals.snaplen hdr pkt beyond).2) :
      Captures globals pcapFile (.packet hdr pkt beyond) none
  | noPacket (live : pcapFile = false) : Captures globals pcapFile .noPacket none
  | failed (live : pcapFile = false) : Captures globals pcapFile .failed none

/-! Headers -/

section Headers

variable {datagram : UdpDatagram} {ip : Mem}

theorem length_ipHeader : datagram.ipHeader.length = 20 + datagram.options.length := by
  simp [UdpDatagram.ipHeader]
  omega

theorem length_udpHeader : datagram.udpHeader.length = 8 := by
  simp [UdpDatagram.udpHeader]

theorem length_bytes : datagram.bytes.length = datagram.ipLen := by
  simp [UdpDatagram.bytes, length_ipHeader, UdpDatagram.udpHeader, UdpDatagram.ipLen]
  omega

theorem ntohs_of_startsWith {memory : Mem} {offset number : Nat} (small : number < 65536)
    (starts : (memory.shift offset).StartsWith (toBe 2 number)) : ntohs memory offset = number := by
  rw [Mem.StartsWith, length_toBe] at starts
  rw [ntohs, starts, beNat_toBe]
  exact Nat.mod_eq_of_lt small

theorem firstByte : ∀ words : Fin 11,
    UInt8.ofNat (0x45 + words.val) >>> 4 = 4 ∧
      (UInt8.ofNat (0x45 + words.val) &&& 0xF0) >>> 4 = 4 ∧
      (UInt8.ofNat (0x45 + words.val) &&& 0x0f).toNat = 5 + words.val := by
  decide

theorem startsWith_pair {memory : Mem} {first second : UInt8} :
    memory.StartsWith [first, second] ↔ memory 0 = first ∧ memory 1 = second := by
  simp [Mem.StartsWith, Mem.slice_succ]

/-- Where the fields of a datagram's headers stand. -/
structure HasHeaders (datagram : UdpDatagram) (ip : Mem) : Prop where
  first : ip 0 = .ofNat (0x45 + datagram.options.length / 4)
  length : ntohs ip 2 = datagram.ipLen
  offset : ntohs ip 6 % 2 ^ 14 = 0
  protocol : ip 9 = 17
  source : (ip.shift 12).slice 4 = toBe 4 datagram.source.toNat
  port : ntohs ip (20 + datagram.options.length + 2) = datagram.destinationPort.toNat
  payload : (ip.shift (28 + datagram.options.length)).StartsWith datagram.payload

theorem ntohs_flags {flags : UInt8} (whole : flags &&& 0x3f = 0) :
    beNat [flags, 0] % 2 ^ 14 = 0 := by
  have bits := congrArg UInt8.toNat whole
  have low : flags.toNat % 64 = 0 := by
    rw [UInt8.toNat_and] at bits
    exact (Nat.and_two_pow_sub_one_eq_mod flags.toNat 6).symm.trans bits
  simp only [beNat, List.foldl_cons, List.foldl_nil, UInt8.toNat_zero]
  omega

theorem HasHeaders.of_startsWith (starts : ip.StartsWith datagram.bytes) :
    HasHeaders datagram ip := by
  have small := datagram.fits
  have ports := datagram.destinationPort.toNat_lt
  simp only [UdpDatagram.bytes, UdpDatagram.udpHeader, Mem.startsWith_append, List.length_append,
    length_ipHeader, length_toBe, Mem.shift_shift] at starts
  obtain ⟨⟨inIp, ⟨⟨⟨_, port⟩, _⟩, _⟩⟩, payload⟩ := starts
  simp only [UdpDatagram.ipHeader, Mem.startsWith_append, List.length_append, List.length_cons,
    List.length_nil, length_toBe, startsWith_pair, Mem.shift_apply] at inIp
  obtain ⟨⟨⟨⟨⟨⟨⟨⟨⟨first, _⟩, length⟩, _⟩, offset⟩, protocol⟩, _⟩, source⟩, _⟩, _⟩ := inIp
  have behind : 20 + datagram.options.length + (2 + 2 + 2 + 2) = 28 + datagram.options.length := by
    omega
  rw [behind] at payload
  refine ⟨first, ntohs_of_startsWith ?_ length, ?_, protocol.2, ?_, ntohs_of_startsWith ports port,
    payload⟩
  · unfold UdpDatagram.ipLen
    omega
  · have pair : (ip.shift 6).slice 2 = [datagram.flags, 0] := by
      have both : (ip.shift 6).StartsWith [datagram.flags, 0] := startsWith_pair.mpr offset
      exact both
    rw [ntohs, pair]
    exact ntohs_flags datagram.whole
  · rw [Mem.StartsWith, length_toBe] at source
    exact source

theorem HasHeaders.first_eq (headers : HasHeaders datagram ip) :
    ip 0 >>> 4 = 4 ∧ (ip 0 &&& 0xF0) >>> 4 = 4 ∧
      (ip 0 &&& 0x0f).toNat * 4 = 20 + datagram.options.length := by
  have few := datagram.fewOptions
  have words := datagram.words
  obtain ⟨version, high, length⟩ := firstByte ⟨datagram.options.length / 4, by omega⟩
  rw [headers.first]
  refine ⟨version, high, ?_⟩
  rw [length]
  dsimp only
  omega

/-- What is read of a datagram's IP header. -/
theorem HasHeaders.ipv4Header_eq (headers : HasHeaders datagram ip) (ehshift : Nat) :
    ipv4Header ip ehshift = some (datagram.header ehshift) := by
  obtain ⟨version, _, length⟩ := headers.first_eq
  have fits := datagram.fits
  have payloadLen : toInt (datagram.ipLen - (20 + datagram.options.length : Nat)) =
      8 + datagram.payload.length := by
    unfold UdpDatagram.ipLen
    rw [toInt_eq (by omega) (by omega)]
    omega
  have source : UInt32.ofNat (beNat ((ip.shift 12).slice 4)) = datagram.source := by
    have whole : datagram.source.toNat % 256 ^ 4 = datagram.source.toNat :=
      Nat.mod_eq_of_lt datagram.source.toNat_lt
    rw [headers.source, beNat_toBe, whole]
    exact UInt32.ofNat_toNat
  unfold ipv4Header
  rw [if_neg (not_not.mpr version)]
  simp only [length, headers.length, headers.offset, headers.protocol, payloadLen, source]
  rfl

variable {datalink : Datalink} {link : Bytes} {buffer : Mem}

theorem IsIpv4Link.ethType_eq (isLink : IsIpv4Link datalink link)
    (starts : buffer.StartsWith link)
    (headers : HasHeaders datagram (buffer.shift link.length)) :
    ethType datalink buffer = ethertypeIp ∧ ethShift datalink = link.length := by
  cases isLink with
  | @ethernet addresses length =>
      have isType := (Mem.startsWith_append.mp starts).2
      rw [length] at isType
      have bytes : (buffer.shift 12).slice 2 = [8, 0] := isType
      refine ⟨?_, by simp [length, ethShift]⟩
      unfold ethType ntohs
      rw [bytes]
      rfl
  | null =>
      have bytes : buffer.slice 4 = [2, 0, 0, 0] := starts
      refine ⟨?_, rfl⟩
      unfold ethType hostWord
      rw [Mem.shift_zero, bytes]
      rfl
  | raw =>
      obtain ⟨_, high, _⟩ := headers.first_eq
      refine ⟨?_, rfl⟩
      unfold ethType
      exact if_pos high

variable {globals : CaptureGlobals} {h : PcapPkthdr}

theorem decodeUdp_datagram {ehshift : Nat} {plen : UInt64} (low : ehshift ≤ 14)
    (headers : HasHeaders datagram (buffer.shift ehshift))
    (enough : 28 + datagram.options.length ≤ plen.toNat) :
    decodeUdp globals buffer (datagram.header ehshift) plen (8 + datagram.payload.length)
        (ehshift + (20 + datagram.options.length)) =
      (getSensor globals.sensorsInfo datagram.source.toUInt64).map (datagram.decoded ehshift) := by
  have few := datagram.fewOptions
  have long : ¬plen < UInt64.ofNat ((datagram.header ehshift).hlen + 8) := by
    rw [UInt64.lt_iff_toNat_lt, UInt64.toNat_ofNat', Nat.mod_eq_of_lt]
    · change ¬plen.toNat < 20 + datagram.options.length + 8
      omega
    · change 20 + datagram.options.length + 8 < 2 ^ 64
      omega
  have dport : ntohs buffer (ehshift + (20 + datagram.options.length) + 2) =
      datagram.destinationPort.toNat := by
    rw [← headers.port, ntohs, ntohs, Mem.shift_shift, Nat.add_assoc ehshift]
  have notSflow : datagram.destinationPort.toNat ≠ 6343 :=
    fun same => datagram.notSflow (UInt16.toNat_inj.mp same)
  have start : (UInt16.ofNat (ehshift + (20 + datagram.options.length) + 8)).toNat =
      ehshift + (28 + datagram.options.length) := by
    rw [UInt16.toNat_ofNat', Nat.mod_eq_of_lt (by omega)]
    omega
  have some : (8 + datagram.payload.length : Int) > 0 := by omega
  have length : (8 + datagram.payload.length : Int) - 8 = datagram.payload.length := by omega
  unfold decodeUdp
  rw [if_neg long]
  simp only [dport, if_pos some, start, length]
  rw [if_pos ⟨some, datagram.flowPort, rfl⟩, if_neg notSflow]
  change (getSensor globals.sensorsInfo datagram.source.toUInt64 >>= _) = _
  cases getSensor globals.sensorsInfo datagram.source.toUInt64 with
  | error fault => rfl
  | ok found => cases found <;> rfl

/-- A datagram that was captured is decoded to what it carries. -/
theorem decodePacket_datagram (isLink : IsIpv4Link globals.datalink link)
    (starts : buffer.StartsWith (link ++ datagram.bytes))
    (captured : link.length + datagram.bytes.length ≤ h.caplen.toNat)
    (length : h.caplen ≤ h.len) (time : 0 ≤ h.tsSec ∧ 0 ≤ h.tsUsec)
    (capturing : globals.stopPacketCapture = false) :
    decodePacket globals h buffer =
      (getSensor globals.sensorsInfo datagram.source.toUInt64).map
        (datagram.decoded link.length) := by
  obtain ⟨inLink, inDatagram⟩ := Mem.startsWith_append.mp starts
  have headers := HasHeaders.of_startsWith inDatagram
  obtain ⟨isIp, shift⟩ := isLink.ethType_eq inLink headers
  have fits := datagram.fits
  have low : link.length ≤ 14 := shift ▸ ethShift_le globals.datalink
  have longer := UInt32.le_iff_toNat_le.mp length
  rw [length_bytes] at captured
  have ipLen : datagram.ipLen = 28 + datagram.options.length + datagram.payload.length := rfl
  have payloadLen : toInt ((datagram.header link.length).payloadLen -
      ((datagram.header link.length).estimatedLen -
        (min h.caplen.toNat (datagram.header link.length).estimatedLen : Nat))) =
          8 + datagram.payload.length := by
    have whole : min h.caplen.toNat (datagram.header link.length).estimatedLen =
        (datagram.header link.length).estimatedLen := Nat.min_eq_right captured
    rw [whole, Int.sub_self, Int.sub_zero]
    exact toInt_eq (by change (-2 ^ 31 : Int) ≤ 8 + _; omega) (by change (8 + _ : Int) < _; omega)
  have enough : 28 + datagram.options.length ≤
      (h.len.toUInt64 - UInt64.ofNat link.length).toNat := by
    have before : (UInt64.ofNat link.length).toNat = link.length := by
      rw [UInt64.toNat_ofNat', Nat.mod_eq_of_lt (by omega)]
    have len : h.len.toUInt64.toNat = h.len.toNat := UInt32.toNat_toUInt64 _
    rw [UInt64.toNat_sub_of_le _ _ (UInt64.le_iff_toNat_le.mpr (by omega)), before, len]
    omega
  have decoded := @decodeUdp_datagram _ _ globals _ _ low headers enough
  unfold decodePacket deepPacketDecode
  rw [if_neg (by omega), if_neg (by rw [gt_iff_lt, UInt32.lt_iff_toNat_lt]; omega)]
  simp only [capturing]
  rw [if_neg (by simp; omega), networkHeader, if_pos isIp, shift, headers.ipv4Header_eq]
  simp only [payloadLen]
  exact (if_pos rfl).trans decoded

theorem decodeUdp_other {header : NetworkHeader} {plen : UInt64} {payloadLen : Int} {offset : Nat}
    (other : header.isFragmentedPacket = true ∨ isFlowPort (ntohs buffer (offset + 2)) = false ∨
      ntohs buffer (offset + 2) = 6343) :
    decodeUdp globals buffer header plen payloadLen offset = .ok .ignored := by
  unfold decodeUdp
  split
  · rfl
  · dsimp only
    split
    · next wanted =>
        rcases other with fragmented | port | isSflow
        · rw [wanted.2.2] at fragmented
          cases fragmented
        · rw [wanted.2.1] at port
          cases port
        · exact if_pos isSflow
    · rfl

/-- What is for others is left alone. -/
theorem ForOthers.decodePacket_eq (others : ForOthers globals.datalink buffer) :
    decodePacket globals h buffer = .ok .ignored := by
  have deep : ∀ h : PcapPkthdr, deepPacketDecode globals h buffer = .ok .ignored := by
    intro h
    unfold deepPacketDecode
    dsimp only
    split
    · rfl
    · by_cases isIp : ethType globals.datalink buffer = ethertypeIp
      · have other := others.other isIp
        dsimp only at other
        rw [ntohs, Mem.shift_shift] at other
        rw [networkHeader, if_pos isIp, ipv4Header]
        by_cases version : buffer.shift (ethShift globals.datalink) 0 >>> 4 = 4
        · rw [if_neg (not_not.mpr version)]
          dsimp only
          split
          · next isUdp =>
              apply decodeUdp_other
              rcases other with notUdp | fragment | port
              · exact absurd isUdp notUdp
              · exact .inl (decide_eq_true fragment)
              · rw [ntohs, Nat.add_assoc]
                exact .inr port
          · rfl
        · rw [if_pos version]
          rfl
      · rw [networkHeader, if_neg isIp, if_neg others.notIpv6]
        rfl
  unfold decodePacket
  split
  · rfl
  · split
    · exact deep _
    · exact deep h

end Headers

/-! The loop -/

section Loop

variable {globals : CaptureGlobals} {pcapFile : Bool} {find : UInt32 → Option Sensor}

def sensorNetwork (find : UInt32 → Option Sensor) (host : UInt32) : Option IpAddr :=
  (find host).map Sensor.network

/-- The datagrams from hosts of sensors. -/
def wanted (find : UInt32 → Option Sensor) (captured : List (Option UdpDatagram)) :
    List Incoming :=
  (captured.reduceOption.map UdpDatagram.incoming).filter (Incoming.known (sensorNetwork find))

/-- As many as are to be captured; without a limit, all of them. -/
def limited (captureNumPacketAndQuit : Nat) (captured : List (Option UdpDatagram)) :
    List (Option UdpDatagram) :=
  if captureNumPacketAndQuit = 0 then captured else captured.take captureNumPacketAndQuit

theorem limited_more {quit : Nat} (more : quit > 1) {first : Option UdpDatagram}
    {captured : List (Option UdpDatagram)} :
    limited quit (first :: captured) = first :: limited (quit - 1) captured := by
  rw [limited, limited, if_neg (by omega), if_neg (by omega)]
  obtain ⟨fewer, rfl⟩ := Nat.exists_eq_add_of_lt more
  rw [List.take_succ_cons]
  rfl

theorem wanted_cons (first : Option UdpDatagram) (captured : List (Option UdpDatagram)) :
    wanted find (first :: captured) = wanted find [first] ++ wanted find captured := by
  unfold wanted
  rw [← List.filter_append, ← List.map_append, ← List.reduceOption_append, List.singleton_append]

/-- What was copied of a frame begins with the datagram, if it was captured to its end. -/
theorem nextPcapPacket_startsWith {snaplen : UInt16} {hdr : PcapPkthdr} {front padding : Bytes}
    {beyond : Mem} (captured : front.length ≤ hdr.caplen.toNat)
    (snapped : front.length ≤ snaplen.toNat) :
    front.length ≤ (nextPcapPacket snaplen hdr (front ++ padding) beyond).1.caplen.toNat ∧
      (nextPcapPacket snaplen hdr (front ++ padding) beyond).2.StartsWith front := by
  have kept : front.length ≤ (min hdr.caplen snaplen.toUInt32).toNat := by
    change _ ≤ (if hdr.caplen ≤ snaplen.toUInt32 then hdr.caplen else snaplen.toUInt32).toNat
    split
    · exact captured
    · rwa [UInt16.toNat_toUInt32]
  refine ⟨kept, ?_⟩
  unfold nextPcapPacket
  dsimp only
  rw [List.take_append, List.take_of_length_le kept]
  have copied := (Mem.startsWith_append.mp (Mem.startsWith_ofBytes
    (front ++ padding.take ((min hdr.caplen snaplen.toUInt32).toNat - front.length)))).1
  have agree : Mem.AgreeBelow front.length
      (Mem.overlay (snaplen.toNat + 1) (.ofBytes (front ++
        padding.take ((min hdr.caplen snaplen.toUInt32).toNat - front.length))) beyond)
      (.ofBytes (front ++
        padding.take ((min hdr.caplen snaplen.toUInt32).toNat - front.length))) :=
    fun index inside => if_pos (by omega)
  exact (agree.slice_eq (Nat.le_refl _)).trans copied

/-- What is added for a datagram, if its host is the one of a sensor. -/
theorem carries_decoded {datagram : UdpDatagram} {ehshift : Nat} {buffer : Mem}
    (payload : (buffer.shift (ehshift + (28 + datagram.options.length))).StartsWith
      datagram.payload) :
    List.Forall₂ (QueuedPacket.Carries (sensorNetwork find))
      ((datagram.decoded ehshift (find datagram.source)).queued buffer)
      (wanted find [some datagram]) := by
  have known : datagram.incoming.known (sensorNetwork find) =
      ((find datagram.source).map Sensor.network).isSome := rfl
  have one : wanted find [some datagram] =
      [datagram.incoming].filter (Incoming.known (sensorNetwork find)) := rfl
  rw [one]
  cases found : find datagram.source with
  | none =>
      rw [found] at known
      rw [List.filter_cons_of_neg (by rw [known]; decide)]
      exact .nil
  | some sensor =>
      rw [found] at known
      rw [List.filter_cons_of_pos known]
      refine .cons ?_ .nil
      refine ⟨⟨rfl, payload⟩, rfl, ?_, known⟩
      exact (congrArg (Option.map Sensor.network) found).symm

theorem Captures.turn_eq {next : PcapNext} {captured : Option UdpDatagram}
    (captures : Captures globals pcapFile next captured)
    (lookup : ∀ datagram ∈ captured,
      getSensor globals.sensorsInfo datagram.source.toUInt64 = .ok (find datagram.source))
    (capturing : globals.stopPacketCapture = false) (fetch : PcapFetch) :
    ∃ packets numFailures, fetch.turn globals pcapFile next =
        .ok ({ fetch with numFailures, added := fetch.added ++ packets }.counted, false) ∧
      List.Forall₂ (QueuedPacket.Carries (sensorNetwork find)) packets
        (wanted find [captured]) := by
  cases captures with
  | @datagram hdr link padding beyond datagram isLink captured snapped length time =>
      obtain ⟨kept, starts⟩ := @nextPcapPacket_startsWith globals.snaplen hdr
        (link ++ datagram.bytes) padding beyond (by simpa using captured) (by simpa using snapped)
      rw [List.length_append] at kept
      have shorter : (nextPcapPacket globals.snaplen hdr (link ++ datagram.bytes ++ padding)
          beyond).1.caplen ≤ hdr.len := by
        refine UInt32.le_trans ?_ length
        change (if hdr.caplen ≤ globals.snaplen.toUInt32 then hdr.caplen else
          globals.snaplen.toUInt32) ≤ hdr.caplen
        split
        · exact UInt32.le_refl _
        · next longer => exact UInt32.le_of_lt (UInt32.not_le.mp longer)
      have decoded := decodePacket_datagram isLink starts kept shorter time capturing
      rw [lookup datagram rfl] at decoded
      have payload := (Mem.startsWith_append.mp (Mem.startsWith_append.mp starts).2).2
      rw [Mem.shift_shift, List.length_append, length_ipHeader, length_udpHeader] at payload
      have behind : link.length + (20 + datagram.options.length + 8) =
          link.length + (28 + datagram.options.length) := by omega
      rw [behind] at payload
      refine ⟨_, 0, ?_, carries_decoded payload⟩
      unfold PcapFetch.turn
      dsimp only
      rw [decoded]
      rfl
  | other others =>
      refine ⟨[], 0, ?_, .nil⟩
      unfold PcapFetch.turn
      dsimp only
      rw [others.decodePacket_eq]
      rfl
  | noPacket live =>
      refine ⟨[], fetch.numFailures, ?_, .nil⟩
      rw [PcapFetch.turn, live, List.append_nil]
      rfl
  | failed live =>
      refine ⟨[], fetch.numFailures + 1, ?_, .nil⟩
      rw [PcapFetch.turn, live, List.append_nil]
      exact if_neg (by simp)

theorem fetchPcapPackets_stopped {fetch : PcapFetch} (stopped : fetch.shutdownInProgress = true)
    (answers : List PcapNext) : fetchPcapPackets globals pcapFile fetch answers = .ok fetch := by
  cases answers with
  | nil => rfl
  | cons next rest => exact if_pos stopped

theorem fetchPcapPackets_cons {fetch after : PcapFetch} {next : PcapNext}
    (running : fetch.shutdownInProgress = false)
    (turned : fetch.turn globals pcapFile next = .ok (after, false)) (rest : List PcapNext) :
    fetchPcapPackets globals pcapFile fetch (next :: rest) =
      fetchPcapPackets globals pcapFile after rest := by
  rw [fetchPcapPackets, if_neg (by simp [running]), turned]
  rfl

end Loop

/-! A file with two frames -/

/-- Three bytes from the sensor's host, behind IP options. -/
def exporterDatagram : UdpDatagram where
  typeOfService := 0
  identification := 7
  flags := 0x40
  timeToLive := 64
  headerChecksum := 0
  source := 0x0a000001
  destination := 0x0a000002
  options := [1, 1, 1, 0]
  sourcePort := 4000
  destinationPort := 2055
  checksum := 0
  payload := [9, 9, 9]
  words := by decide
  fewOptions := by decide
  whole := by decide
  flowPort := by decide
  notSflow := by decide
  fits := by decide

def ethernetLink : Bytes :=
  List.replicate 12 0 ++ [8, 0]

def arpFrame : Bytes :=
  List.replicate 12 0 ++ [8, 6] ++ List.replicate 46 0

def wholeHdr (frame : Bytes) : PcapPkthdr where
  tsSec := 0
  tsUsec := 0
  caplen := .ofNat frame.length
  len := .ofNat frame.length

def exporterFrame : Bytes :=
  ethernetLink ++ exporterDatagram.bytes ++ List.replicate 11 0

def captureFind (host : UInt32) : Option Sensor :=
  (getSensor captureGlobals.sensorsInfo host.toUInt64).toOption.join

theorem exporterFrames_captured :
    List.Forall₂ (Captures captureGlobals true)
      [.packet (wholeHdr arpFrame) arpFrame fun _ => 0,
        .packet (wholeHdr exporterFrame) exporterFrame fun _ => 0]
      [none, some exporterDatagram] := by
  refine .cons ?_ (.cons ?_ .nil)
  · exact .other ⟨by decide +kernel, by decide +kernel⟩
  · exact .datagram (.ethernet (by decide)) (by decide +kernel) (by decide +kernel)
      (by decide +kernel) ⟨by decide, by decide⟩

end F2k
