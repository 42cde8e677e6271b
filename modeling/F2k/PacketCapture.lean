import F2k.Lib.Outcome
import F2k.Sensor

namespace F2k

open Lib

/-! Frames from a packet capture: where the datagram that a worker gets is found in them. -/

/-- The link types the capture tells apart. -/
inductive Datalink
  | any
  | raw
  | null
  | ppp
  | ethernet
deriving DecidableEq

structure CaptureGlobals where
  datalink : Datalink
  snaplen : UInt16
  stopPacketCapture : Bool
  sensorsInfo : SensorsDB

structure PcapPkthdr where
  tsSec : Int
  tsUsec : Int
  caplen : UInt32
  len : UInt32

def ethertypeIp : UInt16 := 0x0800
def ethertypeIpv6 : UInt16 := 0x86DD
def dltAny : UInt16 := 113
def dltNull : UInt16 := 0

def ntohs (memory : Mem) (offset : Nat) : Nat :=
  beNat ((memory.shift offset).slice 2)

/-- Four bytes as the host, which is little endian, reads them. -/
def hostWord (memory : Mem) (offset : Nat) : UInt32 :=
  UInt32.ofNat (beNat ((memory.shift offset).slice 4).reverse)

def ethType (datalink : Datalink) (ehdr : Mem) : UInt16 :=
  match datalink with
  | .any => dltAny
  | .raw => if (ehdr 0 &&& 0xF0) >>> 4 = 4 then ethertypeIp else ethertypeIpv6
  | .null =>
      let nullType := hostWord ehdr 0
      if nullType = 2 then ethertypeIp
      else if nullType = 24 ∨ nullType = 28 ∨ nullType = 30 then ethertypeIpv6
      else dltNull
  | .ppp => 0
  | .ethernet => UInt16.ofNat (ntohs ehdr 12)

def ethShift : Datalink → Nat
  | .raw => 0
  | .null => 4
  | .ppp => 0
  | .any => 14
  | .ethernet => 14

def isFlowPort (port : Nat) : Bool :=
  [2055, 2057, 6343, 9999, 3000, 6000, 9996, 15003].contains port

/-- What an `int` keeps of a number that was computed in a wider unsigned type. -/
def toInt (value : Int) : Int := value.bmod (2 ^ 32)

/-- What `deepPacketDecode` takes from the network header. -/
structure NetworkHeader where
  estimatedLen : Nat
  hlen : Nat
  payloadLen : Int
  srcIpv4 : UInt32
  proto : UInt8
  isFragmentedPacket : Bool

def ipv4Header (ip : Mem) (ehshift : Nat) : Option NetworkHeader :=
  if ip 0 >>> 4 ≠ 4 then none
  else
    let ipLen := (ip 0 &&& 0x0f).toNat * 4
    some
      { estimatedLen := ehshift + ntohs ip 2
        hlen := ipLen
        payloadLen := toInt (ntohs ip 2 - ipLen)
        srcIpv4 := UInt32.ofNat (beNat ((ip.shift 12).slice 4))
        proto := ip 9
        -- The offset and the flag that says more fragments follow.
        isFragmentedPacket := ntohs ip 6 % 2 ^ 14 ≠ 0 }

/-- The length is taken from what was captured, and the hop-by-hop header is part of it. The
sensor is looked up with the first bytes of the source address. -/
def ipv6Header (ipv6 : Mem) (ehshift caplen : Nat) : Option NetworkHeader :=
  if ipv6 0 >>> 4 ≠ 6 then none
  else
    let hopByHop := ipv6 6 = 0
    some
      { estimatedLen := 40 + ehshift + ntohs ipv6 4
        hlen := if hopByHop then 40 + ((ipv6 41).toNat + 1) * 8 else 40
        payloadLen := toInt (caplen - ehshift - 40)
        srcIpv4 := hostWord ipv6 8
        proto := if hopByHop then ipv6 40 else ipv6 6
        isFragmentedPacket := false }

/-- Nothing else is processed. -/
def networkHeader (datalink : Datalink) (buffer : Mem) (caplen : Nat) : Option NetworkHeader :=
  let ehshift := ethShift datalink
  if ethType datalink buffer = ethertypeIp then ipv4Header (buffer.shift ehshift) ehshift
  else if ethType datalink buffer = ethertypeIpv6 then
    ipv6Header (buffer.shift ehshift) ehshift caplen
  else none

/-- The packet a worker gets: `buffer` counts from where the frame was copied to. -/
structure CapturedPacket where
  netflowDeviceIp : UInt32
  buffer : Nat
  bufferLen : Int
  sensor : Sensor

inductive Decoded
  | ignored
  | unknownSensor
  | addedToWorker (packet : CapturedPacket)

def decodeUdp (globals : CaptureGlobals) (buffer : Mem) (header : NetworkHeader) (plen : UInt64)
    (payloadLen : Int) (offset : Nat) : Run Decoded :=
  if plen < UInt64.ofNat (header.hlen + 8) then pure .ignored
  else
    let dport := ntohs buffer (offset + 2)
    let payloadShift := if payloadLen > 0 then UInt16.ofNat (offset + 8) else 0
    if payloadLen > 0 ∧ isFlowPort dport ∧ header.isFragmentedPacket = false then
      if dport = 6343 then pure .ignored
      else do
        match ← getSensor globals.sensorsInfo header.srcIpv4.toUInt64 with
        | none => pure .unknownSensor
        | some sensor =>
            pure (.addedToWorker
              { netflowDeviceIp := header.srcIpv4
                buffer := payloadShift.toNat
                bufferLen := payloadLen - 8
                sensor })
    else pure .ignored

def deepPacketDecode (globals : CaptureGlobals) (h : PcapPkthdr) (buffer : Mem) : Run Decoded :=
  let caplen := h.caplen.toNat
  if globals.stopPacketCapture ∨ caplen < 14 then pure .ignored
  else
    let ehshift := ethShift globals.datalink
    match networkHeader globals.datalink buffer caplen with
    | none => pure .ignored
    | some header =>
        let plen := h.len.toUInt64 - UInt64.ofNat ehshift
        let estimatedLen := header.estimatedLen
        let payloadLen := toInt (header.payloadLen - (estimatedLen - min caplen estimatedLen))
        if header.proto = 17 then
          decodeUdp globals buffer header plen payloadLen (ehshift + header.hlen)
        else pure .ignored

def decodePacket (globals : CaptureGlobals) (h : PcapPkthdr) (buffer : Mem) : Run Decoded :=
  if h.tsSec < 0 ∨ h.tsUsec < 0 then pure .ignored
  else if h.caplen > h.len then
    let len := globals.snaplen.toUInt32
    deepPacketDecode globals { h with len, caplen := min h.caplen len } buffer
  else deepPacketDecode globals h buffer

/-- The frame is copied, as much of it as the buffer is for, into storage that was cleared: with
a byte to spare, and then what happens to be there. -/
def nextPcapPacket (snaplen : UInt16) (hdr : PcapPkthdr) (pkt : Bytes) (beyond : Mem) :
    PcapPkthdr × Mem :=
  let caplen := min hdr.caplen snaplen.toUInt32
  let copied := pkt.take caplen.toNat
  ({ hdr with caplen },
    Mem.overlay (snaplen.toNat + 1) (Mem.ofBytes copied) beyond)

/-- `fetchPcapPackets` for one frame that was captured. -/
def fetchPcapPacket (globals : CaptureGlobals) (hdr : PcapPkthdr) (pkt : Bytes) (beyond : Mem) :
    Run Decoded :=
  let (h, buffer) := nextPcapPacket globals.snaplen hdr pkt beyond
  decodePacket globals h buffer

/-! The payload of the datagram, as the headers of the frame have it. -/

/-- From behind the UDP header to where the IP packet ends. -/
structure UdpPayload where
  start : Nat
  finish : Nat

section Frame

variable (datalink : Datalink) (buffer : Mem)

def hopByHopLength : Nat :=
  let ipv6 := buffer.shift (ethShift datalink)
  if ethType datalink buffer = ethertypeIp ∨ ipv6 6 ≠ 0 then 0 else ((ipv6 41).toNat + 1) * 8

def udpPayload : UdpPayload :=
  let shift := ethShift datalink
  let ip := buffer.shift shift
  if ethType datalink buffer = ethertypeIp then
    { start := shift + (ip 0 &&& 0x0f).toNat * 4 + 8
      finish := shift + ntohs ip 2 }
  else
    { start := shift + 40 + hopByHopLength datalink buffer + 8
      finish := shift + 40 + ntohs ip 4 }

/-- The UDP header was captured, and the IP packet does not end within it. An IPv6 packet has to
be captured up to as many bytes before its end as the hop-by-hop header has, or without one up to
the end of a UDP header that the IP packet ends within. -/
def FramesWell (caplen : Nat) : Prop :=
  let payload := udpPayload datalink buffer
  if ethType datalink buffer = ethertypeIp then
    payload.start ≤ caplen ∧ payload.start ≤ payload.finish
  else
    (payload.start ≤ caplen ∧ caplen + hopByHopLength datalink buffer = payload.finish) ∨
      (hopByHopLength datalink buffer = 0 ∧ payload.finish < payload.start ∧
        payload.start = caplen)

instance (caplen : Nat) : Decidable (FramesWell datalink buffer caplen) := by
  unfold FramesWell
  infer_instance

end Frame

/-- The range has no negative length, is within the captured bytes, and is the captured part of
the payload. -/
structure CapturedPacket.Framed (packet : CapturedPacket) (caplen : Nat) (payload : UdpPayload) :
    Prop where
  nonneg : 0 ≤ packet.bufferLen
  inside : packet.buffer + packet.bufferLen ≤ caplen
  exact : ∀ i : Nat, (packet.buffer ≤ i ∧ i < packet.buffer + packet.bufferLen) ↔
    payload.start ≤ i ∧ i < min caplen payload.finish

theorem CapturedPacket.framed_iff {packet : CapturedPacket} {caplen : Nat} {payload : UdpPayload}
    (start : packet.buffer = payload.start) :
    packet.Framed caplen payload ↔
      payload.start + packet.bufferLen ≤ caplen ∧
        packet.bufferLen = max 0 ((min caplen payload.finish : Nat) - (payload.start : Int)) := by
  constructor
  · rintro ⟨nonneg, inside, exact⟩
    rw [start] at inside exact
    refine ⟨inside, ?_⟩
    have next := exact (payload.start + packet.bufferLen.toNat)
    have last := exact (payload.start + packet.bufferLen.toNat - 1)
    rw [Int.max_def]
    split <;> omega
  · rintro ⟨inside, length⟩
    rw [Int.max_def] at length
    refine ⟨by split at length <;> omega, by omega, ?_⟩
    intro i
    rw [start]
    split at length <;> omega

theorem toInt_eq {value : Int} (low : -2 ^ 31 ≤ value) (high : value < 2 ^ 31) :
    toInt value = value := by
  unfold toInt
  exact Int.bmod_eq_of_le (by omega) (by omega)

theorem ntohs_lt (memory : Mem) (offset : Nat) : ntohs memory offset < 65536 := by
  have bound := beNat_lt ((memory.shift offset).slice 2)
  rw [Mem.length_slice] at bound
  exact bound

section Added

variable {globals : CaptureGlobals} {h : PcapPkthdr} {buffer : Mem} {packet : CapturedPacket}

theorem decodeUdp_added {header : NetworkHeader} {plen : UInt64} {payloadLen : Int} {offset : Nat}
    (added : decodeUdp globals buffer header plen payloadLen offset =
      .ok (.addedToWorker packet)) :
    0 < payloadLen ∧ packet.buffer = (UInt16.ofNat (offset + 8)).toNat ∧
      packet.bufferLen = payloadLen - 8 := by
  simp only [decodeUdp] at added
  split at added
  · cases added
  · split at added
    · next wanted =>
        rw [if_pos wanted.1] at added
        split at added
        · cases added
        · obtain ⟨found, _, handed⟩ := Run.bind_eq_ok.mp added
          cases found with
          | none => cases handed
          | some sensor =>
              cases handed
              exact ⟨wanted.1, rfl, rfl⟩
    · cases added

theorem deepPacketDecode_added
    (added : deepPacketDecode globals h buffer = .ok (.addedToWorker packet)) :
    ∃ header, networkHeader globals.datalink buffer h.caplen.toNat = some header ∧
      14 ≤ h.caplen.toNat ∧
      packet.buffer =
        (UInt16.ofNat (ethShift globals.datalink + header.hlen + 8)).toNat ∧
      packet.bufferLen =
        toInt (header.payloadLen -
          (header.estimatedLen - min h.caplen.toNat header.estimatedLen)) - 8 := by
  simp only [deepPacketDecode] at added
  split at added
  · cases added
  · next goesOn =>
      cases read : networkHeader globals.datalink buffer h.caplen.toNat with
      | none =>
          rw [read] at added
          cases added
      | some header =>
          simp only [read] at added
          split at added
          · obtain ⟨_, start, length⟩ := decodeUdp_added added
            refine ⟨header, rfl, by omega, start, ?_⟩
            rw [length]
          · cases added

theorem ethShift_le (datalink : Datalink) : ethShift datalink ≤ 14 := by
  cases datalink <;> decide

variable {header : NetworkHeader}

theorem networkHeader_ipv4 (isIpv4 : ethType globals.datalink buffer = ethertypeIp)
    (read : networkHeader globals.datalink buffer h.caplen.toNat = some header) :
    (udpPayload globals.datalink buffer).start = ethShift globals.datalink + header.hlen + 8 ∧
      (udpPayload globals.datalink buffer).finish = header.estimatedLen ∧
      header.hlen ≤ 60 ∧ header.estimatedLen < ethShift globals.datalink + 65536 ∧
      header.payloadLen = header.estimatedLen - ethShift globals.datalink - header.hlen := by
  have whole := ntohs_lt (buffer.shift (ethShift globals.datalink)) 2
  have words : (buffer.shift (ethShift globals.datalink) 0 &&& 0x0f).toNat ≤ 15 := by
    rw [UInt8.toNat_and]
    exact Nat.and_le_right
  simp only [networkHeader, if_pos isIpv4, ipv4Header] at read
  split at read
  · cases read
  · cases read
    refine ⟨?_, ?_, ?_, ?_, ?_⟩
    · simp only [udpPayload, if_pos isIpv4]
    · simp only [udpPayload, if_pos isIpv4]
    · change _ * 4 ≤ 60
      omega
    · change ethShift globals.datalink + _ < _
      omega
    · simp only
      rw [toInt_eq (by omega) (by omega)]
      omega

theorem networkHeader_ipv6 (captured : h.caplen.toNat < 65536)
    (notIpv4 : ethType globals.datalink buffer ≠ ethertypeIp)
    (read : networkHeader globals.datalink buffer h.caplen.toNat = some header) :
    (udpPayload globals.datalink buffer).start = ethShift globals.datalink + header.hlen + 8 ∧
      (udpPayload globals.datalink buffer).finish = header.estimatedLen ∧
      header.hlen = 40 + hopByHopLength globals.datalink buffer ∧
      hopByHopLength globals.datalink buffer ≤ 2048 ∧
      header.estimatedLen < ethShift globals.datalink + 65576 ∧
      header.payloadLen = h.caplen.toNat - ethShift globals.datalink - 40 := by
  have shift := ethShift_le globals.datalink
  have whole := ntohs_lt (buffer.shift (ethShift globals.datalink)) 4
  have units := (buffer.shift (ethShift globals.datalink) 41).toNat_lt
  have hopByHop : hopByHopLength globals.datalink buffer =
      if buffer.shift (ethShift globals.datalink) 6 = 0 then
        ((buffer.shift (ethShift globals.datalink) 41).toNat + 1) * 8 else 0 := by
    simp only [hopByHopLength, notIpv4, false_or, ne_eq, ite_not]
  simp only [networkHeader, if_neg notIpv4] at read
  split at read
  · unfold ipv6Header at read
    split at read
    · cases read
    · cases read
      have hlen : (if buffer.shift (ethShift globals.datalink) 6 = 0 then
          40 + ((buffer.shift (ethShift globals.datalink) 41).toNat + 1) * 8 else 40) =
            40 + hopByHopLength globals.datalink buffer := by
        rw [hopByHop]
        split <;> rfl
      refine ⟨?_, ?_, hlen, ?_, ?_, ?_⟩
      · simp only [udpPayload, if_neg notIpv4, hlen]
        omega
      · simp only [udpPayload, if_neg notIpv4]
        omega
      · rw [hopByHop]
        split <;> omega
      · change 40 + ethShift globals.datalink + _ < _
        omega
      · exact toInt_eq (by omega) (by omega)
  · cases read

theorem deepPacketDecode_framed_iff (captured : h.caplen.toNat < 65536)
    (added : deepPacketDecode globals h buffer = .ok (.addedToWorker packet)) :
    packet.Framed h.caplen.toNat (udpPayload globals.datalink buffer) ↔
      FramesWell globals.datalink buffer h.caplen.toNat := by
  obtain ⟨header, read, enough, start, length⟩ := deepPacketDecode_added added
  have shift := ethShift_le globals.datalink
  by_cases isIpv4 : ethType globals.datalink buffer = ethertypeIp
  · obtain ⟨begins, ends, short, bound, payloadLen⟩ := networkHeader_ipv4 isIpv4 read
    rw [UInt16.toNat_ofNat', Nat.mod_eq_of_lt (by omega)] at start
    rw [toInt_eq (by omega) (by omega), payloadLen] at length
    rw [CapturedPacket.framed_iff (by rw [start, begins]), length, Int.max_def]
    simp only [FramesWell, if_pos isIpv4, begins, ends]
    constructor
    · rintro ⟨inside, same⟩
      split at same <;> omega
    · intro well
      split <;> omega
  · obtain ⟨begins, ends, hlen, short, bound, payloadLen⟩ := networkHeader_ipv6 captured isIpv4 read
    rw [UInt16.toNat_ofNat', Nat.mod_eq_of_lt (by omega)] at start
    rw [toInt_eq (by omega) (by omega), payloadLen] at length
    rw [CapturedPacket.framed_iff (by rw [start, begins]), length, Int.max_def]
    simp only [FramesWell, if_neg isIpv4, begins, ends]
    constructor
    · rintro ⟨inside, same⟩
      split at same <;> omega
    · intro well
      split <;> omega

end Added

theorem decodePacket_eq (globals : CaptureGlobals) {h : PcapPkthdr} (buffer : Mem)
    (snapped : h.caplen ≤ globals.snaplen.toUInt32) {packet : CapturedPacket}
    (added : decodePacket globals h buffer = .ok (.addedToWorker packet)) :
    ∃ len, deepPacketDecode globals { h with len } buffer = .ok (.addedToWorker packet) := by
  unfold decodePacket at added
  split at added
  · cases added
  · split at added
    · have same : min h.caplen globals.snaplen.toUInt32 = h.caplen := if_pos snapped
      simp only [same] at added
      exact ⟨_, added⟩
    · exact ⟨h.len, added⟩

/-- The range that a worker gets of a captured frame is the captured part of the payload exactly
when the frame is one of those that the lengths are right for. -/
theorem fetchPcapPacket_framed_iff (globals : CaptureGlobals) (hdr : PcapPkthdr) (pkt : Bytes)
    (beyond : Mem) {packet : CapturedPacket}
    (added : fetchPcapPacket globals hdr pkt beyond = .ok (.addedToWorker packet)) :
    let (h, buffer) := nextPcapPacket globals.snaplen hdr pkt beyond
    packet.Framed h.caplen.toNat (udpPayload globals.datalink buffer) ↔
      FramesWell globals.datalink buffer h.caplen.toNat := by
  let caplen := min hdr.caplen globals.snaplen.toUInt32
  have snapped : caplen ≤ globals.snaplen.toUInt32 := by
    change (if hdr.caplen ≤ globals.snaplen.toUInt32 then hdr.caplen else _) ≤ _
    split
    · assumption
    · exact UInt32.le_refl _
  obtain ⟨len, deep⟩ := @decodePacket_eq globals { hdr with caplen } _ snapped packet added
  have bound := UInt32.le_iff_toNat_le.mp snapped
  have small := globals.snaplen.toNat_lt
  have same : globals.snaplen.toUInt32.toNat = globals.snaplen.toNat := UInt16.toNat_toUInt32 _
  have captured : caplen.toNat < 65536 := by omega
  exact @deepPacketDecode_framed_iff globals { hdr with caplen, len } _ packet captured deep

/-- An Ethernet capture with one sensor, 10.0.0.1. -/
def captureGlobals : CaptureGlobals where
  datalink := .ethernet
  snaplen := 128
  stopPacketCapture := false
  sensorsInfo :=
    { database := AList.insert (.v4 0x0a000001#32)
        { network := .v4 0x0a000001#32
          netmask := .v4 (BitVec.allOnes 32)
          worker := some 0
          defaultObservationId := none
          observationId := ∅ } ∅ }

/-- A datagram of the sensor to port 2055, of so many bytes in all as its IP header says. -/
def ipv4Frame (ipLen : UInt8) (payload : Bytes) : Bytes :=
  List.replicate 12 0 ++ [8, 0] ++
    [0x45, 0, 0, ipLen, 0, 0, 0, 0, 64, 17, 0, 0, 10, 0, 0, 1, 10, 0, 0, 2] ++
    [0x20, 0, 8, 7, 0, 0, 0, 0] ++ payload

/-- What `fetchPcapPacket` hands on of a frame that was captured as a whole. -/
def fetchWhole (frame : Bytes) : Run Decoded :=
  let length := UInt32.ofNat frame.length
  fetchPcapPacket captureGlobals { tsSec := 0, tsUsec := 0, caplen := length, len := length } frame
    fun _ => 0

def Decoded.packet : Decoded → Option CapturedPacket
  | .addedToWorker packet => some packet
  | _ => none

def Decoded.range (decoded : Decoded) : Option (Nat × Int) :=
  decoded.packet.map fun packet => (packet.buffer, packet.bufferLen)

theorem exists_packet_of_range {run : Run Decoded} {start : Nat} {length : Int}
    (ran : run.map Decoded.range = .ok (some (start, length))) :
    ∃ packet, run = .ok (.addedToWorker packet) ∧ packet.buffer = start ∧
      packet.bufferLen = length := by
  obtain ⟨decoded, ended, range⟩ := exists_of_map_eq_ok ran
  cases decoded with
  | ignored => cases range
  | unknownSensor => cases range
  | addedToWorker packet =>
      cases range
      exact ⟨packet, ended, rfl, rfl⟩

theorem fetchPcapPacket_framed_60 :
    ∃ packet, fetchWhole (ipv4Frame 32 (List.replicate 18 7)) = .ok (.addedToWorker packet) ∧
      packet.Framed 60 { start := 42, finish := 46 } := by
  obtain ⟨packet, ran, _⟩ :=
    exists_packet_of_range (by decide +kernel :
      (fetchWhole (ipv4Frame 32 (List.replicate 18 7))).map Decoded.range = .ok (some (42, 4)))
  exact ⟨packet, ran, (fetchPcapPacket_framed_iff captureGlobals _ _ _ ran).mpr (by decide +kernel)⟩

/-- An IP packet of 24 bytes, padded to 60: four bytes before the end of the UDP header. -/
theorem not_framed_24 :
    ∃ packet, fetchWhole (ipv4Frame 24 (List.replicate 18 7)) = .ok (.addedToWorker packet) ∧
      packet.bufferLen = -4 ∧ ¬packet.Framed 60 { start := 42, finish := 38 } := by
  obtain ⟨packet, ran, _, length⟩ :=
    exists_packet_of_range (by decide +kernel :
      (fetchWhole (ipv4Frame 24 (List.replicate 18 7))).map Decoded.range = .ok (some (42, -4)))
  refine ⟨packet, ran, length, fun framed => ?_⟩
  have nonneg := framed.nonneg
  omega

end F2k
