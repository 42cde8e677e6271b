import F2k.FlowTimes
import F2k.Lib.Outcome

namespace F2k

open Lib

/-! The partition a message goes to is chosen by the MAC address of its client. -/

/-- `random` is the answer of `rd_kafka_msg_partitioner_random` for the message. -/
def rbClientMacPartitioner (partitionCnt random : Int32) (clientMac : UInt64) : Int32 :=
  if clientMac = 0 then random
  else (clientMac % partitionCnt.toInt64.toUInt64).toUInt32.toInt32

/-- The messages of a flow carry the MAC address of its client, and where there is one they all
go to one partition. -/
structure MacAffinity (clientMac : UInt64) (messages : List Message) : Prop where
  carried : ∀ message ∈ messages, message.clientMac = clientMac
  onePartition : clientMac ≠ 0 → ∀ partitionCnt, ∃ partition, ∀ message ∈ messages, ∀ random,
    rbClientMacPartitioner partitionCnt random message.clientMac = partition

theorem MacAffinity.of_carried {clientMac : UInt64} {messages : List Message}
    (carried : ∀ message ∈ messages, message.clientMac = clientMac) :
    MacAffinity clientMac messages := by
  refine ⟨carried, ?_⟩
  intro known partitionCnt
  refine ⟨(clientMac % partitionCnt.toInt64.toUInt64).toUInt32.toInt32, ?_⟩
  intro message member random
  rw [carried message member, rbClientMacPartitioner, if_neg known]

/-- The nodes of a flow that is split are filled without the flow cache. -/
theorem rbSeparateLongTimeFlow_clientMac {globals : ReadOnlyGlobals} {line : Bytes}
    {first dSwitched dInterval maxIntervals bytes pkts : UInt64} {messages : List Message}
    (ran : rbSeparateLongTimeFlow globals line first dSwitched dInterval maxIntervals bytes pkts =
      .ok messages) : ∀ message ∈ messages, message.clientMac = 0 := by
  unfold rbSeparateLongTimeFlow at ran
  obtain ⟨final, _, nodes⟩ := Run.bind_eq_ok.mp ran
  cases nodes
  intro message member
  obtain ⟨string, _, rfl⟩ := List.mem_map.mp member
  rfl

theorem printWholeFlow_clientMac {globals : ReadOnlyGlobals} {line : Bytes}
    {first dSwitched bytes pkts clientMac : UInt64} {messages : List Message}
    (ran : printWholeFlow globals line first dSwitched bytes pkts clientMac = .ok messages) :
    ∀ message ∈ messages, message.clientMac = clientMac := by
  rw [printWholeFlow_eq] at ran
  cases ran
  intro message member
  rw [List.mem_singleton.mp member]

/-- The MAC address of the client gets into the messages of a flow when long flows are left
whole; when they are split, a flow that is sent has none to lose. -/
theorem timeSplitFlow_affinity_iff (globals : ReadOnlyGlobals) (line : Bytes)
    (cache : FlowCache) :
    (∀ messages, timeSplitFlow globals line cache = .ok messages →
        MacAffinity cache.clientMac messages) ↔
      (globals.separateLongFlows = true → cache.clientMac = 0 ∨
        ¬Sends globals cache.observationId cache.time) := by
  have sends := timeSplitFlow_sends_iff globals line cache
  constructor
  · intro affinity separated
    by_contra both
    obtain ⟨known, sent⟩ := not_or.mp both
    obtain ⟨message, rest, ran⟩ := sends.mpr (not_not.mp sent)
    have carried := (affinity _ ran).carried message List.mem_cons_self
    rw [timeSplitFlow, if_pos separated] at ran
    have lost := rbSeparateLongTimeFlow_clientMac ran message List.mem_cons_self
    exact known (carried.symm.trans lost)
  · intro condition messages ran
    apply MacAffinity.of_carried
    cases separated : globals.separateLongFlows with
    | false =>
        rw [timeSplitFlow, separated] at ran
        exact printWholeFlow_clientMac ran
    | true =>
        cases messages with
        | nil =>
            intro message member
            contradiction
        | cons message rest =>
            have unknown : cache.clientMac = 0 := by
              rcases condition separated with unknown | unsent
              · exact unknown
              · exact absurd (sends.mp ⟨message, rest, ran⟩) unsent
            rw [timeSplitFlow, if_pos separated] at ran
            rw [unknown]
            exact rbSeparateLongTimeFlow_clientMac ran

/-- A flow of one minute with a client of known MAC address. -/
def knownClientCache : FlowCache where
  clientMac := 0x001122334455
  observationId := .new 0
  time := { exportTimestampS := 1000000, firstTimestampS := 1000000, lastTimestampS := 1000000 }
  bytes := 100
  packets := 10

theorem timeSplitFlow_loses_knownClient :
    ∃ messages, timeSplitFlow splittingGlobals [] knownClientCache = .ok messages ∧
      ¬MacAffinity knownClientCache.clientMac messages := by
  have clients : (timeSplitFlow splittingGlobals [] knownClientCache).map
      (fun messages => messages.map Message.clientMac) = .ok [0] := by
    decide +kernel
  obtain ⟨messages, ran, macs⟩ := exists_of_map_eq_ok clients
  refine ⟨messages, ran, ?_⟩
  intro affinity
  obtain ⟨message, rest, rfl⟩ : ∃ message rest, messages = message :: rest :=
    List.exists_cons_of_ne_nil (by rintro rfl; contradiction)
  have carried := affinity.carried message List.mem_cons_self
  have lost : message.clientMac = 0 := List.head_eq_of_cons_eq macs
  rw [lost] at carried
  exact absurd carried (by decide)

end F2k
