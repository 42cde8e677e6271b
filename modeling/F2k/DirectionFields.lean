import F2k.MessageMembers

namespace F2k

open Lib

/-! What the direction of a flow is guessed from, and the addresses that it tells apart: while
directions are normalized, some fields are taken into the flow cache for that. -/

structure FlowEnds where
  observationId : ObservationID
  macs : FlowCacheMacs
  src : Bytes
  dst : Bytes

def FlowCache.ends (cache : FlowCache) : FlowEnds where
  observationId := cache.observationId
  macs := cache.macs
  src := cache.address.src
  dst := cache.address.dst

/-- What an exporter takes of its field. -/
def ExportFn.take (exportFn : ExportFn) (field : Bytes) (ends : FlowEnds) : FlowEnds :=
  let { observationId, macs, .. } := ends
  match exportFn with
  | .printIpv4SrcAddr => if field.length = 4 then { ends with src := ipv4bufTo6 field } else ends
  | .printIpv4DstAddr => if field.length = 4 then { ends with dst := ipv4bufTo6 field } else ends
  | .printIpv6SrcAddr => if field.length = 16 then { ends with src := field } else ends
  | .printIpv6DstAddr => if field.length = 16 then { ends with dst := field } else ends
  | .processSrcMac =>
      if field.length = 6 then { ends with macs := { macs with srcMac := field } } else ends
  | .processDstMac =>
      if field.length = 6 then { ends with macs := { macs with dstMac := field } } else ends
  | .processPostSrcMac =>
      if field.length = 6 then { ends with macs := { macs with postSrcMac := field } } else ends
  | .processPostDstMac =>
      if field.length = 6 then { ends with macs := { macs with postDstMac := field } } else ends
  | .processDirection =>
      let inbound : UInt64 := if observationId.exporterInWanSide then 1 else 0
      if net2number field > 1 then ends
      else
        let direction := if net2number field = inbound then Direction.upstream else .downstream
        { ends with macs := { macs with direction } }
  | _ => ends

/-- The ends that are taken of the inputs, one after another. -/
def takenEnds (ends : FlowEnds) (inputs : List ElementInput) : FlowEnds :=
  inputs.foldl
    (fun ends input =>
      match input.element.exportFn with
      | some exportFn => exportFn.take (input.buffer.slice input.length) ends
      | none => ends)
    ends

def FlowEnds.cache (ends : FlowEnds) : FlowCache where
  observationId := ends.observationId
  macs := ends.macs
  address := { src := ends.src, dst := ends.dst }

theorem CachePart.Written.ends {part : CachePart} {before after : FlowCache}
    (written : part.Written before after) (noMacs : part ≠ .macs) (noEnds : part ≠ .ends) :
    after.ends = before.ends := by
  cases part with
  | nothing =>
      cases written
      rfl
  | macs | ends => contradiction
  | clientMac | interfaces | ports | client | time =>
      obtain ⟨_, rfl⟩ := written
      rfl
  | counts =>
      obtain ⟨_, _, rfl⟩ := written
      rfl
  | http =>
      obtain ⟨_, _, _, rfl⟩ := written
      rfl

section Taking

variable {globals : ReadOnlyGlobals} {field : Bytes} {cache : FlowCache}

theorem processIpv4Addr0_takes (normalizing : globals.normalizeDirections = true)
    (save : FlowCacheAddress → Bytes → FlowCacheAddress) :
    (processIpv4Addr0 save globals field cache).map Printed.cache =
      .ok (if field.length = 4 then
        { cache with address := save cache.address (ipv4bufTo6 field) } else cache) := by
  rw [processIpv4Addr0, if_pos normalizing]
  split <;> rfl

theorem printIpv6_takes (globals : ReadOnlyGlobals)
    (save : FlowCacheAddress → Bytes → FlowCacheAddress) :
    (printIpv6 save globals field cache).map Printed.cache =
      .ok (if field.length = 16 then { cache with address := save cache.address field }
        else cache) := by
  rw [printIpv6, ite_not]
  split <;> rfl

theorem processMac0_takes (normalizing : globals.normalizeDirections = true)
    (save : FlowCacheMacs → Bytes → FlowCacheMacs) :
    (processMac0 save globals field cache).map Printed.cache =
      .ok (if field.length = 6 then { cache with macs := save cache.macs field } else cache) := by
  rw [processMac0, if_pos normalizing]
  split <;> rfl

theorem processDirection_takes (normalizing : globals.normalizeDirections = true) :
    ((processDirection globals field cache).map Printed.cache).map FlowCache.ends =
      .ok (ExportFn.processDirection.take field cache.ends) := by
  simp only [processDirection, ExportFn.take, if_pos normalizing]
  split
  · rfl
  · next small =>
    have known : net2number field = 0 ∨ net2number field = 1 := by
      have le : (net2number field).toNat ≤ 1 := UInt64.not_lt.mp small
      rw [← UInt64.toNat_inj, ← UInt64.toNat_inj]
      exact Nat.le_one_iff_eq_zero_or_eq_one.mp le
    unfold FlowCache.ends
    obtain zero | one := known
    · rw [zero]
      cases cache.observationId.exporterInWanSide <;> rfl
    · rw [one]
      cases cache.observationId.exporterInWanSide <;> rfl

end Taking

theorem exportField_takes {globals : ReadOnlyGlobals}
    (normalizing : globals.normalizeDirections = true) (exportFn : ExportFn) (buffer : Mem)
    (length : Nat) (cache : FlowCache) :
    Outcome (fun _ => True)
      (fun printed => printed.cache.ends = exportFn.take (buffer.slice length) cache.ends)
      (exportField globals exportFn buffer length cache) := by
  have taken : ∀ {run : Run Printed} {condition : Prop} [Decidable condition]
      {other : FlowCache}, run.map Printed.cache = .ok (if condition then other else cache) →
      Outcome (fun _ => True)
        (fun printed => printed.cache.ends = if condition then other.ends else cache.ends)
        run := by
    intro run condition _ other ran
    obtain ⟨printed, rfl, same⟩ := exists_of_map_eq_ok ran
    exact (congrArg FlowCache.ends same).trans (apply_ite FlowCache.ends condition other cache)
  cases exportFn with
  | printIpv4SrcAddr =>
      exact taken (processIpv4Addr0_takes normalizing fun address ip => { address with src := ip })
  | printIpv4DstAddr =>
      exact taken (processIpv4Addr0_takes normalizing fun address ip => { address with dst := ip })
  | printIpv6SrcAddr =>
      exact taken (printIpv6_takes globals fun address ip => { address with src := ip })
  | printIpv6DstAddr =>
      exact taken (printIpv6_takes globals fun address ip => { address with dst := ip })
  | processSrcMac =>
      exact taken (processMac0_takes normalizing fun macs mac => { macs with srcMac := mac })
  | processPostSrcMac =>
      exact taken (processMac0_takes normalizing fun macs mac => { macs with postSrcMac := mac })
  | processDstMac =>
      exact taken (processMac0_takes normalizing fun macs mac => { macs with dstMac := mac })
  | processPostDstMac =>
      exact taken (processMac0_takes normalizing fun macs mac => { macs with postDstMac := mac })
  | processDirection =>
      have ends := @processDirection_takes globals (buffer.slice length) cache normalizing
      obtain ⟨after, ran, same⟩ := exists_of_map_eq_ok ends
      obtain ⟨printed, ranField, rfl⟩ := exists_of_map_eq_ok ran
      have field : exportField globals .processDirection buffer length cache = .ok printed :=
        ranField
      rw [field]
      exact same
  | _ =>
      exact ((exportField_writes globals _ buffer length cache).mono_fails
        fun _ => False.elim).mono fun _ written => written.ends nofun nofun

/-- Printing takes of the elements what they are there to take. -/
theorem PrintsElements.ends {globals : ReadOnlyGlobals}
    (normalizing : globals.normalizeDirections = true) {before after : FlowCache}
    {elements : List PrintedElement} (prints : PrintsElements globals before elements after) :
    after.ends = takenEnds before.ends (elements.map PrintedElement.toElementInput) := by
  induction prints with
  | nil => rfl
  | @cons element rest last exported _ ih =>
      rw [ih, List.map_cons]
      unfold takenEnds
      rw [List.foldl_cons]
      congr 1
      unfold Element.exported at exported
      cases exporter : element.element.exportFn with
      | none =>
          rw [exporter] at exported
          rw [← Except.ok.inj exported]
      | some exportFn =>
          rw [exporter] at exported
          exact (exportField_takes normalizing exportFn element.buffer element.length
            element.cache).of_ok exported

/-! Both the guess and the choice of the client's address are up to the ends alone. -/

theorem guessDirection_ends {cache other : FlowCache} (same : cache.ends = other.ends) :
    (guessDirection cache).map FlowCache.ends = (guessDirection other).map FlowCache.ends := by
  have kept := same
  simp only [FlowCache.ends, FlowEnds.mk.injEq] at kept
  obtain ⟨sameId, sameMacs, sameSrc, sameDst⟩ := kept
  unfold guessDirection
  rw [sameId, sameSrc, sameDst]
  split
  · exact congrArg Except.ok same
  · cases other.observationId.networkIp (.ofOctets other.address.src) with
    | error fault => rfl
    | ok src =>
        cases other.observationId.networkIp (.ofOctets other.address.dst) with
        | error fault => rfl
        | ok dst =>
            simp only [Run.ok_bind]
            cases ipDirection src.isSome dst.isSome with
            | unset => exact congrArg Except.ok same
            | upstream | downstream | internal =>
                refine congrArg Except.ok ?_
                simp only [FlowCache.ends, sameMacs, sameSrc, sameDst]

theorem getDirectionBasedClientMac_ends {cache other : FlowCache}
    (same : cache.ends = other.ends) :
    cache.getDirectionBasedClientMac = other.getDirectionBasedClientMac := by
  simp only [FlowCache.ends, FlowEnds.mk.injEq] at same
  obtain ⟨sameId, sameMacs, _, _⟩ := same
  simp only [FlowCache.getDirectionBasedClientMac, FlowCache.clientEndpoint, sameId, sameMacs]

/-- The MAC addresses that the client's one is chosen from are whole ones. -/
structure FlowEnds.WholeMacs (ends : FlowEnds) : Prop where
  srcMac : ends.macs.srcMac.length = 6
  dstMac : ends.macs.dstMac.length = 6
  postDstMac : ends.macs.postDstMac.length = 6

theorem ExportFn.take_wholeMacs (exportFn : ExportFn) (field : Bytes) {ends : FlowEnds}
    (whole : ends.WholeMacs) : (exportFn.take field ends).WholeMacs := by
  have kept : ∀ {condition : Prop} [Decidable condition] {taken : FlowEnds},
      (condition → taken.WholeMacs) → (if condition then taken else ends).WholeMacs := by
    intro condition _ taken own
    split
    · next holds => exact own holds
    · exact whole
  cases exportFn with
  | printIpv4SrcAddr | printIpv4DstAddr | printIpv6SrcAddr | printIpv6DstAddr
  | processPostSrcMac => exact kept fun _ => { whole with }
  | processSrcMac => exact kept fun long => { whole with srcMac := long }
  | processDstMac => exact kept fun long => { whole with dstMac := long }
  | processPostDstMac => exact kept fun long => { whole with postDstMac := long }
  | processDirection =>
      simp only [ExportFn.take]
      split
      · exact whole
      · exact { whole with }
  | _ => exact whole

theorem takenEnds_wholeMacs (inputs : List ElementInput) {ends : FlowEnds}
    (whole : ends.WholeMacs) : (takenEnds ends inputs).WholeMacs := by
  induction inputs generalizing ends with
  | nil => exact whole
  | cons input rest ih =>
      apply ih
      simp only
      cases input.element.exportFn with
      | none => exact whole
      | some exportFn => exact exportFn.take_wholeMacs _ whole

theorem FlowEnds.WholeMacs.clientMac {cache : FlowCache} (whole : cache.ends.WholeMacs) :
    cache.getDirectionBasedClientMac.length = 6 := by
  simp only [FlowCache.getDirectionBasedClientMac, FlowCache.clientEndpoint]
  cases cache.observationId.spanPort with
  | false =>
      split
      · exact whole.postDstMac
      · exact whole.srcMac
  | true =>
      split
      · exact whole.dstMac
      · exact whole.srcMac

end F2k
