import F2k.DirectionFields
import F2k.ExporterNeeds

namespace F2k

open Lib

/-! Elements that share a name: in the whole table, those that a template can announce and those
that are printed for every record. -/

/-- An element of the table that was not made up by the program. -/
def Element.IsAnnounced (element : Element) : Prop :=
  element.templateElementId < privateEntityId 0

instance : DecidablePred Element.IsAnnounced := fun _ => inferInstanceAs (Decidable (_ < _))

/-- Two fields of which elements are printed under one name, and what each of them needs for
that. -/
structure Clash where
  firstId : UInt16
  firstNeed : Need
  secondId : UInt16
  secondNeed : Need
deriving DecidableEq

def clashes : List Clash := [
  { firstId := 8, firstNeed := .addressV4, secondId := 27, secondNeed := .addressV6 },
  { firstId := 12, firstNeed := .addressV4, secondId := 28, secondNeed := .addressV6 },
  { firstId := 57, firstNeed := .mac, secondId := 81, secondNeed := .mac },
  { firstId := 39, firstNeed := .engine, secondId := 95, secondNeed := .engine },
  { firstId := 95, firstNeed := .application, secondId := 96, secondNeed := .application },
  { firstId := 302, firstNeed := .selector, secondId := 335, secondNeed := .selector }]

/-- An element that is ever printed, and the element of the table that it is printed with. -/
structure Spoken where
  ownerId : UInt16
  name : Bytes
  need : Need
deriving DecidableEq

def Element.spoken (element : Element) : List Spoken :=
  (element.all.filter fun printed => decide (printed.need ≠ .never)).map fun printed =>
    { ownerId := element.templateElementId, name := printed.name, need := printed.need }

def announcedElements : List Element :=
  ver9Templates.filter fun element => decide element.IsAnnounced

def announcedSpoken : List Spoken :=
  announcedElements.flatMap Element.spoken

def Spoken.clash (first second : Spoken) : Clash where
  firstId := first.ownerId
  firstNeed := first.need
  secondId := second.ownerId
  secondNeed := second.need

theorem announced_namesApart :
    ∀ element ∈ announcedElements, (element.spoken.map Spoken.name).Nodup := by
  decide +kernel

/-- What can be said of two elements that are printed under one name. -/
def Spoken.Apart (first second : Spoken) : Prop :=
  first.name = second.name → first.ownerId = second.ownerId ∨
    first.clash second ∈ clashes ∨ second.clash first ∈ clashes

instance : DecidableRel Spoken.Apart := fun _ _ => inferInstanceAs (Decidable (_ → _))

instance : Std.Symm Spoken.Apart where
  symm := by
    intro first second apart same
    rcases apart same.symm with owner | forwards | backwards
    · exact .inl owner.symm
    · exact .inr (.inr forwards)
    · exact .inr (.inl backwards)

theorem announced_clashes : ∀ first ∈ announcedSpoken, ∀ second ∈ announcedSpoken,
    first.name = second.name → first.ownerId = second.ownerId ∨
      first.clash second ∈ clashes ∨ second.clash first ∈ clashes := by
  have pairs : announcedSpoken.Pairwise Spoken.Apart := by
    decide +kernel
  have self : ∀ spoken ∈ announcedSpoken, spoken.Apart spoken := fun _ _ _ => .inl rfl
  exact fun first left second right => pairs.forall_of_forall self left right

def printedFor (fieldId : UInt16) : List Element :=
  ((findTemplate fieldId).map Element.all).getD []

/-- The element has an exporter that prints whenever it has what it needs. -/
def Element.Prompt (need : Need) (element : Element) : Prop :=
  element.exportFn.any (fun exportFn => exportFn.prompt && exportFn.need = need) = true

instance (need : Need) : DecidablePred (Element.Prompt need) :=
  fun _ => inferInstanceAs (Decidable (_ = true))

theorem clashes_prompt : ∀ clash ∈ clashes,
    ∃ first ∈ printedFor clash.firstId, ∃ second ∈ printedFor clash.secondId,
      first.name = second.name ∧ first.Prompt clash.firstNeed ∧
        second.Prompt clash.secondNeed := by
  decide +kernel

theorem clashes_different : ∀ clash ∈ clashes, clash.firstId ≠ clash.secondId := by
  decide

/-! The elements of every record -/

/-- The keys that every message starts or ends with. -/
def fixedNames : List Bytes :=
  (["type", "flow_sequence", "first_switched", "timestamp", "bytes", "pkts"]).map ascii

/-- Elements of an announced field that have the name of a last one. -/
def Spoken.BesideLast (spoken : Spoken) (last : Element) : Prop :=
  (spoken.need = .direction ∨ spoken.need = .addressV4) ∨
    (spoken.ownerId = 366 ∧ spoken.need = .station) ∨
      (spoken.ownerId = 365 ∧ spoken.need = .clientMac ∧
        last.exportFn = some .printDirectionBasedClientMac) ∨
          spoken.ownerId = 365 ∧ spoken.need = .vendor ∧
            last.exportFn = some .printDirectionBasedClientMacVendor

instance (spoken : Spoken) : DecidablePred spoken.BesideLast :=
  fun _ => inferInstanceAs (Decidable (_ ∨ _))

theorem announced_ending : ∀ spoken ∈ announcedSpoken,
    spoken.name ∉ (Element.allOf [host, referer]).map Element.name ∧
      (∀ last ∈ Element.allOf postTemplates,
        spoken.name = last.name → spoken.BesideLast last) ∧
          spoken.name ∉ fixedNames := by
  decide +kernel

theorem ending_names :
    ((Element.allOf (host :: referer :: postTemplates)).map Element.name).Nodup ∧
      ∀ element ∈ Element.allOf (host :: referer :: postTemplates),
        element.name ∉ fixedNames := by
  decide +kernel

theorem ending_namesApart :
    ((Element.allOf (host :: referer :: postTemplates)).map Element.name).Nodup :=
  ending_names.1

theorem announced_notEnding {spoken : Spoken} (member : spoken ∈ announcedSpoken) :
    spoken.name ∉ (Element.allOf [host, referer]).map Element.name :=
  (announced_ending spoken member).1

theorem announced_last {spoken : Spoken} (member : spoken ∈ announcedSpoken) :
    ∀ last ∈ Element.allOf postTemplates, spoken.name = last.name → spoken.BesideLast last :=
  (announced_ending spoken member).2.1

theorem announced_notFixed {spoken : Spoken} (member : spoken ∈ announcedSpoken) :
    spoken.name ∉ fixedNames :=
  (announced_ending spoken member).2.2

theorem ending_notFixed : ∀ element ∈ Element.allOf (host :: referer :: postTemplates),
    element.name ∉ fixedNames :=
  ending_names.2

/-! Elements that keep parts of the flow cache -/

theorem announced_clientMac : ∀ element ∈ announcedElements, ∀ printed ∈ element.all,
    printed.writes = .clientMac →
      element.templateElementId = 365 ∧ printed.exportFn = some .printClientMac := by
  decide +kernel

theorem hosts_clientMac : ∀ element ∈ Element.allOf [host, referer],
    element.writes ≠ .clientMac := by
  decide

theorem interfaces_clientMac :
    ∀ element ∈ Element.allOf [printDirection, lanInterface, wanInterface],
      element.writes ≠ .clientMac := by
  decide

theorem last_writes : ∀ element ∈ Element.allOf postTemplates,
    element.writes ≠ .macs ∧ element.writes ≠ .ends := by
  decide

end F2k
