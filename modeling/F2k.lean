import F2k.HomeNetwork
import F2k.Lib.Table
import F2k.SensorLookup
import F2k.EncodedSet
import F2k.Lib.Json
import F2k.Texts
import F2k.Datagrams
import F2k.TemplateStore
import F2k.Announcements
import F2k.TemplateRuns
import F2k.Isolation
import F2k.DatagramIsolation
import F2k.Exporters
import F2k.PrinterFaults
import F2k.RecordLoops
import F2k.PacketFold
import F2k.Lib.Systems
import F2k.Shutdown
import F2k.Reload
import F2k.DnsCache
import F2k.DnsCacheContents
import F2k.DnsCacheRuns
import F2k.DnsResolution
import F2k.DnsFlow
import F2k.DnsResolutionRuns
import F2k.DnsNames
import F2k.ExporterCache
import F2k.Abreast
import F2k.RecordPaths
import F2k.ClientMac
import F2k.ObservationCalls
import F2k.InterfaceTexts
import F2k.PrintableFields
import F2k.LookupFaults
import F2k.NetAddress
import F2k.NetworksAgree
import F2k.EnterpriseFields
import F2k.TemplateFiles
import F2k.TemplateRestart
import F2k.MessageMembers
import F2k.DirectionFields
import F2k.ExporterNeeds
import F2k.ElementNames
import F2k.RepeatedKeys
import F2k.TaughtNames
import F2k.JsonMessages
import F2k.MessageRuns
import F2k.ConfiguredMessages
import F2k.FlowEndpoints
import F2k.MillisecondTimes
import F2k.PrinterFraming
import F2k.Lib.Heap
import F2k.SplitBuffers
import F2k.SplitMessages
import F2k.PacketCapture
import F2k.TemplateBlocks
import F2k.Listeners
import F2k.Lib.LinkedLists
import F2k.NameFiles
import F2k.NameReload
import F2k.NameLoads
import F2k.NamesReloaded
import F2k.Lib.JsonStrings
import F2k.EscapedStrings
import F2k.CidrTexts
import F2k.FieldNumbers
import F2k.ObservationKeys
import F2k.Lib.LastWrites
import F2k.ObservationSettings
import F2k.Lib.Comparisons
import F2k.NumNameAssocTree
import F2k.HttpDomains
import F2k.SecondLevelDomains
import F2k.TemplateLoads
import F2k.ExporterReads
import F2k.TemplateBuffers
import F2k.ExporterLines
import F2k.ExporterReports
import F2k.ReportedLengths
import F2k.RecordMessages
import F2k.Workers
import F2k.StringLists
import F2k.LearnedNames
import F2k.V5Datagrams
import F2k.TemplateRefreshes
import F2k.PacketBuffers
import F2k.FlowTotals
import F2k.DelayedFlows
import F2k.PrintedNames
import F2k.CaptureReplays
import F2k.ReadMessages
