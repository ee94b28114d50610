import Faucet.Send.Sender
import Faucet.Send.Acknowledgement
import Faucet.Library.ReverseIndex
import Faucet.Net.Address
import Faucet.Lacp.Nomination
import Faucet.Lacp.Selection
import Faucet.Lacp.Agreement
import Faucet.Packet.Ipv4
import Faucet.Packet.Parse
import Faucet.Packet.PacketIn
import Faucet.Library.OrderedDict
import Faucet.OpenFlow.Switch
import Faucet.Send.Reconnect
import Faucet.OpenFlow.Reorder
import Faucet.OpenFlow.SentFlows
import Faucet.Library.Flood
import Faucet.Library.LeastPath
import Faucet.Stack.Topology
import Faucet.Stack.SpanningTree
import Faucet.Stack.FloodRules
import Faucet.Stack.Forwarding
import Faucet.Stack.Broadcast
import Faucet.Stack.UnknownUnicast
import Faucet.Library.SharedView
import Faucet.Route.Agreement
import Faucet.Config.TunnelVlans
import Faucet.Config.TunnelAgreement
import Faucet.Dot1x.Flows
import Faucet.Dot1x.Messages
import Faucet.Dot1x.Isolation
import Faucet.Dot1x.Hosts
import Faucet.Dot1x.Ports
import Faucet.Dot1x.Runs
import Faucet.FlowTable.Builders
import Faucet.FlowTable.History
import Faucet.FlowTable.Calls
import Faucet.Send.Delivery
import Faucet.Lldp.LinkState
import Faucet.Lldp.Robust
import Faucet.Flooding.Ports
import Faucet.Flooding.Rules
import Faucet.OpenFlow.GroupReferences
import Faucet.Flooding.Events
import Faucet.Flooding.Lookup
import Faucet.Flooding.Calls
import Faucet.Flooding.Messages
import Faucet.Flooding.Incremental
import Faucet.Egress.Metadata
import Faucet.OpenFlow.TableMessages
import Faucet.Egress.Delivery
import Faucet.Flooding.Copies
import Faucet.Flooding.GroupTable
import Faucet.Lldp.Beacon
import Faucet.Send.ConfigApplied
import Faucet.Send.Truthful
import Faucet.Stack.LinkGraph
import Faucet.Stack.PortTowards
import Faucet.Stack.RootNomination
import Faucet.Learning.Hosts
import Faucet.Learning.Messages
import Faucet.Learning.Agreement
import Faucet.Learning.Runs
import Faucet.Stack.ChangingTopology
import Faucet.Stack.TopologyMessages
import Faucet.OpenFlow.Successive
import Faucet.Stack.DecidedRules
import Faucet.Stack.LastMessages
import Faucet.Stack.RuleEffects
import Faucet.Vlan.HostCache
import Faucet.Learning.Limits
import Faucet.Ports.Status
import Faucet.Events.Notify
import Faucet.Meters.WarmRestart
import Faucet.Route.Withdrawal
import Faucet.Config.Include
import Faucet.Config.IncludeRecords
import Faucet.Config.Watcher
import Faucet.Route.Requests
import Faucet.Route.Resolution
import Faucet.Route.ResolutionRuns
import Faucet.Route.NextHopRuns
import Faucet.Lacp.DropRule
import Faucet.Lacp.PortEvents
import Faucet.Lacp.PortChanges
import Faucet.Lacp.Forwarding
import Faucet.Lacp.PortRules
import Faucet.Lacp.PlainPorts
import Faucet.Library.Scan
import Faucet.Config.PortRanges
import Faucet.Acl.Outputs
import Faucet.Acl.Matches
import Faucet.Acl.Table
import Faucet.Library.FirstMatch
import Faucet.Acl.Placements
import Faucet.Acl.Sharing
import Faucet.Acl.FirstMatch
import Faucet.Ports.Reconciliation
import Faucet.Flooding.LocalFlood
import Faucet.Stack.TunnelPath
import Faucet.Vlan.LearnedMacs
import Faucet.Config.AutoRevert
import Faucet.Config.Beacons
import Faucet.Config.SharedOptions
import Faucet.Config.RangeSharing
import Faucet.Config.RangeMeaning
import Faucet.Learning.Timeouts
import Faucet.Config.ChangeDetection
import Faucet.Config.ChangeReports
import Faucet.Config.ChangeComparison
import Faucet.Acl.RuleBatches
import Faucet.Acl.TunnelRules
import Faucet.Acl.TunnelUpdates
import Faucet.Library.Numbered
import Faucet.Pipeline.Tables
import Faucet.Pipeline.Layout
import Faucet.Acl.Builds
import Faucet.Acl.Coverage
import Faucet.Acl.Accepted
import Faucet.Acl.Starts
import Faucet.Acl.TunnelRenewal
import Faucet.Library.Descent
import Faucet.Stack.LearnedHosts
import Faucet.OpenFlow.SentOrder
import Faucet.Polling.Runs
import Faucet.Lldp.Schedule
import Faucet.Switching.Isolation
import Faucet.Library.KeyedChanges
import Faucet.Pipeline.Renumbering
import Faucet.Reload.Changes
import Faucet.Reload.Unreported
import Faucet.Reload.Tables
import Faucet.Reload.AclRules
