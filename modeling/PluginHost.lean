import PluginHost.Main
import PluginHost.PluginTable
import PluginHost.Proofs.CommandLine.Admission
import PluginHost.Proofs.CommandLine.Building
import PluginHost.Proofs.CommandLine.Canonical
import PluginHost.Proofs.CommandLine.Decoding
import PluginHost.Proofs.CommandLine.Fallback
import PluginHost.Proofs.CommandLine.NulFree
import PluginHost.Proofs.Header
import PluginHost.Proofs.InvalidHeader
import PluginHost.Proofs.Json.Grammar
import PluginHost.Proofs.Json.Members
import PluginHost.Proofs.Json.Writing
import PluginHost.Proofs.Machine.Usual
import PluginHost.Proofs.Process.Services
import PluginHost.Proofs.Request.FirstNul
import PluginHost.Proofs.Request.HeaderTable
import PluginHost.Proofs.Request.HeadersJson
import PluginHost.Proofs.Request.Indistinguishable
import PluginHost.Proofs.Request.LastGiven
import PluginHost.Proofs.Request.Lookup
import PluginHost.Proofs.Request.NulFree
import PluginHost.Proofs.Request.Reachable
import PluginHost.Proofs.Request.ReadingText
import PluginHost.Proofs.Request.UnreadableHeaders
import PluginHost.Proofs.Runner.Logging
import PluginHost.Proofs.Runner.Report
import PluginHost.Proofs.Sink.Delivery
import PluginHost.Proofs.Sink.Limited
import PluginHost.Proofs.Text.Quoted
import PluginHost.Proofs.Text.Utf8
import PluginHost.Proofs.Text.Utf8.Faults
import PluginHost.Proofs.Text.Utf8.WellFormed
import PluginHost.Proofs.Trigger.Decoding
import PluginHost.Proofs.Trigger.Echo
import PluginHost.Proofs.Trigger.Limits
import PluginHost.Proofs.Trigger.Succession
import PluginHost.Sink.Limited
