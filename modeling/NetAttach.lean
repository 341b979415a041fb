import NetAttach.Dict
import NetAttach.Text.Blank
import NetAttach.Text.Digits
import NetAttach.Text.Split
import NetAttach.Text.Quoted
import NetAttach.Text.Utf8
import NetAttach.Text.Base64
import NetAttach.Json.Printer
import NetAttach.Json.Reader
import NetAttach.Selection.Annotation
import NetAttach.Attachment.Annotation
import NetAttach.Plugin.Call
import NetAttach.Queue.Delayed
import NetAttach.Store.Memory
import NetAttach.Store.PodCache
import NetAttach.Controller.Worker
import NetAttach.Controller.Watch
import NetAttach.Simulation.Schedule
import NetAttach.Cluster.Store
import NetAttach.Cluster.Watch
import NetAttach.Cluster.Events
import NetAttach.Plugin.Server
import NetAttach.Network.Http.Reply
import NetAttach.Container.Inspection
import NetAttach.Config.Basic
import NetAttach.Proofs.WorkQueue
import NetAttach.Proofs.Site
import NetAttach.Proofs.Edit
import NetAttach.Proofs.Course
import NetAttach.Proofs.Undisturbed
import NetAttach.Proofs.Replay
import NetAttach.Proofs.Removal
import NetAttach.Proofs.Recording
import NetAttach.Proofs.Crew
import NetAttach.Proofs.Depth
import NetAttach.Proofs.Wakeups
import NetAttach.Proofs.Budget
import NetAttach.Proofs.Drain
import NetAttach.Proofs.Prefix
import NetAttach.Proofs.Distinct
import NetAttach.Proofs.WaitingRoom
import NetAttach.Proofs.Changes
import NetAttach.Proofs.Mirror
import NetAttach.Proofs.Origins
import NetAttach.Proofs.Records
import NetAttach.Proofs.History
import NetAttach.Proofs.Echo
import NetAttach.Proofs.Contract
import NetAttach.Proofs.Rewriting
import NetAttach.Proofs.Slots
import NetAttach.Proofs.ShortForm
import NetAttach.Proofs.Requested
import NetAttach.Proofs.SelectionText
import NetAttach.Proofs.Backoff
import NetAttach.Proofs.Postponed
import NetAttach.Proofs.HostSide
import NetAttach.Proofs.References
import NetAttach.Proofs.Announcements
import NetAttach.Proofs.Bytes
import NetAttach.Proofs.Posting
