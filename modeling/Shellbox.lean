import Shellbox.FileTree.Operation
import Shellbox.Main
import Shellbox.Sandbox.Audit
import Shellbox.Sandbox.Capture
import Shellbox.Sandbox.Raised
import Shellbox.Shell.Completion
import Shellbox.Proofs.Atomicity
import Shellbox.Proofs.Availability
import Shellbox.Proofs.Conversation
import Shellbox.Proofs.ListedCommands
import Shellbox.Proofs.DeepCopy
import Shellbox.Proofs.NodePaths
import Shellbox.Proofs.PathReading
import Shellbox.Proofs.WorkingDirectory
import Shellbox.Proofs.ReplyStream
import Shellbox.Proofs.ReplyShape
import Shellbox.Proofs.CapturedOutput
import Shellbox.Proofs.CaptureLength
import Shellbox.Proofs.Removal
import Shellbox.Proofs.Creation
import Shellbox.Proofs.BatchOrder
import Shellbox.Proofs.Traversals
import Shellbox.Proofs.Growth
import Shellbox.Proofs.TimeStamps
import Shellbox.Proofs.SessionNames
import Shellbox.Proofs.Clocks
import Shellbox.Proofs.DirectoryOperands
import Shellbox.Proofs.TouchReports
import Shellbox.Proofs.FoundLines
import Shellbox.Proofs.LowerCase
import Shellbox.Proofs.CaseSearch
import Shellbox.Proofs.Completion
import Shellbox.Proofs.GuardedRemoval
import Shellbox.Proofs.CommandListing
import Shellbox.Proofs.Walking
import Shellbox.Proofs.EchoedText
import Shellbox.Proofs.DeepSearch
import Shellbox.Proofs.PathWalks
import Shellbox.Proofs.ProcessorTime
import Shellbox.Proofs.RequestText
import Shellbox.Proofs.PrintedLines
