import ScriptMachine.Value.Comparison
import ScriptMachine.Value.Text
import ScriptMachine.Text.Lowercase
import ScriptMachine.Machine.Stack
import ScriptMachine.Log.Decoding
import ScriptMachine.Host.Sandbox
import ScriptMachine.Host.Console
import ScriptMachine.Host.Refusing
import ScriptMachine.Container.Build
import ScriptMachine.Session.Command
import ScriptMachine.Source.Directory
import ScriptMachine.Notation.Json
import ScriptMachine.Config.Decode
import ScriptMachine.Main
import ScriptMachine.Proofs.Code.Relocation
import ScriptMachine.Proofs.Container.Format
import ScriptMachine.Proofs.Container.Decoding
import ScriptMachine.Proofs.Container.Acceptance
import ScriptMachine.Proofs.Container.Cutting
import ScriptMachine.Proofs.Container.Interning
import ScriptMachine.Proofs.Container.Drafting
import ScriptMachine.Proofs.Container.Placing
import ScriptMachine.Proofs.Container.RoundTrip
import ScriptMachine.Proofs.Container.Validity
import ScriptMachine.Proofs.Container.Header
import ScriptMachine.Proofs.Machine.Frames
import ScriptMachine.Proofs.Machine.Stepping
import ScriptMachine.Proofs.Host.Recording
import ScriptMachine.Proofs.Host.Handles
import ScriptMachine.Proofs.Session.Mirroring
import ScriptMachine.Proofs.Session.History
import ScriptMachine.Proofs.Session.Containment
import ScriptMachine.Proofs.Session.Frames
import ScriptMachine.Proofs.Machine.Operands
import ScriptMachine.Proofs.Session.Slots
import ScriptMachine.Proofs.Session.Halting
import ScriptMachine.Proofs.Machine.Calls
import ScriptMachine.Proofs.Session.Returning
import ScriptMachine.Proofs.Session.Budget
import ScriptMachine.Proofs.Machine.Answers
import ScriptMachine.Proofs.Machine.Positions
import ScriptMachine.Proofs.Machine.Effects
import ScriptMachine.Proofs.Session.Memory
import ScriptMachine.Proofs.Session.Lifecycle
import ScriptMachine.Proofs.Session.Asking
import ScriptMachine.Proofs.Session.Contexts
import ScriptMachine.Proofs.Session.Locals
import ScriptMachine.Proofs.Machine.Texts
import ScriptMachine.Proofs.Session.Startup
import ScriptMachine.Proofs.Machine.Relations
import ScriptMachine.Proofs.Value.Equality
import ScriptMachine.Proofs.Session.CodeEnd
import ScriptMachine.Proofs.Session.Arguments
import ScriptMachine.Proofs.Value.Exactness
import ScriptMachine.Proofs.Machine.Raising
import ScriptMachine.Proofs.Machine.Bounds
import ScriptMachine.Proofs.Machine.Targets
import ScriptMachine.Proofs.Machine.Straying
import ScriptMachine.Proofs.Session.Addresses
import ScriptMachine.Proofs.Source.Paths
import ScriptMachine.Proofs.Text.Lowercase
import ScriptMachine.Proofs.Source.Lookup
import ScriptMachine.Proofs.Host.Variables
import ScriptMachine.Proofs.Session.Agreeing
import ScriptMachine.Proofs.Session.Variables
import ScriptMachine.Proofs.Host.Padding
import ScriptMachine.Proofs.Machine.Padding
import ScriptMachine.Proofs.Session.Padding
import ScriptMachine.Proofs.Code.Cursor
