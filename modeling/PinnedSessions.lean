import PinnedSessions.Settings.Serial
import PinnedSessions.Interpreter.Faulty
import PinnedSessions.Host
import PinnedSessions.Proofs.Statement.Departures
import PinnedSessions.Proofs.Session.Guarded
import PinnedSessions.Proofs.Session.Launch
import PinnedSessions.Proofs.Session.Conduct
import PinnedSessions.Proofs.Session.Gate
import PinnedSessions.Proofs.Host.Deed
import PinnedSessions.Proofs.Host.Turn
import PinnedSessions.Proofs.Host.Run
import PinnedSessions.Proofs.Session.Episode
import PinnedSessions.Proofs.Host.Ownership
import PinnedSessions.Proofs.Interpreter.Ledgered
import PinnedSessions.Proofs.Interpreter.Mirror
import PinnedSessions.Proofs.Host.Marks
import PinnedSessions.Proofs.Host.Ledgers
import PinnedSessions.Proofs.Host.Census
import PinnedSessions.Proofs.Interpreter.Furnished
import PinnedSessions.Proofs.Session.Objects
import PinnedSessions.Proofs.Host.Accounting
import PinnedSessions.Proofs.Interpreter.Twins
import PinnedSessions.Proofs.Session.Twins
import PinnedSessions.Proofs.Host.Isolation
import PinnedSessions.Proofs.Session.Course
import PinnedSessions.Proofs.Session.Arguments
import PinnedSessions.Proofs.Session.Faults
import PinnedSessions.Proofs.Guest.Denotation
import PinnedSessions.Proofs.Interpreter.Resolvers
import PinnedSessions.Proofs.Session.Renewals
import PinnedSessions.Proofs.Session.Resolvers
import PinnedSessions.Proofs.Session.Ending
import PinnedSessions.Proofs.Json.Grammar
import PinnedSessions.Proofs.Json.Reading
import PinnedSessions.Proofs.Json.Writing
import PinnedSessions.Proofs.Guest.Reread
import PinnedSessions.Proofs.Settings.Loading
import PinnedSessions.Proofs.Interpreter.Variables
import PinnedSessions.Proofs.Session.Variables
import PinnedSessions.Proofs.Host.Variables
import PinnedSessions.Proofs.Text.Lines
import PinnedSessions.Proofs.Statement.Completeness
import PinnedSessions.Proofs.Statement.Running
import PinnedSessions.Proofs.Interpreter.Blocks
import PinnedSessions.Proofs.Session.Scripts
import PinnedSessions.Proofs.Session.Warnings
import PinnedSessions.Proofs.Host.Starting
import PinnedSessions.Proofs.Resource.Confinement
import PinnedSessions.Proofs.Session.Postponing
import PinnedSessions.Proofs.Text.Words
import PinnedSessions.Proofs.Statement.Assignment
import PinnedSessions.Proofs.Session.Assignments
