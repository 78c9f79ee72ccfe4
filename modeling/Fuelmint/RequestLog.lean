import Fuelmint.App
import Mathlib.Data.List.DropRight

/-!
# Reading a log of requests

Where the last Commit and the last EndBlock of a log are, the height that its
EndBlocks ask for, and the same requests at two readings of the clock.
-/

namespace Fuelmint

/-- The requests up to and including the last Commit. -/
def throughLastCommit (requests : List TimedRequest) :
    List TimedRequest :=
  requests.rdropWhile fun timed => !timed.2.isCommit

/-- The requests after the last Commit. -/
def sinceLastCommit (requests : List TimedRequest) : List TimedRequest :=
  requests.rtakeWhile fun timed => !timed.2.isCommit

theorem throughLastCommit_append_since
    (requests : List TimedRequest) :
    throughLastCommit requests ++ sinceLastCommit requests = requests :=
  List.rdropWhile_append_rtakeWhile

theorem throughLastCommit_idem (requests : List TimedRequest) :
    throughLastCommit (throughLastCommit requests) =
      throughLastCommit requests :=
  List.rdropWhile_idempotent _ _

def throughLastEndBlock (requests : List TimedRequest) :
    List TimedRequest :=
  requests.rdropWhile fun timed => timed.2.endBlockHeight?.isNone

def sinceLastEndBlock (requests : List TimedRequest) :
    List TimedRequest :=
  requests.rtakeWhile fun timed => timed.2.endBlockHeight?.isNone

theorem throughLastEndBlock_append_since
    (requests : List TimedRequest) :
    throughLastEndBlock requests ++ sinceLastEndBlock requests =
      requests :=
  List.rdropWhile_append_rtakeWhile

theorem no_endBlock_since
    {requests : List TimedRequest} {timed : TimedRequest}
    (member : timed ∈ sinceLastEndBlock requests) :
    timed.2.endBlockHeight? = none :=
  Option.isNone_iff_eq_none.mp <|
    List.mem_rtakeWhile_imp
      (p := fun timed : TimedRequest => timed.2.endBlockHeight?.isNone)
      member

/-! ## The height of the last EndBlock -/

def lastEndBlockHeight? (requests : List TimedRequest) : Option Int64 :=
  (requests.filterMap fun timed => timed.2.endBlockHeight?).getLast?

/-- The heights under which the EndBlocks of a log store their blocks. -/
def endedHeights (requests : List TimedRequest) : List BlockHeight :=
  requests.filterMap fun timed =>
    timed.2.endBlockHeight?.map BlockHeight.ofRequest

theorem endedHeights_concat
    (requests : List TimedRequest) (timed : TimedRequest) :
    endedHeights (requests ++ [timed]) =
      endedHeights requests ++
        (timed.2.endBlockHeight?.map BlockHeight.ofRequest).toList := by
  unfold endedHeights
  rw [List.filterMap_append]
  cases ended : timed.2.endBlockHeight? with
  | none =>
      simp [ended]
  | some height =>
      simp [ended]

/-- The height of the last EndBlock, `initial` when there is none. -/
def endedHeight (initial : Int64) (requests : List TimedRequest) : Int64 :=
  (lastEndBlockHeight? requests).getD initial

theorem endedHeight_append
    (initial : Int64) (earlier later : List TimedRequest) :
    endedHeight initial (earlier ++ later) =
      endedHeight (endedHeight initial earlier) later := by
  unfold endedHeight lastEndBlockHeight?
  rw [List.filterMap_append, List.getLast?_append]
  cases List.getLast?
    (later.filterMap fun timed => timed.2.endBlockHeight?) with
  | none =>
      simp
  | some height =>
      simp

theorem endedHeight_concat
    (initial : Int64) (requests : List TimedRequest)
    (timed : TimedRequest) :
    endedHeight initial (requests ++ [timed]) =
      timed.2.endBlockHeight?.getD (endedHeight initial requests) := by
  rw [endedHeight_append]
  cases ended : timed.2.endBlockHeight? with
  | none =>
      simp [endedHeight, lastEndBlockHeight?, ended]
  | some height =>
      simp [endedHeight, lastEndBlockHeight?, ended]

theorem endedHeight_split (initial : Int64) (requests : List TimedRequest) :
    endedHeight initial requests =
      endedHeight
        (endedHeight initial (throughLastCommit requests))
        (sinceLastCommit requests) := by
  rw [← endedHeight_append, throughLastCommit_append_since]

theorem lastEndBlockHeight?_since (requests : List TimedRequest) :
    lastEndBlockHeight? (sinceLastEndBlock requests) = none := by
  have nothing :
      (sinceLastEndBlock requests).filterMap
        (fun timed => timed.2.endBlockHeight?) = [] :=
    List.filterMap_eq_nil_iff.mpr fun timed member =>
      no_endBlock_since member
  rw [lastEndBlockHeight?, nothing]
  rfl

/-- The height after a run forgets the start at the first EndBlock. -/
theorem endedHeight_of_isSome
    {requests : List TimedRequest}
    (some : (lastEndBlockHeight? requests).isSome)
    (initial other : Int64) :
    endedHeight initial requests = endedHeight other requests := by
  obtain ⟨height, found⟩ := Option.isSome_iff_exists.mp some
  simp [endedHeight, found]

/-- Dropping the log up to its last EndBlock keeps the height of what follows,
if an EndBlock follows or none is dropped. -/
theorem endedHeight_since
    {before after : List TimedRequest}
    (known :
      lastEndBlockHeight? before = none ∨
        (lastEndBlockHeight? after).isSome)
    (initial : Int64) :
    endedHeight initial (sinceLastEndBlock before ++ after) =
      endedHeight initial (before ++ after) := by
  rw [endedHeight_append, endedHeight_append]
  rcases known with noneLost | replayedOne
  · simp [endedHeight, noneLost, lastEndBlockHeight?_since]
  · exact endedHeight_of_isSome replayedOne _ _

/-! ## The clocks of two runs -/

/-- A request with the clock of each of two runs while it is served. -/
abbrev SharedRequest := Tai64 × Tai64 × Request

def SharedRequest.left (shared : SharedRequest) : TimedRequest :=
  (shared.1, shared.2.2)

def SharedRequest.right (shared : SharedRequest) : TimedRequest :=
  (shared.2.1, shared.2.2)

/-- The clocks agree while a block is produced. -/
def SharedRequest.SameBlockTime (shared : SharedRequest) : Prop :=
  shared.2.2.endBlockHeight?.isSome → shared.1 = shared.2.1

theorem endedHeight_shared
    (initial : Int64) (requests : List SharedRequest) :
    endedHeight initial (requests.map SharedRequest.right) =
      endedHeight initial (requests.map SharedRequest.left) := by
  unfold endedHeight lastEndBlockHeight?
  rw [List.filterMap_map, List.filterMap_map]
  rfl

end Fuelmint
