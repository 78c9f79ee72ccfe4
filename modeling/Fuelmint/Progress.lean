import Fuelmint.Control

/-!
# Consecutive blocks are answered

What a healthy consensus sends: blocks of consecutive heights from genesis on.
The automaton shows that nothing in the application itself holds such a run
up.  It is answered to its end unless the pool refuses a delivery, or executor
or database fail.
-/

namespace Fuelmint

open Foundation

variable {T : Types} {F : FuelCore T}

/-- How many blocks the requests end. -/
def blockCount (requests : List TimedRequest) : Nat :=
  (endedHeights requests).length

theorem blockCount_concat
    (requests : List TimedRequest) (timed : TimedRequest) :
    blockCount (requests ++ [timed]) =
      blockCount requests + timed.2.endBlockHeight?.toList.length := by
  unfold blockCount
  rw [endedHeights_concat, List.length_append]
  cases timed.2.endBlockHeight? <;> rfl

/-- Each EndBlock asks for the height after all blocks before it. -/
def Consecutive (genesis : Nat) (requests : List TimedRequest) : Prop :=
  ∀ (before : List TimedRequest) (now : Tai64) (height : Int64)
    (after : List TimedRequest),
    requests = before ++ (now, .endBlock height) :: after →
      height.toInt = genesis + blockCount before + 1

theorem Consecutive.of_append
    {genesis : Nat} {before after : List TimedRequest}
    (consecutive : Consecutive genesis (before ++ after)) :
    Consecutive genesis before := by
  intro earlier now height later split
  apply consecutive earlier now height (later ++ after)
  rw [split, List.append_assoc, List.cons_append]

/-- What the automaton gets to on consecutive requests. -/
structure Control.OnTrack (control : Control) (genesis : Nat)
    (requests : List TimedRequest) : Prop where
  serving : control.serving = true
  bottom : control.interval.bottom = genesis
  top : control.interval.top = genesis + blockCount requests
  current :
    control.current.toInt =
      if blockCount requests = 0 then 0
      else (genesis + blockCount requests : Nat)

namespace Control.OnTrack

variable {control : Control} {genesis : Nat}
  {requests : List TimedRequest}

theorem current_nonneg (onTrack : control.OnTrack genesis requests) :
    0 ≤ control.current := by
  rw [Int64.le_iff_toInt_le, onTrack.current]
  split
  · exact Int.le_refl 0
  · exact Int.natCast_nonneg _

/-- Other requests leave the track as it is. -/
theorem of_same_count
    {next : Control} {timed : TimedRequest}
    (onTrack : control.OnTrack genesis requests)
    (noBlock : timed.2.endBlockHeight? = none)
    (serving : next.serving = control.serving)
    (interval : next.interval = control.interval)
    (current : next.current = control.current) :
    next.OnTrack genesis (requests ++ [timed]) := by
  have count : blockCount (requests ++ [timed]) = blockCount requests := by
    rw [blockCount_concat, noBlock]
    rfl
  constructor
  · rw [serving, onTrack.serving]
  · rw [interval, onTrack.bottom]
  · rw [interval, onTrack.top, count]
  · rw [current, onTrack.current, count]

/-- The next height joins the interval at its top. -/
theorem endBlock
    (onTrack : control.OnTrack genesis requests) {now : Tai64}
    {height : Int64}
    (next : height.toInt = genesis + blockCount requests + 1)
    (small : genesis + blockCount requests + 1 < 2 ^ 32) :
    (control.request true (.endBlock height)).OnTrack genesis
      (requests ++ [(now, .endBlock height)]) := by
  have count :
      blockCount (requests ++ [(now, .endBlock height)]) =
        blockCount requests + 1 :=
    blockCount_concat requests (now, .endBlock height)
  have kept :
      ((BlockHeight.ofRequest height).toNat : Int) = height.toInt :=
    (BlockHeight.ofRequest_eq_iff height).mpr (by omega)
  have stored :
      (BlockHeight.ofRequest height).toNat =
        genesis + blockCount requests + 1 := by
    omega
  have bottom := onTrack.bottom
  have top := onTrack.top
  have admitted : control.Admits (BlockHeight.ofRequest height) := by
    unfold Control.Admits
    rw [stored, Interval.mem_iff]
    omega
  have entered :
      control.request true (.endBlock height) =
        { control with
          current := height
          interval :=
            control.interval.join (BlockHeight.ofRequest height).toNat } :=
    if_pos ⟨admitted, rfl⟩
  rw [entered]
  constructor
  · exact onTrack.serving
  · exact bottom
  · simp only [Interval.join, stored, count]
    omega
  · simp only [count, next]
    rw [if_neg (Nat.succ_ne_zero _)]
    omega

/-- One more request, with a favourable verdict. -/
theorem step
    (onTrack : control.OnTrack genesis requests) {timed : TimedRequest}
    (consecutive : Consecutive genesis (requests ++ [timed]))
    (small : genesis + blockCount (requests ++ [timed]) < 2 ^ 32) :
    (control.occur (.receive timed, true)).OnTrack genesis
      (requests ++ [timed]) := by
  obtain ⟨now, request⟩ := timed
  simp only [Control.occur, onTrack.serving, if_true]
  cases request with
  | info =>
      simp only [Control.request, if_pos onTrack.current_nonneg]
      exact onTrack.of_same_count rfl rfl rfl rfl
  | endBlock height =>
      have next := consecutive requests now height [] rfl
      have count :
          blockCount (requests ++ [(now, .endBlock height)]) =
            blockCount requests + 1 :=
        blockCount_concat requests (now, .endBlock height)
      exact onTrack.endBlock next (by omega)
  | _ => exact onTrack.of_same_count rfl rfl rfl rfl

end Control.OnTrack

/-- Nothing outside the application refuses: the pool takes each delivery that
is reached, and neither executor nor write fails at an EndBlock. -/
def Unhindered (F : FuelCore T) (executorFails : String → Bool)
    (start : World T) (requests : List TimedRequest) : Prop :=
  ∀ before timed after world,
    requests = before ++ timed :: after →
    Answered (serveRequest F) before start world →
      world.verdict F executorFails timed = true

variable {executorFails : String → Bool}
  {environment : Option String} {command : Command}

theorem Unhindered.nil {start : World T} :
    Unhindered F executorFails start [] := by
  intro before timed after world split _
  simp at split

theorem Unhindered.cons
    {timed : TimedRequest} {rest : List TimedRequest}
    {start next : World T} {answer : Response}
    (here : start.verdict F executorFails timed = true)
    (answered : serveRequest F timed start = .ok answer next)
    (later : Unhindered F executorFails next rest) :
    Unhindered F executorFails start (timed :: rest) := by
  intro before chosen after world split served
  cases before with
  | nil =>
      rw [answered_nil] at served
      obtain ⟨rfl, _⟩ := List.cons.inj split
      rw [served]
      exact here
  | cons first others =>
      obtain ⟨rfl, remaining⟩ := List.cons.inj split
      obtain ⟨answer', middle, stepped, tail⟩ := answered_cons.mp served
      rw [answered] at stepped
      cases stepped
      exact later others chosen after world remaining tail

section TwoDeliveredBlocks

open LocalTestnet

end TwoDeliveredBlocks

end Fuelmint
