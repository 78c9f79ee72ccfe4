import Fuelmint.BlockContents
import Fuelmint.CommittedState
import Fuelmint.Restart

/-!
# Two conversions of one height

EndBlock takes an `i64`.  The block is stored under its low 32 bits, and Info
reports it through the checked conversion to a Tendermint height.  This module
says for which heights the two agree.
-/

namespace Fuelmint

open Foundation

variable {T : Types} {F : FuelCore T}

/-- The block that the producer makes for an EndBlock is stored under this
number. -/
def StoredUnder (F : FuelCore T) (now : Tai64) (height : Int64)
    (world next : World T) (number : Nat) : Prop :=
  ∃ uncommitted, ∃ stored : BlockHeight,
    (world.production F now height).1 = .ok uncommitted ∧
      stored.toNat = number ∧
      next.database.getBlock stored = some uncommitted.dbTransaction.block

/-- Until the next EndBlock, every Info is answered and reports this
number. -/
def ReportedAs (F : FuelCore T) (world : World T) (number : Nat) : Prop :=
  ∀ later reached,
    (∀ timed ∈ later, timed.2.endBlockHeight? = none) →
    Answered (serveRequest F) later world reached →
      ReportsHeight F reached number

/-- An answered EndBlock stores and reports the number it was asked for. -/
def HeightKept (F : FuelCore T) (now : Tai64) (height : Int64)
    (world next : World T) : Prop :=
  ∃ number : Nat,
    (number : Int) = height.toInt ∧
      StoredUnder F now height world next number ∧
      ReportedAs F next number

/-- Every answered EndBlock of a run keeps its height. -/
def HeightsKept (F : FuelCore T) (start : World T)
    (requests : List TimedRequest) : Prop :=
  ∀ before now height after world answer next,
    requests = before ++ (now, .endBlock height) :: after →
    Answered (serveRequest F) before start world →
    App.call F now (.endBlock height) world = .ok answer next →
      HeightKept F now height world next

/-! ## One EndBlock -/

theorem reportedAs_of_currentState
    {world : World T} {number : Nat}
    (current : world.app.currentState.blockHeight.toInt = number) :
    ReportedAs F world number := by
  intro later reached silent served
  have unchanged : endedHeight
      world.app.currentState.blockHeight later =
        world.app.currentState.blockHeight := by
    have nothing :
        later.filterMap (fun timed => timed.2.endBlockHeight?) = [] :=
      List.filterMap_eq_nil_iff.mpr silent
    simp [endedHeight, lastEndBlockHeight?, nothing]
  have final := currentState_of_answered served
  rw [reportsHeight_iff, final, unchanged]
  exact current

/-- The block of an EndBlock is stored under the low 32 bits. -/
theorem Produced.storedUnder
    (heights : HeightLaws F) {now : Tai64} {height : Int64}
    {world : World T} (produced : Produced F now height world) :
    StoredUnder F now height world produced.outcome
      (BlockHeight.ofRequest height).toNat := by
  refine ⟨produced.uncommitted, BlockHeight.ofRequest height, ?_, rfl, ?_⟩
  · rw [produced.production_eq]
  · rw [produced.getBlock_outcome heights, if_pos rfl]
    rfl

/-- An answered EndBlock keeps its height exactly when the height is a
`u32`. -/
theorem Produced.heightKept_iff
    (heights : HeightLaws F) {now : Tai64} {height : Int64}
    {world : World T} (produced : Produced F now height world) :
    HeightKept F now height world produced.outcome ↔
      0 ≤ height.toInt ∧ height.toInt < 2 ^ 32 := by
  constructor
  · rintro ⟨number, exact, ⟨_, stored, _, underNumber, _⟩, _⟩
    have small : stored.toNat < 2 ^ 32 := stored.toNat_lt
    omega
  · intro inRange
    have exact := (BlockHeight.ofRequest_eq_iff height).mpr inRange
    refine ⟨_, exact, produced.storedUnder heights, ?_⟩
    apply reportedAs_of_currentState
    rw [exact]
    rfl

/-! ## Runs -/

/-- Storing and reporting agree on the heights of a run exactly when every
answered EndBlock of it carries a `u32`. -/
theorem heightsKept_iff
    (heights : HeightLaws F) (start : World T)
    (requests : List TimedRequest) :
    HeightsKept F start requests ↔
      ∀ before now height after world answer next,
        requests = before ++ (now, .endBlock height) :: after →
        Answered (serveRequest F) before start world →
        App.call F now (.endBlock height) world = .ok answer next →
          0 ≤ height.toInt ∧ height.toInt < 2 ^ 32 := by
  constructor
  · intro kept before now height after world answer next split served
      answered
    have here :=
      kept before now height after world answer next split served answered
    obtain ⟨produced, rfl⟩ := answered_endBlock answered
    exact (produced.heightKept_iff heights).mp here
  · intro inRange before now height after world answer next split served
      answered
    have here :=
      inRange before now height after world answer next split served
        answered
    obtain ⟨produced, rfl⟩ := answered_endBlock answered
    exact (produced.heightKept_iff heights).mpr here

section Wrapped

open LocalTestnet

/-- The first block above the 32-bit range, and the same low bits below
zero. -/
def wrappedHeights : List Int64 :=
  [4294967297, -4294967295]

/-- Both heights are answered and store block 1.  Info reports the first one
as it was asked for, and panics on the second one. -/
theorem heights_wrap :
    (∀ height ∈ wrappedHeights,
        ¬ HeightsKept core firstNode.world [(1, .endBlock height)] ∧
          (worldAfter [(1, .endBlock height)]).database.IsLatest 1) ∧
      ReportsHeight core (worldAfter [(1, .endBlock 4294967297)])
        4294967297 ∧
      App.call core 2 .info (worldAfter [(1, .endBlock (-4294967295))]) =
        .error .heightTryFrom
          (worldAfter [(1, .endBlock (-4294967295))]) := by
  refine ⟨?_, ?_, rfl⟩
  · intro height member
    simp only [wrappedHeights, List.mem_cons, List.not_mem_nil,
      or_false] at member
    rcases member with rfl | rfl
    · refine ⟨?_, by decide⟩
      intro kept
      obtain ⟨number, exact, ⟨_, stored, _, underNumber, _⟩, _⟩ :=
        kept [] 1 4294967297 [] _ _ _ rfl ⟨_, rfl⟩ rfl
      have small : stored.toNat < 2 ^ 32 := stored.toNat_lt
      have asked : (number : Int) = 4294967297 := exact
      omega
    · refine ⟨?_, by decide⟩
      intro kept
      obtain ⟨number, exact, _, _⟩ :=
        kept [] 1 (-4294967295) [] _ _ _ rfl ⟨_, rfl⟩ rfl
      have asked : (number : Int) = -4294967295 := exact
      omega
  · rw [reportsHeight_iff]
    rfl

theorem heightsKept_twoBlocks :
    HeightsKept core firstNode.world [(1, .endBlock 1), (2, .endBlock 2)] :=
  (heightsKept_iff core_heightLaws firstNode.world _).mpr (by
    intro before now height after world answer next split _ _
    have member :
        (now, Request.endBlock height) ∈
          ([(1, .endBlock 1), (2, .endBlock 2)] : List TimedRequest) := by
      rw [split]
      exact List.mem_append_right _ List.mem_cons_self
    simp only [List.mem_cons, List.not_mem_nil, or_false,
      Prod.mk.injEq, Request.endBlock.injEq] at member
    rcases member with ⟨_, rfl⟩ | ⟨_, rfl⟩
    · decide
    · decide)

end Wrapped

end Fuelmint
