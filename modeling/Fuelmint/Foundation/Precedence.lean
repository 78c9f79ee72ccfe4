import Mathlib.Data.List.Basic
import Mathlib.Data.List.Pairwise

/-!
# Precedence in a list

One item comes before another when the two, in this order, are a subsequence.
Items that occur once are ordered one way and not the other, so their order
can be found in any part of the list that has both.
-/

namespace Foundation

variable {Item : Type}

def ComesBefore (first second : Item) (items : List Item) : Prop :=
  [first, second].Sublist items

instance [DecidableEq Item] (first second : Item) (items : List Item) :
    Decidable (ComesBefore first second items) :=
  inferInstanceAs (Decidable ([first, second].Sublist items))

namespace ComesBefore

variable {first second : Item} {items others : List Item}

theorem mono
    (order : ComesBefore first second items)
    (inside : items.Sublist others) :
    ComesBefore first second others :=
  List.Sublist.trans order inside

theorem left_mem (order : ComesBefore first second items) :
    first ∈ items :=
  order.subset List.mem_cons_self

theorem right_mem (order : ComesBefore first second items) :
    second ∈ items :=
  order.subset (List.mem_cons_of_mem _ List.mem_cons_self)

theorem cons_iff {head : Item} {tail : List Item} :
    ComesBefore first second (head :: tail) ↔
      (first = head ∧ second ∈ tail) ∨ ComesBefore first second tail := by
  unfold ComesBefore
  rw [List.cons_sublist_cons', List.singleton_sublist, or_comm]

theorem of_append
    (left : first ∈ items) (right : second ∈ others) :
    ComesBefore first second (items ++ others) :=
  List.Sublist.append
    (List.singleton_sublist.mpr left) (List.singleton_sublist.mpr right)

/-- What comes before an item of the first part is in the first part. -/
theorem mem_of_not_mem_right
    (order : ComesBefore first second (items ++ others))
    (absent : second ∉ others) :
    first ∈ items := by
  obtain ⟨front, back, split, inFront, inBack⟩ :=
    List.sublist_append_iff.mp order
  cases back with
  | nil =>
      rw [List.append_nil] at split
      rw [← split] at inFront
      exact left_mem inFront
  | cons head tail =>
      have last : second ∈ head :: tail := by
        have whole : second ∈ [first, second].getLast? := by
          simp
        rw [split, List.getLast?_append_of_ne_nil _ (by simp)] at whole
        exact List.mem_of_mem_getLast? whole
      exact absurd (inBack.subset last) absent

theorem or_reversed
    (different : first ≠ second)
    (left : first ∈ items) (right : second ∈ items) :
    ComesBefore first second items ∨ ComesBefore second first items := by
  obtain ⟨front, back, split⟩ := List.append_of_mem left
  rw [split, List.mem_append, List.mem_cons] at right
  rw [split]
  rcases right with earlier | same | later
  · exact Or.inr (of_append earlier List.mem_cons_self)
  · exact absurd same.symm different
  · left
    have here : ComesBefore first second (first :: back) :=
      List.Sublist.cons_cons first (List.singleton_sublist.mpr later)
    exact here.mono (List.sublist_append_right front _)

theorem rel
    {Rel : Item → Item → Prop}
    (order : ComesBefore first second items)
    (pairwise : items.Pairwise Rel) :
    Rel first second :=
  List.rel_of_pairwise_cons (pairwise.sublist order) List.mem_cons_self

variable [DecidableEq Item]

theorem ne_of_once
    (once : items.count first ≤ 1)
    (order : ComesBefore first second items) :
    first ≠ second := by
  intro same
  subst same
  have twice := List.Sublist.count_le first order
  rw [List.count_cons_self, List.count_cons_self] at twice
  omega

/-- What comes before an item that the first part has, and that occurs once,
is in the first part. -/
theorem left_mem_of_once
    (once : (items ++ others).count second ≤ 1)
    (order : ComesBefore first second (items ++ others))
    (early : second ∈ items) :
    first ∈ items := by
  have positive := List.count_pos_iff.mpr early
  rw [List.count_append] at once
  have absent : others.count second = 0 := by
    omega
  exact order.mem_of_not_mem_right (List.count_eq_zero.mp absent)

/-- Two items that occur at most once are not ordered both ways. -/
theorem not_reversed
    (onceFirst : items.count first ≤ 1)
    (onceSecond : items.count second ≤ 1)
    (order : ComesBefore first second items) :
    ¬ ComesBefore second first items := by
  induction items with
  | nil =>
      exact absurd order.left_mem List.not_mem_nil
  | cons head tail inductionHypothesis =>
      intro reversed
      rcases cons_iff.mp order with ⟨atFirst, _⟩ | inTail
      · subst atFirst
        have again : first ∈ tail := by
          rcases cons_iff.mp reversed with ⟨_, inside⟩ | inside
          · exact inside
          · exact inside.right_mem
        have positive := List.count_pos_iff.mpr again
        rw [List.count_cons_self] at onceFirst
        omega
      · rcases cons_iff.mp reversed with ⟨atSecond, _⟩ | reversedInTail
        · subst atSecond
          have positive := List.count_pos_iff.mpr inTail.right_mem
          rw [List.count_cons_self] at onceSecond
          omega
        · have shorter := List.sublist_cons_self head tail
          have firstInTail := shorter.count_le first
          have secondInTail := shorter.count_le second
          exact inductionHypothesis (by omega) (by omega) inTail
            reversedInTail

/-- A part of the list that has both items has them in the same order. -/
theorem restrict
    (onceFirst : others.count first ≤ 1)
    (onceSecond : others.count second ≤ 1)
    (different : first ≠ second)
    (order : ComesBefore first second others)
    (inside : items.Sublist others)
    (left : first ∈ items) (right : second ∈ items) :
    ComesBefore first second items := by
  rcases or_reversed different left right with here | reversed
  · exact here
  · exact absurd (reversed.mono inside)
      (not_reversed onceFirst onceSecond order)

end ComesBefore

end Foundation
