import Mathlib.Data.List.Basic

/-!
# Stores and the log of their writes

A store that is written key by key holds, under each key, the last value that
was written there, or what it held before all of the writes.
-/

namespace Foundation

variable {Store Write Key Value : Type} [DecidableEq Key]

/-- A write puts its value under its key and touches no other key. -/
structure WriteLaws (write : Store → Write → Store)
    (read : Store → Key → Option Value) (key : Write → Key)
    (value : Write → Value) : Prop where
  read_write :
    ∀ store item wanted,
      read (write store item) wanted =
        if wanted = key item then some (value item) else read store wanted

/-- The value of the last write under a key. -/
def lastWrite (key : Write → Key) (value : Write → Value) :
    List Write → Key → Option Value
  | [], _ => none
  | item :: later, wanted =>
      (lastWrite key value later wanted).or
        (if wanted = key item then some (value item) else none)

section LastWrite

variable {key : Write → Key} {value : Write → Value}

@[simp]
theorem lastWrite_nil (wanted : Key) :
    lastWrite key value [] wanted = none := rfl

theorem lastWrite_cons (item : Write) (later : List Write) (wanted : Key) :
    lastWrite key value (item :: later) wanted =
      (lastWrite key value later wanted).or
        (if wanted = key item then some (value item) else none) := rfl

/-- A key that is written has a last write. -/
theorem isSome_lastWrite
    {log : List Write} {item : Write} (written : item ∈ log) :
    (lastWrite key value log (key item)).isSome := by
  induction log with
  | nil =>
      cases written
  | cons first later inductionHypothesis =>
      rw [lastWrite_cons, Option.isSome_or]
      rcases List.mem_cons.mp written with rfl | after
      · simp
      · simp [inductionHypothesis after]

/-- A last write is one of the log, under its own key. -/
theorem exists_of_lastWrite
    {log : List Write} {wanted : Key} {found : Value}
    (last : lastWrite key value log wanted = some found) :
    ∃ item ∈ log, key item = wanted ∧ value item = found := by
  induction log with
  | nil =>
      cases last
  | cons first later inductionHypothesis =>
      rw [lastWrite_cons, Option.or_eq_some_iff] at last
      rcases last with after | ⟨_, here⟩
      · obtain ⟨item, member, facts⟩ := inductionHypothesis after
        exact ⟨item, List.mem_cons_of_mem _ member, facts⟩
      · by_cases same : wanted = key first
        · rw [if_pos same] at here
          cases here
          exact ⟨first, List.mem_cons_self, same.symm, rfl⟩
        · rw [if_neg same] at here
          cases here

end LastWrite

/-- After all the writes of a log, a store holds the last one of each key. -/
theorem WriteLaws.read_foldl
    {write : Store → Write → Store} {read : Store → Key → Option Value}
    {key : Write → Key} {value : Write → Value}
    (laws : WriteLaws write read key value) (log : List Write)
    (store : Store) (wanted : Key) :
    read (log.foldl write store) wanted =
      (lastWrite key value log wanted).or (read store wanted) := by
  induction log generalizing store with
  | nil =>
      rfl
  | cons item later inductionHypothesis =>
      rw [List.foldl_cons, inductionHypothesis, laws.read_write,
        lastWrite_cons, Option.or_assoc]
      by_cases same : wanted = key item
      · rw [if_pos same, if_pos same, Option.some_or]
      · rw [if_neg same, if_neg same, Option.none_or]

end Foundation
