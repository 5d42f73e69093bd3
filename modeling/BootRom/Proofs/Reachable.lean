import BootRom.Proofs.Chain

/-!
# The walks that going on leads to

A walk goes on from entry to entry. `Reaches` are the walks it becomes, each with the
address that it has come to: the start of the table, or one stride beyond the entry
that was found last. The address is a plain number. It may lie beyond the table, and
beyond the address space.

* `Reaches.exists_walkAt`: such a walk has moved on by some number of bytes, and its cursor
  is the one of that distance, whatever was saturated on the way.
* `outcome_next_eq_none_iff`, `outcome_next_eq_error_iff`, `outcome_next_eq_some_iff`: what such a
  walk does next is settled by what stands there.
* `next_of_stopped`: a walk that has found no further entry finds none later.
-/

namespace BootRom.Table

variable {t : Table} {a i : Nat} {w : Walk} {e : Entry} {cause : Error}

/-- A walk that goes on from entry to entry, and the address it has come to. -/
inductive Reaches (t : Table) : Nat → Walk → Prop
  /-- a fresh walk is at the start of the table -/
  | start : Reaches t t.start.toNat t.walk
  /-- an entry that is found takes the walk one stride beyond its address -/
  | onward {a : Nat} {w w' : Walk} {trail : List Event} {e : Entry} (before : Reaches t a w)
    (found : t.next w = (⟨trail, .ok (some e)⟩, w')) :
    Reaches t (e.address.toNat + t.stride e.record) w'

/-! ## The next step, from its outcome -/

/-- A walk ends well exactly where no magic stands. -/
theorem outcome_next_eq_none_iff (sound : t.Sound) :
    (t.next (t.walkAt i)).1.outcome = .ok none ↔ ¬ t.MarkedAt i := by
  rcases chain_cases sound i with unmarked | ⟨cause, corrupt⟩ | ⟨e, here⟩
  · rw [next_of_unmarked sound unmarked]
    exact ⟨fun _ => unmarked, fun _ => rfl⟩
  · rw [next_of_corrupt sound corrupt]
    exact ⟨nofun, fun unmarked => absurd corrupt.marked unmarked⟩
  · rw [next_of_entry sound here]
    exact ⟨nofun, fun unmarked => absurd here.marked unmarked⟩

/-- A walk fails exactly where a record cannot be read, and for that reason. -/
theorem outcome_next_eq_error_iff (sound : t.Sound) :
    (t.next (t.walkAt i)).1.outcome = .error cause ↔ t.CorruptAt i cause := by
  refine ⟨fun failed => ?_, fun corrupt => by rw [next_of_corrupt sound corrupt]⟩
  rcases chain_cases sound i with unmarked | ⟨cause', corrupt⟩ | ⟨e, here⟩
  · rw [next_of_unmarked sound unmarked] at failed
    cases failed
  · rw [next_of_corrupt sound corrupt] at failed
    obtain rfl := Except.error.inj failed
    exact corrupt
  · rw [next_of_entry sound here] at failed
    cases failed

/-- A walk finds an entry exactly where one can be read, and finds that one. -/
theorem outcome_next_eq_some_iff (sound : t.Sound) :
    (t.next (t.walkAt i)).1.outcome = .ok (some e) ↔ t.EntryAt i e := by
  refine ⟨fun found => ?_, fun here => by rw [next_of_entry sound here]⟩
  rcases chain_cases sound i with unmarked | ⟨cause, corrupt⟩ | ⟨e', here⟩
  · rw [next_of_unmarked sound unmarked] at found
    cases found
  · rw [next_of_corrupt sound corrupt] at found
    cases found
  · rw [next_of_entry sound here] at found
    obtain rfl := Option.some.inj (Except.ok.inj found)
    exact here

/-! ## Walks on their way -/

/-- A walk that is reached has moved on by the distance to its address. The induction is on the
entries that were found; each is at the address that the walk had come to. -/
theorem Reaches.exists_walkAt (sound : t.Sound) (reached : t.Reaches a w) :
    ∃ i, a = t.start.toNat + i ∧ w = t.walkAt i := by
  induction reached with
  | start => exact ⟨0, rfl, by rw [walk, walkAt, cursorAt_zero]⟩
  | @onward a w w' trail e before found ih =>
    obtain ⟨i, -, rfl⟩ := ih
    have here : t.EntryAt i e := (outcome_next_eq_some_iff sound).mp (by rw [found])
    rw [next_of_entry sound here] at found
    obtain ⟨-, rfl⟩ := Prod.mk.inj found
    exact ⟨i + t.stride e.record, by rw [here.address_eq, Nat.add_assoc], rfl⟩

/-- A walk that did not find an entry has ended, and stays as it is. -/
theorem next_of_stopped (stopped : ∀ e, (t.next w).1.outcome ≠ .ok (some e)) :
    t.next (t.next w).2 = (pure none, (t.next w).2) := by
  have ended : (t.next w).2.ended = true := by
    rw [next] at stopped ⊢
    split
    · assumption
    · rename_i going
      rw [if_neg going] at stopped
      dsimp only at stopped ⊢
      split
      · rename_i e cursor found
        rw [found] at stopped
        exact absurd rfl (stopped e)
      · rfl
      · rfl
  rw [next, if_pos ended]

end BootRom.Table
