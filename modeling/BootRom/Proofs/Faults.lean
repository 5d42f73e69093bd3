import BootRom.Output.Scripted
import BootRom.Proofs.Scripts

/-!
# Runs on writers that fail

A writer may take its offers in pieces, take nothing, or fail, at any call. What a
run does then is compared with what it does on a writer that never fails, and
`run_under_faults` is the comparison: no byte is lost, repeated or put out of
order, and no failure is passed over.

* `Conclusive` are the outcomes of a run that came to its conclusion, and
  `script_closes_or_breaks` ties them to the shape of its script: a run has
  its output passed on exactly if it comes to its conclusion.
* `run_cases` are the three ways in which a run goes on a writer of which nothing is known.
-/

namespace BootRom

open Output

/-! ## Two shapes of script -/

/-- That a run came to its conclusion: it ended well, or all that it lacked was its target. -/
def Conclusive : Except Error Summary → Prop
  | .ok _ => True
  | .error (.targetNotFound _) => True
  | .error _ => False

theorem Selection.conclusive_withoutTarget (s : Selection) (done : Summary) :
    Conclusive (s.withoutTarget none done) := by
  rcases asked : s.read with _ | target
  · simp only [withoutTarget, asked, Conclusive]
  · simp only [withoutTarget, asked, Conclusive]

namespace Table

variable {t : Table} {i : Nat} {es : List Entry} {ending : Option Error} {cause : Error}

/-- A walk does not end for want of a target. -/
theorem CorruptAt.not_conclusive (corrupt : t.CorruptAt i cause) :
    ¬ Conclusive (.error cause) := by
  cases corrupt <;> exact id

theorem Chain.not_conclusive (chain : t.Chain i es ending) :
    ∀ cause, ending = some cause → ¬ Conclusive (.error cause) := by
  induction chain with
  | finished unmarked => exact fun cause none => (nomatch none)
  | failed corrupt => exact fun cause same => Option.some.inj same ▸ corrupt.not_conclusive
  | entry here beyond ih => exact ih

/-- Every script ends with its one flush, or it breaks off and has none; which of the two, its
outcome says. A script that breaks off has written names and nothing else. -/
theorem script_closes_or_breaks (opened : t.Opened) (s : Selection) :
    ((t.script s).Closes (t.script s).output ∧ Conclusive (t.script s).outcome) ∨
      ((t.script s).Breaks (t.script s).output ∧ ¬ Conclusive (t.script s).outcome ∧
        ∃ met, (t.script s).output = s.lines met) := by
  rcases s.first_wanted t.course.entries with
    ⟨before, e, after, found, unwanted, wanted⟩ | unwanted
  · have mem : e ∈ t.course.entries := by
      rw [found]
      exact List.mem_append_right _ List.mem_cons_self
    obtain ⟨-, read, refused⟩ := opened.sound.payload_cases mem
    -- the payload is the only thing that can still stop such a run
    rcases Nat.lt_or_ge t.limit.toNat
        (e.address.toNat + e.record.offset.toNat + e.record.len.toNat) with outside | inside
    · obtain ⟨breaks, ends⟩ := script_refuses found unwanted wanted (refused outside)
      refine .inr ⟨breaks.2 ▸ breaks, ?_, before ++ [e], breaks.2⟩
      rw [ends]
      exact id
    · obtain ⟨closes, ends⟩ := script_extracts found unwanted wanted (read inside)
      refine .inl ⟨closes.output_eq ▸ closes, ?_⟩
      rw [ends]
      trivial
  · rcases cause_eq : t.course.cause with _ | cause
    · obtain ⟨closes, ends⟩ := script_finishes unwanted cause_eq
      refine .inl ⟨closes.output_eq ▸ closes, ?_⟩
      rw [ends]
      exact s.conclusive_withoutTarget _
    · obtain ⟨breaks, ends⟩ := script_fails unwanted cause_eq
      refine .inr ⟨breaks.2 ▸ breaks, ?_, t.course.entries, breaks.2⟩
      rw [ends]
      exact (chain_course opened.sound).not_conclusive cause cause_eq

/-! ## Runs -/

section Run

variable {σ τ : Type} [Writer σ] [Writer τ]

/-- The three ways in which a run goes, whatever its writer does: an offer is refused, or all of the
output is taken and flushed, or all of it is taken and the run breaks off. -/
theorem run_cases (opened : t.Opened) (s : Selection) (w : σ) :
    (∃ fault, Conveys (t.run s w).calls (some fault) (t.script s).output ∧
      (t.run s w).outcome = .error (.writeFailure fault)) ∨
    (Conclusive (t.script s).outcome ∧
      ∃ offers answer, Conveys offers none (t.script s).output ∧
        (t.run s w).calls = offers ++ [.flush answer] ∧
        (t.run s w).outcome =
          match answer with
          | .ok () => (t.script s).outcome
          | .error fault => .error (.writeFailure fault)) ∨
    (¬ Conclusive (t.script s).outcome ∧
      Conveys (t.run s w).calls none (t.script s).output ∧
      (t.run s w).outcome = (t.script s).outcome) := by
  rcases script_closes_or_breaks opened s with ⟨closes, conclusive⟩ | ⟨breaks, inconclusive, -⟩
  · rcases closes.perform w with through | refused
    · exact .inr (.inl ⟨conclusive, through⟩)
    · exact .inl refused
  · rcases breaks.perform w with through | refused
    · exact .inr (.inr ⟨inconclusive, through⟩)
    · exact .inl refused

/-- **Nothing is lost, and no failure is passed over.** A run on any writer `w` is compared with the
same run on a writer `v` that never fails. The calls of the run are its conversation with `w`. What
`w` accepts in it is a first part of what `v` accepts, and:

* an offer that `w` refuses is the last thing said to it, nothing is flushed, some of the output is
  missing, and the run fails with the writer's fault;
* if `w` refuses no offer, it gets all of the output. A run that comes to its conclusion then
  flushes once, after the last offer, and ends as it would on `v` unless the flush fails; any other
  run does not flush, and ends as it would on `v`. -/
theorem run_under_faults (opened : t.Opened) (s : Selection) {v : τ} (unfailing : Unfailing v)
    (w : σ) :
    Converses w (t.run s w).calls (t.run s w).writer ∧
    accepted (t.run s w).calls <+: accepted (t.run s v).calls ∧
    (∀ call ∈ (t.run s w).calls, ∀ fault, call.refusal = some fault →
      (∃ earlier, (t.run s w).calls = earlier ++ [call] ∧ ∀ c ∈ earlier, c.refusal = none) ∧
      (∀ c ∈ (t.run s w).calls, ¬ c.IsFlush) ∧
      accepted (t.run s w).calls ≠ accepted (t.run s v).calls ∧
      (t.run s w).outcome = .error (.writeFailure fault)) ∧
    ((∀ call ∈ (t.run s w).calls, call.refusal = none) →
      accepted (t.run s w).calls = accepted (t.run s v).calls ∧
      (Conclusive (t.run s v).outcome →
        ∃ offers answer, (t.run s w).calls = offers ++ [.flush answer] ∧
          (∀ c ∈ offers, ¬ c.IsFlush) ∧
          (t.run s w).outcome =
            match answer with
            | .ok () => (t.run s v).outcome
            | .error fault => .error (.writeFailure fault)) ∧
      (¬ Conclusive (t.run s v).outcome →
        (∀ c ∈ (t.run s w).calls, ¬ c.IsFlush) ∧
          (t.run s w).outcome = (t.run s v).outcome)) := by
  refine ⟨play_converses w (t.script s).trail, ?_⟩
  obtain ⟨outcome_eq, output_eq⟩ := Script.perform_of_unfailing unfailing (t.script s)
  rw [show (t.run s v).outcome = _ from outcome_eq,
    show accepted (t.run s v).calls = _ from output_eq]
  rcases run_cases opened s w with ⟨fault, conveyed, failed⟩ |
    ⟨conclusive, offers, answer, conveyed, calls_eq, ended⟩ | ⟨inconclusive, conveyed, ended⟩
  · -- refused: the last call says so, and it is the only one
    obtain ⟨⟨earlier, last, calls_eq, -, -, refused⟩, part, proper⟩ := conveyed.of_some
    refine ⟨part, fun call found fault' refused' => ?_, fun none_refused => ?_⟩
    · obtain ⟨rfl, last_said⟩ := conveyed.of_refused found refused'
      exact ⟨last_said, conveyed.no_flush, proper, failed⟩
    · have unrefused := none_refused last (by rw [calls_eq]; simp)
      rw [unrefused] at refused
      cases refused
  · -- concluded: the flush is the only call that is not an offer, and it comes last
    obtain ⟨taken, all⟩ := conveyed.of_none
    have all' : accepted (t.run s w).calls = (t.script s).output := by
      rw [calls_eq, accepted_append, all]
      exact List.append_nil _
    refine ⟨all' ▸ List.prefix_rfl, fun call found fault refused => ?_, fun _ => ⟨all', ?_, ?_⟩⟩
    · rw [calls_eq] at found
      rcases List.mem_append.mp found with found | found
      · rw [(taken call found).2] at refused
        cases refused
      · rw [List.mem_singleton.mp found] at refused
        cases refused
    · exact fun _ => ⟨offers, answer, calls_eq, conveyed.no_flush, ended⟩
    · exact fun inconclusive => absurd conclusive inconclusive
  · -- broken off: there is no flush at all
    obtain ⟨taken, all⟩ := conveyed.of_none
    refine ⟨all ▸ List.prefix_rfl, fun call found fault refused => ?_, fun _ => ⟨all, ?_, ?_⟩⟩
    · rw [(taken call found).2] at refused
      cases refused
    · exact fun conclusive => absurd conclusive inconclusive
    · exact fun _ => ⟨conveyed.no_flush, ended⟩

/-- A writer that takes two offers and then finds its pipe broken. -/
def breakingPipe : ScriptedWriter := ⟨[.take 1, .take 1, .refuse (.plain .brokenPipe)], [], none⟩

/-- Listing the small table and extracting its second file into a pipe that breaks after the first
name. -/
theorem run_smallTable_breakingPipe :
    smallTable.Opened ∧ Unfailing (⟨[], [], some 2⟩ : ScriptedWriter) ∧
      (∃ call ∈ (smallTable.run ⟨true, some "b", none⟩ breakingPipe).calls,
        call.refusal = some (.plain .brokenPipe)) ∧
      accepted (smallTable.run ⟨true, some "b", none⟩ breakingPipe).calls = [0x61, newline] ∧
      (smallTable.run ⟨true, some "b", none⟩ breakingPipe).outcome =
        .error (.writeFailure (.plain .brokenPipe)) := by
  have some_refused : ∃ call ∈ (smallTable.run ⟨true, some "b", none⟩ breakingPipe).calls,
      call.refusal = some (.plain .brokenPipe) := by
    decide +kernel
  obtain ⟨call, found, refused⟩ := some_refused
  obtain ⟨-, -, -, failed⟩ :=
    (run_under_faults opened_smallTable ⟨true, some "b", none⟩ unfailing_twoByTwo breakingPipe).2.2.1
      call found _ refused
  exact ⟨opened_smallTable, unfailing_twoByTwo, ⟨call, found, refused⟩, by decide +kernel, failed⟩

end Run

end Table

end BootRom
