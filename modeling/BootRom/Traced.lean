import BootRom.Error

/-!
# Traced outcomes

Reading a ROM answers or fails, and on the way it leaves a trail: events that
were reported, or output that was asked for. `Traced ι α` keeps the two
together: a `trail` of items of type `ι`, in order, and an `outcome`.

* `Traced.bind` runs on only from an answer, and lays the second trail after
  the first; the items before a failure are kept.
* `bind_of_ok` and `bind_of_error` say so; `outcome_bind_eq_ok` inverts a
  sequence.
* `outcome_iff_of_settled` inverts rules that fix the outcome.
* `outcome_bind_map` compares the ends of two sequences that differ in what
  their answers and errors are called; `outcome_bind_of_mapError` and
  `outcome_bind_mapError` are the cases where answers keep their names.
-/

namespace BootRom

/-- An outcome, with the items that led up to it. -/
structure Traced (ι α : Type) where
  /-- what happened, in order -/
  trail : List ι
  /-- how it ended -/
  outcome : Except Error α

namespace Traced

variable {ι α β : Type}

/-! ## Sequencing -/

/-- Answer at once, with nothing to report. -/
protected def pure (a : α) : Traced ι α := ⟨[], .ok a⟩

/-- Go on from an answer, adding to the trail; stay with a failure. -/
protected def bind (x : Traced ι α) (f : α → Traced ι β) : Traced ι β :=
  match x.outcome with
  | .ok a => let y := f a; ⟨x.trail ++ y.trail, y.outcome⟩
  | .error e => ⟨x.trail, .error e⟩

instance : Monad (Traced ι) where
  pure := Traced.pure
  bind := Traced.bind

/-- Leave one item. -/
def log (item : ι) : Traced ι Unit := ⟨[item], .ok ()⟩

/-- Leave several items. -/
def logAll (items : List ι) : Traced ι Unit := ⟨items, .ok ()⟩

/-- End as a computation without reports ends. -/
def ofExcept (outcome : Except Error α) : Traced ι α := ⟨[], outcome⟩

/-- Fail. -/
def fail (e : Error) : Traced ι α := ⟨[], .error e⟩

/-! ## What a sequence leaves -/

theorem ext {x y : Traced ι α} (trails : x.trail = y.trail) (outcomes : x.outcome = y.outcome) :
    x = y := by
  cases x; cases y
  subst trails; subst outcomes
  rfl

@[simp] theorem trail_pure (a : α) : (pure a : Traced ι α).trail = [] := rfl

@[simp] theorem outcome_pure (a : α) : (pure a : Traced ι α).outcome = .ok a := rfl

@[simp] theorem trail_log (item : ι) : (log item).trail = [item] := rfl

@[simp] theorem outcome_log (item : ι) : (log item).outcome = .ok () := rfl

@[simp] theorem trail_logAll (items : List ι) : (logAll items).trail = items := rfl

@[simp] theorem outcome_logAll (items : List ι) : (logAll items).outcome = .ok () := rfl

@[simp] theorem trail_ofExcept (o : Except Error α) : (ofExcept o : Traced ι α).trail = [] := rfl

@[simp] theorem outcome_ofExcept (o : Except Error α) :
    (ofExcept o : Traced ι α).outcome = o := rfl

@[simp] theorem trail_fail (e : Error) : (fail e : Traced ι α).trail = [] := rfl

@[simp] theorem outcome_fail (e : Error) : (fail e : Traced ι α).outcome = .error e := rfl

/-- After an answer, the second trail follows the first. -/
theorem bind_of_ok {x : Traced ι α} {a : α} (h : x.outcome = .ok a) (f : α → Traced ι β) :
    x >>= f = ⟨x.trail ++ (f a).trail, (f a).outcome⟩ := by
  change Traced.bind x f = _
  simp [Traced.bind, h]

/-- After a failure, nothing follows. -/
theorem bind_of_error {x : Traced ι α} {e : Error} (h : x.outcome = .error e)
    (f : α → Traced ι β) : x >>= f = ⟨x.trail, .error e⟩ := by
  change Traced.bind x f = _
  simp [Traced.bind, h]

@[simp] theorem pure_bind (a : α) (f : α → Traced ι β) : (pure a : Traced ι α) >>= f = f a := rfl

@[simp] theorem log_bind (item : ι) (f : Unit → Traced ι β) :
    log item >>= f = ⟨item :: (f ()).trail, (f ()).outcome⟩ := rfl

@[simp] theorem fail_bind (e : Error) (f : α → Traced ι β) :
    (fail e : Traced ι α) >>= f = fail e := rfl

@[simp] theorem ofExcept_ok_bind (a : α) (f : α → Traced ι β) :
    (ofExcept (.ok a) : Traced ι α) >>= f = f a := rfl

@[simp] theorem ofExcept_error_bind (e : Error) (f : α → Traced ι β) :
    (ofExcept (.error e) : Traced ι α) >>= f = fail e := rfl

/-- How a sequence ends depends only on how its parts end. -/
theorem outcome_bind (x : Traced ι α) (f : α → Traced ι β) :
    (x >>= f).outcome = x.outcome >>= fun a => (f a).outcome := by
  rcases h : x.outcome with e | a
  · rw [bind_of_error h]
    rfl
  · rw [bind_of_ok h]
    rfl

/-- A sequence answers exactly when its first part does and its second part does from there. -/
theorem outcome_bind_eq_ok {x : Traced ι α} {f : α → Traced ι β} {b : β} :
    (x >>= f).outcome = .ok b ↔ ∃ a, x.outcome = .ok a ∧ (f a).outcome = .ok b := by
  rcases h : x.outcome with e | a
  · rw [bind_of_error h]
    simp
  · rw [bind_of_ok h]
    simp

/-- Two sequences end alike, up to what their answers and errors are called, if their first parts do
and their second parts do from there. -/
theorem outcome_bind_map {κ γ δ : Type} {x : Traced ι α} {y : Traced κ γ} {f : α → Traced ι β}
    {g : γ → Traced κ δ} {onError : Error → Error} {first : α → γ} {second : β → δ}
    (begun : y.outcome = (x.outcome.mapError onError).map first)
    (continued : ∀ a, x.outcome = .ok a →
      (g (first a)).outcome = ((f a).outcome.mapError onError).map second) :
    (y >>= g).outcome = ((x >>= f).outcome.mapError onError).map second := by
  rcases ended : x.outcome with e | a
  · rw [ended] at begun
    rw [bind_of_error ended, bind_of_error begun]
    rfl
  · rw [ended] at begun
    rw [bind_of_ok ended, bind_of_ok begun]
    exact continued a ended

/-- From the same answers on, it is enough that the second parts are called differently. -/
theorem outcome_bind_of_mapError {κ δ : Type} {x : Traced ι α} {y : Traced κ α}
    {f : α → Traced ι β} {g : α → Traced κ δ} {onError : Error → Error} {second : β → δ}
    (begun : y.outcome = x.outcome.mapError onError)
    (continued : ∀ a, x.outcome = .ok a →
      (g a).outcome = ((f a).outcome.mapError onError).map second) :
    (y >>= g).outcome = ((x >>= f).outcome.mapError onError).map second :=
  outcome_bind_map (begun.trans (congrFun Except.map_id _).symm) continued

/-- Two sequences end alike, up to what their errors are called, if their parts do. -/
theorem outcome_bind_mapError {κ : Type} {x : Traced ι α} {y : Traced κ α} {f : α → Traced ι β}
    {g : α → Traced κ β} {onError : Error → Error}
    (begun : y.outcome = x.outcome.mapError onError)
    (continued : ∀ a, x.outcome = .ok a → (g a).outcome = (f a).outcome.mapError onError) :
    (y >>= g).outcome = (x >>= f).outcome.mapError onError := by
  have unmapped : ∀ o : Except Error β, o.map id = o := congrFun Except.map_id
  have mapped : (y >>= g).outcome = ((x >>= f).outcome.mapError onError).map id := by
    apply outcome_bind_of_mapError begun
    intro a answered
    rw [unmapped]
    exact continued a answered
  rw [mapped, unmapped]

/-! ## Outcomes that are settled by rules -/

/-- Rules for answers and rules for errors that each fix an outcome, and of which one always
applies, say exactly what the outcome is. -/
theorem outcome_iff_of_settled {ε : Type} {outcome : Except ε α} {Answer : α → Prop}
    {Cause : ε → Prop} (settled : (∃ a, Answer a) ∨ ∃ e, Cause e)
    (answers : ∀ a, Answer a → outcome = .ok a) (fails : ∀ e, Cause e → outcome = .error e) :
    (∀ a, outcome = .ok a ↔ Answer a) ∧ ∀ e, outcome = .error e ↔ Cause e := by
  constructor
  · refine fun a => ⟨fun answered => ?_, answers a⟩
    rcases settled with ⟨b, good⟩ | ⟨e, bad⟩
    · obtain rfl := Except.ok.inj (answered.symm.trans (answers b good))
      exact good
    · exact nomatch answered.symm.trans (fails e bad)
  · refine fun e => ⟨fun failed => ?_, fails e⟩
    rcases settled with ⟨b, good⟩ | ⟨e', bad⟩
    · exact nomatch failed.symm.trans (answers b good)
    · obtain rfl := Except.error.inj (failed.symm.trans (fails e' bad))
      exact bad

end Traced

end BootRom
