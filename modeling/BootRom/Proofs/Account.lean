import BootRom.Command.LogFilter
import BootRom.Proofs.Grammar
import BootRom.Proofs.Progress
import BootRom.Proofs.Reports

/-!
# What a walk reports is what it does

A walk reports where it looks for records, what it reads there and how it goes on. These reports can
be relied on, also where addresses are cut off at the end of the address space and where the walk
ends at a record that is only partly there. So can the lines of the log, which are written out here.

* `Account` is the account of an entry, with the numbers that are to be seen in it and the lines that
  show them, and `Sound.account_block` says that the walk gives it.
* `Attempt` is the account of the last place that is tried, for each way in which a walk can end
  there. `attempt_of_unmarked` and `attempt_of_corrupt` say that the walk gives this one.
* `Chain.calls` goes along a chain, call by call: each call finds the next entry and reports its
  account, and then the walk stands where the chain ends. `Chain.last_call` is the call made there.

`course_account` puts this together for the walk of an open table, by the number of the call.
-/

namespace BootRom.Table

open Format Memory

variable {t : Table} {i n : Nat} {e : Entry} {cause : Error} {ending : Option Error}
  {es : List Entry} {c : Cursor}

/-! ## The accounts -/

/-- The account of an entry from which the walk goes on to an address: what is reported of it, and
what is logged of that. -/
structure Account (t : Table) (e : Entry) (next : UInt64) (events : List Event)
    (lines : List (Level × String)) : Prop where
  /-- the next address is a stride away, or the last one of the space -/
  next_eq : next.toNat = min (e.address.toNat + t.stride e.record) 0xffffffffffffffff
  /-- the reports lead from the place to the next address -/
  events_eq : ∃ extent distance : UInt64,
    extent.toNat = e.record.offset.toNat + e.record.len.toNat ∧
    distance.toNat = t.stride e.record ∧
    events = [.candidate e.address, .recordMagic e.record.magic, .recordLength e.record.len,
      .recordType e.record.fileType, .recordAttributes e.record.attributesOffset,
      .recordOffset e.record.offset, .recordName e.name, .recordExtent extent, .alignment t.align,
      .stride distance, .nextCandidate next]
  /-- a name that is text is shown as this text -/
  name_shown : ∀ text, Text.encode text = e.name.bytes → e.name.display = text
  /-- the lines say the same -/
  lines_eq : lines = placeLine e.address :: magicLine "LARCHIVE" :: headerLines e.record ++
    (.debug, "File name              : '" ++ e.name.display ++ "'") ::
      onwardLines (e.record.offset.toNat + e.record.len.toNat) t.align.toNat (t.stride e.record)
        next.toNat

/-- The account of an address where a walk ends, with what is logged: how it ends is settled by what
stands there, and by how much is left below the limit. -/
inductive Attempt (t : Table) (c : UInt64) : List Event → List (Level × String) → Prop
  /-- the address is not below the limit, and nothing is tried -/
  | beyond (beyond : t.limit ≤ c) : t.Attempt c [] []
  /-- fewer bytes are left than a magic has -/
  | noRoom (below : c < t.limit) (tail : t.limit.toNat - c.toNat < Record.magicSize) :
    t.Attempt c [.candidate c, .noRoom t.limit]
      [placeLine c, (.debug, "No room for a record below 0x" ++ Text.hex t.limit.toNat)]
  /-- other bytes stand in the place of a magic -/
  | foreign (magic_inside : Record.magicSize ≤ t.limit.toNat - c.toNat)
    (foreign : t.bytesAt c.toNat Record.magicSize ≠ Record.magicBytes) :
    t.Attempt c [.candidate c, .recordMagic (t.bytesAt c.toNat Record.magicSize)]
      [placeLine c, magicLine (Text.lossy (t.bytesAt c.toNat Record.magicSize))]
  /-- the magic is there, and the header passes the limit -/
  | cut (marked : t.bytesAt c.toNat Record.magicSize = Record.magicBytes)
    (magic_inside : Record.magicSize ≤ t.limit.toNat - c.toNat)
    (cut : t.limit.toNat - c.toNat < Record.size) :
    t.Attempt c [.candidate c, .recordMagic (t.bytesAt c.toNat Record.magicSize)]
      [placeLine c, magicLine "LARCHIVE"]
  /-- the header is there, and leaves no room for itself or a name that passes the limit -/
  | unnamed (marked : t.bytesAt c.toNat Record.magicSize = Record.magicBytes)
    (header_inside : Record.size ≤ t.limit.toNat - c.toNat)
    (unnamed : t.payloadOffset c.toNat < Record.size ∨
      t.limit.toNat < c.toNat + t.payloadOffset c.toNat) :
    t.Attempt c
      (.candidate c :: .recordMagic (t.bytesAt c.toNat Record.magicSize) ::
        recordReports (Record.decode (t.bytesAt c.toNat Record.size)))
      (placeLine c :: magicLine "LARCHIVE" ::
        headerLines (Record.decode (t.bytesAt c.toNat Record.size)))

/-! ## Entries -/

/-- The address of the next record, as the account of an entry gives it. -/
def nextAddress (t : Table) (e : Entry) : UInt64 :=
  Address.saturatingAdd e.address (UInt64.ofNat (t.stride e.record))

/-- The account that the walk gives of an entry is the one that it should give. -/
theorem Sound.account_block (sound : t.Sound) (marked : e.record.magic = Record.magicBytes) :
    t.Account e (t.nextAddress e) (t.block e) ((t.block e).map Event.logged) := by
  obtain ⟨distance, -, distance_eq⟩ := sound.alignUp_extent e.record
  have same : UInt64.ofNat (t.stride e.record) = distance := by
    rw [← distance_eq, UInt64.ofNat_toNat]
  refine ⟨?_, ⟨e.record.extent, distance, Record.toNat_extent _, distance_eq, ?_⟩,
    fun text spelled => Name.display_of_spelled spelled, ?_⟩
  · rw [nextAddress, Address.toNat_saturatingAdd, same, distance_eq]
  · rw [block, nextAddress, same]
    rfl
  · have extent_eq := Record.toNat_extent e.record
    rw [block, List.map_cons, List.map_cons, List.map_append, Event.logged_candidate,
      Event.logged_marked marked, Event.logged_recordReports, List.map_cons,
      Event.logged_recordName, same, ← extent_eq, ← distance_eq, nextAddress, same]
    rfl

/-! ## The last place -/

theorem trail_step_of_beyond (beyond : t.limit ≤ c.address) : (t.step c).trail = [] := by
  rw [step, if_pos beyond]
  rfl

theorem trail_step_of_noRoom (below : c.address < t.limit)
    (tail : t.window.magicAt c.index = none) :
    (t.step c).trail = [.candidate c.address, .noRoom t.limit] := by
  rw [step, if_neg (UInt64.not_le.mpr below), tail]
  rfl

theorem trail_step_of_foreign {magic : Bytes} (below : c.address < t.limit)
    (found : t.window.magicAt c.index = some magic) (foreign : magic ≠ Record.magicBytes) :
    (t.step c).trail = [.candidate c.address, .recordMagic magic] := by
  rw [step, if_neg (UInt64.not_le.mpr below), found]
  simp only [Traced.log_bind, if_neg foreign, Traced.trail_pure]

/-- At a magic, what reading the record reports follows. -/
theorem trail_step_of_failed (below : c.address < t.limit)
    (found : t.window.magicAt c.index = some Record.magicBytes)
    (failed : (t.readEntry c).outcome = .error cause) :
    (t.step c).trail =
      .candidate c.address :: .recordMagic Record.magicBytes :: (t.readEntry c).trail := by
  rw [step, if_neg (UInt64.not_le.mpr below), found]
  simp only [Traced.log_bind, if_true, Traced.bind_of_error failed]

theorem readEntry_of_cut (refused : t.window.recordAt c.index = .error cause) :
    t.readEntry c = ⟨[], .error cause⟩ := by
  rw [readEntry, refused]
  rfl

theorem readEntry_of_unnamed {r : Record} (recorded : t.window.recordAt c.index = .ok r)
    (refused : t.window.nameAt c.index r = .error cause) :
    t.readEntry c = ⟨recordReports r, .error cause⟩ := by
  rw [readEntry, recorded]
  simp only [Traced.ofExcept_ok_bind, refused]
  rfl

/-- Where no magic stands, the walk gives the account of its end. -/
theorem attempt_of_unmarked (sound : t.Sound) (unmarked : ¬ t.MarkedAt i) :
    t.Attempt (t.cursorAt i).address (t.step (t.cursorAt i)).trail
      ((t.step (t.cursorAt i)).trail.map Event.logged) := by
  have limit_eq := sound.toNat_limit
  rcases Nat.lt_or_ge i t.window.contents.length with inside | outside
  · have below := sound.cursorAt_lt_limit_iff.mpr inside
    obtain ⟨address_eq, index_eq⟩ := sound.toNat_cursorAt_of_inside (Nat.le_of_lt inside)
    rcases found : t.window.magicAt (t.cursorAt i).index with _ | magic
    · rw [trail_step_of_noRoom below found, List.map_cons, List.map_singleton,
        Event.logged_candidate, Event.logged_noRoom]
      refine .noRoom below (Nat.lt_of_not_le fun magic_inside => ?_)
      -- with room for one, some magic would have been read
      have read : t.window.magicAt (t.cursorAt i).index = some _ :=
        Window.magicAt_eq_some_iff.mpr ⟨by rw [index_eq, sound.toNat_size]; omega, rfl⟩
      rw [found] at read
      cases read
    · obtain ⟨magic_inside, magic_eq⟩ := Window.magicAt_eq_some_iff.mp found
      rw [index_eq] at magic_inside magic_eq
      have magic_at : t.bytesAt (t.cursorAt i).address.toNat Record.magicSize = magic := by
        rw [address_eq, bytesAt_start_add, magic_eq]
      have foreign : magic ≠ Record.magicBytes := fun same => unmarked (magic_eq.symm.trans same)
      rw [trail_step_of_foreign below found foreign, ← magic_at, List.map_cons, List.map_singleton,
        Event.logged_candidate, Event.logged_recordMagic]
      rw [sound.toNat_size] at magic_inside
      exact .foreign (by omega) (magic_at ▸ foreign)
  · have beyond : t.limit ≤ (t.cursorAt i).address :=
      UInt64.not_lt.mp fun below => Nat.not_lt.mpr outside (sound.cursorAt_lt_limit_iff.mp below)
    rw [trail_step_of_beyond beyond]
    exact .beyond beyond

/-- Where a magic stands, the cursor of the walk finds it. -/
theorem MarkedAt.found (sound : t.Sound) (marked : t.MarkedAt i) :
    (t.cursorAt i).address.toNat = t.start.toNat + i ∧ (t.cursorAt i).index.toNat = i ∧
      (t.cursorAt i).address < t.limit ∧
      t.window.magicAt (t.cursorAt i).index = some Record.magicBytes ∧
      t.bytesAt (t.cursorAt i).address.toNat Record.magicSize = Record.magicBytes := by
  have some_left : 0 < Record.magicSize := by decide
  have inside := marked.inside
  obtain ⟨address_eq, index_eq⟩ := sound.toNat_cursorAt_of_inside (i := i) (by omega)
  refine ⟨address_eq, index_eq, sound.cursorAt_lt_limit_iff.mpr (by omega), ?_, ?_⟩
  · rw [Window.magicAt_eq_some_iff, index_eq, sound.toNat_size]
    exact ⟨inside, marked.symm⟩
  · rw [address_eq, bytesAt_start_add]
    exact marked

/-- A record whose name cannot be read is reported up to there. -/
theorem attempt_of_unnamed (sound : t.Sound) (marked : t.MarkedAt i)
    (header_inside : i + Record.size ≤ t.window.contents.length)
    (refused : t.window.nameAt (t.cursorAt i).index (t.headerAt i) = .error cause)
    (unnamed : (t.headerAt i).offset.toNat < Record.size ∨
      t.window.contents.length < i + (t.headerAt i).offset.toNat) :
    t.Attempt (t.cursorAt i).address (t.step (t.cursorAt i)).trail
      ((t.step (t.cursorAt i)).trail.map Event.logged) := by
  have limit_eq := sound.toNat_limit
  obtain ⟨address_eq, -, below, found, marked_at⟩ := marked.found sound
  have read := readEntry_of_unnamed (sound.recordAt_cursorAt header_inside) refused
  have header_eq : t.headerAt i =
      Record.decode (t.bytesAt (t.cursorAt i).address.toNat Record.size) := by
    rw [address_eq, bytesAt_start_add, headerAt]
  rw [trail_step_of_failed below found (by rw [read]), read, ← marked_at, header_eq, List.map_cons,
    List.map_cons, Event.logged_candidate, Event.logged_marked marked_at,
    Event.logged_recordReports]
  refine .unnamed marked_at (by omega) ?_
  rw [address_eq, payloadOffset_eq header_inside]
  omega

/-- Where a record cannot be read, the walk gives the account of its end too. -/
theorem attempt_of_corrupt (sound : t.Sound) (corrupt : t.CorruptAt i cause) :
    t.Attempt (t.cursorAt i).address (t.step (t.cursorAt i)).trail
      ((t.step (t.cursorAt i)).trail.map Event.logged) := by
  have limit_eq := sound.toNat_limit
  have fits := sound.fits
  have short := sound.short
  have small : Record.size = 24 := rfl
  have inside := corrupt.marked.inside
  obtain ⟨address_eq, index_eq, below, found, marked_at⟩ := corrupt.marked.found sound
  cases corrupt with
  | headerCut marked cut =>
    have refused : t.window.recordAt (t.cursorAt i).index = _ :=
      Window.recordAt_of_outside (by rw [index_eq]; omega)
        (by rw [index_eq, sound.toNat_size]; exact cut)
    have read := readEntry_of_cut refused
    rw [trail_step_of_failed below found (by rw [read]), read, ← marked_at, List.map_cons,
      List.map_singleton, Event.logged_candidate, Event.logged_marked marked_at]
    exact .cut marked_at (by omega) (by omega)
  | noRoom marked header_inside no_room =>
    have refused : t.window.nameAt (t.cursorAt i).index (t.headerAt i) = _ :=
      Window.nameAt_of_short no_room
    exact attempt_of_unnamed sound marked header_inside refused (.inl no_room)
  | nameCut marked header_inside room cut =>
    have offset_lt := (t.headerAt i).offset.toNat_lt
    have refused : t.window.nameAt (t.cursorAt i).index (t.headerAt i) = _ :=
      Window.nameAt_of_outside room (by rw [index_eq]; omega)
        (by rw [index_eq, sound.toNat_size]; exact cut)
    exact attempt_of_unnamed sound marked header_inside refused (.inr cut)

theorem Attempt.tried {a : UInt64} {events : List Event} {lines : List (Level × String)}
    (attempt : t.Attempt a events lines) :
    events.filterMap Event.tried = if a < t.limit then [a] else [] := by
  have some_left : 0 < Record.magicSize := by decide
  have small : Record.magicSize ≤ Record.size := by decide
  have below_of_left (left : Record.magicSize ≤ t.limit.toNat - a.toNat) :
      a < t.limit := by
    rw [UInt64.lt_iff_toNat_lt]
    omega
  cases attempt with
  | beyond beyond => rw [if_neg (UInt64.not_lt.mpr beyond)]; rfl
  | noRoom below tail => rw [if_pos below]; rfl
  | foreign magic_inside => rw [if_pos (below_of_left magic_inside)]; rfl
  | cut marked magic_inside => rw [if_pos (below_of_left magic_inside)]; rfl
  | unnamed marked header_inside => rw [if_pos (below_of_left (by omega))]; rfl

/-! ## Call by call -/

/-- A walk that stands at an entry is at its address, and goes on at the one that its account
names. -/
theorem cursorAt_of_entryAt (sound : t.Sound) (here : t.EntryAt i e) :
    (t.cursorAt i).address = e.address ∧
      (t.cursorAt (i + t.stride e.record)).address = t.nextAddress e := by
  have header_inside := here.header_inside
  obtain ⟨address_eq, -⟩ := sound.toNat_cursorAt_of_inside (i := i) (by omega)
  obtain ⟨distance, -, distance_eq⟩ := sound.alignUp_extent e.record
  have at_entry : (t.cursorAt i).address = e.address :=
    UInt64.toNat_inj.mp (address_eq.trans here.address_eq.symm)
  refine ⟨at_entry, ?_⟩
  rw [← distance_eq, ← advance_cursorAt, Cursor.advance, at_entry, nextAddress, ← distance_eq,
    UInt64.ofNat_toNat]

/-- Along a chain, each call finds the next entry and reports its account, from the entry's address
to the one that the account names; then the walk stands where the chain ends. The induction is on
the chain, and the calls before it are counted. -/
theorem Chain.calls (sound : t.Sound) (chain : t.Chain i es ending)
    (arrived : t.walkAfter n = t.walkAt i) :
    (∀ k e, es[k]? = some e → (t.next (t.walkAfter (n + k))).1.trail = t.block e ∧
      (t.walkAfter (n + k)).cursor.address = e.address ∧
      (t.walkAfter (n + k + 1)).cursor.address = t.nextAddress e) ∧
    ∃ i', t.walkAfter (n + es.length) = t.walkAt i' ∧ t.Chain i' [] ending ∧
      (t.courseFrom (t.walkAt i)).trail =
        (es.map t.block).flatten ++ (t.next (t.walkAt i')).1.trail := by
  induction chain generalizing n with
  | @finished i unmarked =>
    refine ⟨nofun, i, arrived, .finished unmarked, ?_⟩
    rw [courseFrom_of_none (next_of_unmarked sound unmarked), next_of_unmarked sound unmarked]
    rfl
  | @failed i cause corrupt =>
    refine ⟨nofun, i, arrived, .failed corrupt, ?_⟩
    rw [courseFrom_of_error (next_of_corrupt sound corrupt), next_of_corrupt sound corrupt]
    rfl
  | @entry i e rest ending here beyond ih =>
    have next_eq := next_of_entry sound here
    have arrived' : t.walkAfter (n + 1) = t.walkAt (i + t.stride e.record) := by
      rw [walkAfter, arrived, next_eq]
    obtain ⟨later, i', arrived_last, last, trail_eq⟩ := ih arrived'
    refine ⟨fun k e' there => ?_, i', ?_, last, ?_⟩
    · cases k with
      | zero =>
        obtain rfl : e = e' := Option.some.inj there
        obtain ⟨at_entry, onward⟩ := cursorAt_of_entryAt sound here
        rw [Nat.add_zero, arrived', arrived, next_eq]
        exact ⟨trail_step_of_entry sound here, at_entry, onward⟩
      | succ k =>
        have shifted : n + 1 + k = n + (k + 1) := by omega
        rw [← shifted]
        exact later k e' there
    · rw [← arrived_last, List.length_cons]
      congr 1
      omega
    · rw [courseFrom_of_entry next_eq, Course.trail, trail_eq, trail_step_of_entry sound here,
        List.map_cons, List.flatten_cons, List.append_assoc]

/-- The call after the last entry gives the account of the end, and from then on nothing happens. -/
theorem Chain.last_call (sound : t.Sound) (chain : t.Chain i [] ending)
    (arrived : t.walkAfter n = t.walkAt i) :
    t.Attempt (t.walkAfter n).cursor.address (t.next (t.walkAfter n)).1.trail
        ((t.next (t.walkAfter n)).1.trail.map Event.logged) ∧
      ∀ k, n < k → (t.walkAfter k).cursor = (t.walkAfter n).cursor ∧
        (t.next (t.walkAfter k)).1.trail = [] := by
  have settled : t.Attempt (t.cursorAt i).address (t.next (t.walkAt i)).1.trail
        ((t.next (t.walkAt i)).1.trail.map Event.logged) ∧
      (t.next (t.walkAt i)).2 = ⟨t.cursorAt i, true⟩ := by
    cases chain with
    | finished unmarked =>
      rw [next_of_unmarked sound unmarked]
      exact ⟨attempt_of_unmarked sound unmarked, rfl⟩
    | failed corrupt =>
      rw [next_of_corrupt sound corrupt]
      exact ⟨attempt_of_corrupt sound corrupt, rfl⟩
  obtain ⟨attempt, ended⟩ := settled
  have stays (k : Nat) : t.walkAfter (n + 1 + k) = ⟨t.cursorAt i, true⟩ := by
    induction k with
    | zero => rw [Nat.add_zero, walkAfter, arrived, ended]
    | succ k ih => rw [← Nat.add_assoc, walkAfter, ih, next, if_pos rfl]
  rw [arrived]
  refine ⟨attempt, fun k beyond => ?_⟩
  obtain ⟨k, rfl⟩ := Nat.exists_eq_add_of_lt beyond
  have shifted : n + k + 1 = n + 1 + k := by omega
  rw [shifted, stays, next, if_pos rfl]
  exact ⟨rfl, rfl⟩

/-! ## The whole walk -/

/-- What stands in a list that one more may follow stands in the list, or is that one. -/
theorem getElem?_append_ite {α : Type} {as : List α} {a c : α} {k : Nat} {more : Prop}
    [Decidable more] (there : (as ++ if more then [c] else [])[k]? = some a) :
    as[k]? = some a ∨ k = as.length ∧ a = c := by
  rcases Nat.lt_or_ge k as.length with before | after
  · rw [List.getElem?_append_left before] at there
    exact .inl there
  · rw [List.getElem?_append_right after] at there
    split at there
    · obtain ⟨here, rfl⟩ := List.getElem?_eq_some_iff.mp there
      rw [List.length_singleton] at here
      exact .inr ⟨by omega, List.getElem_singleton _⟩
    · cases there

/-- A list is mapped by position if each of its items is. -/
theorem map_eq_map_range {α β : Type} {as : List α} {f : α → β} {g : Nat → β}
    (same : ∀ k a, as[k]? = some a → g k = f a) : as.map f = (List.range as.length).map g := by
  apply List.ext_getElem (by simp)
  intro k before _
  rw [List.length_map] at before
  rw [List.getElem_map, List.getElem_map, List.getElem_range]
  exact (same k as[k] (List.getElem?_eq_getElem before)).symm

/-- **A walk reports what it does.** Let the walk of an open table find some entries and come to an
end where its cursor is at an address, over any bytes. Then

* the places that are tried for a record are the addresses of the entries, in order, and after them
  that address if it is below the limit; and in the log these are the lines that begin as those of
  places do;
* the call that finds an entry reports and logs its account and nothing else. The account names the
  address from which the walk goes on, and this is the next place that is tried, if there is one;
* the call after them reports and logs the account of the last attempt and nothing else;
* no later call reports anything, or moves the cursor;
* the reports of a whole walk are these, in this order. -/
theorem course_account (opened : t.Opened) :
    let es := t.course.entries
    let c := (t.walkAfter es.length).cursor.address
    let tried := es.map (·.address) ++ if c < t.limit then [c] else []
    let reported k := (t.next (t.walkAfter k)).1.trail
    (t.course.trail.filterMap Event.tried = tried ∧
      Event.linesWith "Potential CBFS File Offset: " (t.course.trail.map Event.logged) =
        tried.map placeLine) ∧
      (∀ k e, es[k]? = some e → ∃ next,
        t.Account e next (reported k) ((reported k).map Event.logged) ∧
          ∀ a, tried[k + 1]? = some a → a = next) ∧
      t.Attempt c (reported es.length) ((reported es.length).map Event.logged) ∧
      (∀ k, es.length < k → (t.walkAfter k).cursor = (t.walkAfter es.length).cursor ∧
        reported k = []) ∧
      t.course.trail = (List.range (es.length + 1)).flatMap reported := by
  have sound := opened.sound
  have fresh : t.walkAfter 0 = t.walkAt 0 := by rw [walkAfter, walk, walkAt, cursorAt_zero]
  obtain ⟨calls, i, arrived, last, trail_eq⟩ := (chain_course sound).calls sound fresh
  simp only [Nat.zero_add] at calls arrived
  obtain ⟨attempt, later⟩ := last.last_call sound arrived
  intro es c tried reported
  have trail_eq' : t.course.trail = (es.map t.block).flatten ++ reported es.length := by
    rw [← arrived, ← course_eq_courseFrom] at trail_eq
    exact trail_eq
  have all_tried : t.course.trail.filterMap Event.tried = tried := by
    rw [trail_eq', List.filterMap_append, tried_blocks, attempt.tried]
  -- what is tried is where the cursor stands, call by call
  have tried_at (k : Nat) (a : UInt64) (there : tried[k]? = some a) :
      a = (t.walkAfter k).cursor.address := by
    rcases getElem?_append_ite there with entry | ⟨last_one, last_place⟩
    · rw [List.getElem?_map, Option.map_eq_some_iff] at entry
      obtain ⟨e, found, rfl⟩ := entry
      exact (calls k e found).2.1.symm
    · rw [last_one, List.length_map]
      exact last_place
  refine ⟨⟨all_tried, ?_⟩, fun k e there => ?_, attempt, later, ?_⟩
  · rw [Event.linesWith_place, all_tried]
  · obtain ⟨reported_eq, -, onward⟩ := calls k e there
    obtain ⟨j, -, here⟩ := (chain_course sound).entryAt e (List.mem_of_getElem? there)
    refine ⟨t.nextAddress e, ?_, fun a there => (tried_at (k + 1) a there).trans onward⟩
    rw [show reported k = t.block e from reported_eq]
    exact sound.account_block here.magic_eq
  · have blocks : es.map t.block = (List.range es.length).map reported :=
      map_eq_map_range fun k e found => (calls k e found).1
    rw [trail_eq', blocks, List.range_succ, List.flatMap_append, List.flatMap_singleton,
      List.flatMap_def]

/-- The walk of the small table tries the places of its two files and then that of the header behind
them, where other bytes stand than a record's magic. The log says so in these lines. -/
theorem course_account_smallTable :
    smallTable.Opened ∧
      smallTable.course.trail.filterMap Event.tried = [0xffffff94, 0xffffffb4, 0xffffffdc] ∧
      (Event.linesWith "Potential CBFS File Offset: "
          (smallTable.course.trail.map Event.logged)).map Command.printed =
        ["DEBUG Potential CBFS File Offset: 0xffffff94\n",
          "DEBUG Potential CBFS File Offset: 0xffffffb4\n",
          "DEBUG Potential CBFS File Offset: 0xffffffdc\n"] ∧
      smallTable.Account ⟨0xffffff94, ⟨Record.magicBytes, 3, 0x50, 0, 26⟩, ⟨[0x61, 0]⟩⟩ 0xffffffb4
        (smallTable.next smallTable.walk).1.trail
        ((smallTable.next smallTable.walk).1.trail.map Event.logged) ∧
      (smallTable.next smallTable.walk).1.trail.map Command.logLine =
        ["DEBUG Potential CBFS File Offset: 0xffffff94\n",
          "DEBUG File magic             : LARCHIVE\n", "DEBUG File len               : 3\n",
          "DEBUG File type              : 50 (raw)\n", "DEBUG File attributes_offset : 0\n",
          "DEBUG File offset            : 1a\n", "DEBUG File name              : 'a'\n",
          "TRACE File Off+Len    : 1d\n", "TRACE Align           : 8\n",
          "TRACE Inc             : 20\n", "TRACE Next file off   : ffffffb4\n"] ∧
      smallTable.Attempt 0xffffffdc (smallTable.next (smallTable.walkAfter 2)).1.trail
        ((smallTable.next (smallTable.walkAfter 2)).1.trail.map Event.logged) ∧
      (smallTable.next (smallTable.walkAfter 2)).1.trail.map Command.logLine =
        ["DEBUG Potential CBFS File Offset: 0xffffffdc\n",
          "DEBUG File magic             : ORBC1112\n"] ∧
      (smallTable.next (smallTable.walkAfter 3)).1.trail = [] := by
  have entries_eq : smallTable.course.entries =
      [⟨0xffffff94, ⟨Record.magicBytes, 3, 0x50, 0, 26⟩, ⟨[0x61, 0]⟩⟩,
        ⟨0xffffffb4, ⟨Record.magicBytes, 8, 0x10, 0, 26⟩, ⟨[0x62, 0]⟩⟩] := by
    decide +kernel
  have ends : (smallTable.walkAfter 2).cursor.address = 0xffffffdc := by decide +kernel
  have below : (0xffffffdc : UInt64) < smallTable.limit := by decide +kernel
  have printed (events : List Event) :
      events.map Command.logLine = (events.map Event.logged).map Command.printed :=
    (List.map_map ..).symm
  obtain ⟨⟨tried, places⟩, accounts, attempt, later, -⟩ := course_account opened_smallTable
  rw [entries_eq] at tried places accounts attempt later
  simp only [List.length_cons, List.length_nil, Nat.zero_add, ends, if_pos below]
    at tried places accounts attempt later
  obtain ⟨next, account, onward⟩ := accounts 0 _ rfl
  rw [← onward _ rfl] at account
  refine ⟨opened_smallTable, tried, ?_, account, ?_, attempt, ?_, (later 3 (by decide)).2⟩
  · rw [places]
    decide +kernel
  · exact (printed _).trans ((congrArg _ account.lines_eq).trans (by decide +kernel))
  · decide +kernel

end BootRom.Table
