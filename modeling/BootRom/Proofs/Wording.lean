import BootRom.Table.Walk

/-!
# What a log says

What a report says is a line of a log: a label, and the values that the report speaks of. A line is
as good as its report, because its label tells what kind of report it is, and because a name that is
text is shown as this text.

* `Text.lossy_encode`: bytes that spell a text show as this text, by `scan_utf8EncodeChar`, which
  reads one character back. So does a name (`Name.display_of_spelled`).
* `Event.label_prefix_message_iff`: over all reports, the wording of one begins with the label of
  its own kind and of no other. Hence the lines that begin with a label are those of the reports of
  one kind (`Event.linesWith_logged`), and are of one level.
* `placeLine`, `magicLine`, `headerLines` and `onwardLines` are the lines of a walk, letter by
  letter; the `logged_` lemmas say that its reports are logged so.
-/

namespace BootRom

open Format

/-! ## Text that is spelled -/

namespace Text

variable {n bits owed : Nat} {low high : UInt8} {p : Partial} {rest : Bytes}

theorem scan_of_whole (small : n < 0x80) :
    scan none (UInt8.ofNat n :: rest) = Char.ofNat n :: scan none rest := by
  have n_eq : (UInt8.ofNat n).toNat = n := UInt8.toNat_ofNat_of_lt' (Nat.lt_trans small (by decide))
  rw [scan, Lead.ofByte, n_eq]
  simp only [if_pos small]

theorem scan_of_opening (lead : Lead.ofByte (UInt8.ofNat n) = .opening p) :
    scan none (UInt8.ofNat n :: rest) = scan (some p) rest := by
  rw [scan, lead]

theorem feed_of_between (above : low.toNat ≤ n) (below : n ≤ high.toNat) :
    Partial.feed ⟨owed, low, high, bits⟩ (UInt8.ofNat n) =
      match owed with
      | 0 => .complete (Char.ofNat (bits * 0x40 + n % 0x40))
      | owed + 1 => .more ⟨owed, 0x80, 0xbf, bits * 0x40 + n % 0x40⟩ := by
  have high_lt := high.toNat_lt
  have n_eq : (UInt8.ofNat n).toNat = n :=
    UInt8.toNat_ofNat_of_lt' (Nat.lt_of_le_of_lt below high_lt)
  have between : low ≤ UInt8.ofNat n ∧ UInt8.ofNat n ≤ high := by
    rw [UInt8.le_iff_toNat_le, UInt8.le_iff_toNat_le, n_eq]
    exact ⟨above, below⟩
  cases owed <;> simp only [Partial.feed, if_pos between, n_eq]

theorem scan_of_last (above : low.toNat ≤ n) (below : n ≤ high.toNat) :
    scan (some ⟨0, low, high, bits⟩) (UInt8.ofNat n :: rest) =
      Char.ofNat (bits * 0x40 + n % 0x40) :: scan none rest := by
  rw [scan, feed_of_between above below]

theorem scan_of_more (above : low.toNat ≤ n) (below : n ≤ high.toNat) :
    scan (some ⟨owed + 1, low, high, bits⟩) (UInt8.ofNat n :: rest) =
      scan (some ⟨owed, 0x80, 0xbf, bits * 0x40 + n % 0x40⟩) rest := by
  rw [scan, feed_of_between above below]

/-- The first of two bytes. -/
theorem lead_of_two {v : Nat} (long : 0x80 ≤ v) (short : v < 0x800) :
    Lead.ofByte (UInt8.ofNat (v / 64 % 32 + 192)) = .opening ⟨0, 0x80, 0xbf, v / 64⟩ := by
  have n_eq : (UInt8.ofNat (v / 64 % 32 + 192)).toNat = v / 64 + 192 := by
    rw [UInt8.toNat_ofNat']
    omega
  rw [Lead.ofByte, n_eq, if_neg (by omega), if_neg (by omega), if_pos (by omega)]
  congr 2
  omega

/-- A character of several bytes is under way, and a byte may come next. -/
def Lead.Awaits (lead : Lead) (owed bits next : Nat) : Prop :=
  ∃ low high : UInt8, lead = .opening ⟨owed, low, high, bits⟩ ∧ low.toNat ≤ next ∧ next ≤ high.toNat

theorem awaits_of_eq {bits' next : Nat} (same : bits' = bits) (above : low.toNat ≤ next)
    (below : next ≤ high.toNat) : (Lead.opening ⟨owed, low, high, bits'⟩).Awaits owed bits next :=
  ⟨low, high, by rw [same], above, below⟩

/-- The first of three bytes, which lets the second one through. -/
theorem lead_of_three {v : Nat} (long : 0x800 ≤ v) (short : v < 0x10000)
    (valid : v < 0xd800 ∨ 0xdfff < v) :
    (Lead.ofByte (UInt8.ofNat (v / 4096 % 16 + 224))).Awaits 1 (v / 4096) (v / 64 % 64 + 128) := by
  have n_eq : (UInt8.ofNat (v / 4096 % 16 + 224)).toNat = v / 4096 + 224 := by
    rw [UInt8.toNat_ofNat']
    omega
  rw [Lead.ofByte, n_eq, if_neg (by omega), if_neg (by omega), if_neg (by omega)]
  split
  · -- the spelling is not too long
    exact awaits_of_eq (by omega) (show 0xa0 ≤ _ by omega) (show _ ≤ 0xbf by omega)
  · split
    · -- the character is no surrogate
      exact awaits_of_eq (by omega) (show 0x80 ≤ _ by omega) (show _ ≤ 0x9f by omega)
    · rw [if_pos (by omega)]
      exact awaits_of_eq (by omega) (show 0x80 ≤ _ by omega) (show _ ≤ 0xbf by omega)

/-- The first of four bytes, which lets the second one through. -/
theorem lead_of_four {v : Nat} (long : 0x10000 ≤ v) (short : v < 0x110000) :
    (Lead.ofByte (UInt8.ofNat (v / 262144 % 8 + 240))).Awaits 2 (v / 262144)
      (v / 4096 % 64 + 128) := by
  have n_eq : (UInt8.ofNat (v / 262144 % 8 + 240)).toNat = v / 262144 + 240 := by
    rw [UInt8.toNat_ofNat']
    omega
  rw [Lead.ofByte, n_eq, if_neg (by omega), if_neg (by omega), if_neg (by omega), if_neg (by omega),
    if_neg (by omega), if_neg (by omega)]
  split
  · exact awaits_of_eq (by omega) (show 0x90 ≤ _ by omega) (show _ ≤ 0xbf by omega)
  · split
    · exact awaits_of_eq (by omega) (show 0x80 ≤ _ by omega) (show _ ≤ 0xbf by omega)
    · rw [if_pos (by omega)]
      exact awaits_of_eq (by omega) (show 0x80 ≤ _ by omega) (show _ ≤ 0x8f by omega)

/-- A character that is spelled is read as itself. -/
theorem scan_utf8EncodeChar (c : Char) (rest : Bytes) :
    scan none (String.utf8EncodeChar c ++ rest) = c :: scan none rest := by
  have valid : c.val.toNat < 0xd800 ∨ 0xdfff < c.val.toNat ∧ c.val.toNat < 0x110000 := c.valid
  have c_eq : Char.ofNat c.val.toNat = c := c.ofNat_toNat
  have low_eq : (0x80 : UInt8).toNat = 0x80 := rfl
  have high_eq : (0xbf : UInt8).toNat = 0xbf := rfl
  rw [String.utf8EncodeChar]
  generalize c.val.toNat = v at valid c_eq ⊢
  subst c_eq
  -- a character is spelled by one byte, by two, by three or by four
  split
  · exact scan_of_whole (by omega)
  split
  · rw [List.cons_append, List.cons_append, List.nil_append,
      scan_of_opening (lead_of_two (by omega) (by omega)), scan_of_last (by omega) (by omega)]
    congr 2
    omega
  split
  · obtain ⟨low, high, lead, above, below⟩ : Lead.Awaits _ 1 (v / 4096) _ :=
      lead_of_three (by omega) (by omega) (by omega)
    simp only [List.cons_append, List.nil_append]
    rw [scan_of_opening lead, scan_of_more above below, scan_of_last (by omega) (by omega)]
    congr 2
    omega
  · obtain ⟨low, high, lead, above, below⟩ : Lead.Awaits _ 2 (v / 262144) _ :=
      lead_of_four (by omega) (by omega)
    simp only [List.cons_append, List.nil_append]
    rw [scan_of_opening lead, scan_of_more above below, scan_of_more (by omega) (by omega),
      scan_of_last (by omega) (by omega)]
    congr 2
    omega

/-- A text that is spelled shows as itself. -/
theorem lossy_encode (text : String) : lossy (encode text) = text := by
  have spelled (chars : List Char) : scan none (chars.flatMap String.utf8EncodeChar) = chars := by
    induction chars with
    | nil => rfl
    | cons c chars ih => rw [List.flatMap_cons, scan_utf8EncodeChar, ih]
  have bytes_eq : encode text = text.toList.flatMap String.utf8EncodeChar := by
    rw [encode, String.toUTF8_eq_toByteArray, ← String.utf8Encode_toList, List.utf8Encode,
      Bytes.contents]
    simp
  rw [lossy, bytes_eq, spelled, String.ofList_toList]

end Text

/-- A name that is text is shown as this text. -/
theorem Format.Name.display_of_spelled {n : Name} {text : String}
    (spelled : Text.encode text = n.bytes) : n.display = text := by
  rw [display, ← spelled, Text.lossy_encode]

/-! ## Kinds of lines -/

namespace Event

/-- The kind of line that a report is logged as: its level, and its label. -/
def kind (e : Event) : Level × String := (e.level, e.label)

/-- All kinds of lines. -/
def kinds : List (Level × String) := [
  (.debug, "ROM image "), (.debug, "Seeking to "), (.debug, "Header Offset: "),
  (.debug, "Header magic          : "), (.debug, "Header version        : "),
  (.debug, "Header ROM size       : "), (.debug, "Header boot block size: "),
  (.debug, "Header align          : "), (.debug, "Header offset         : "),
  (.debug, "Header arch           : "), (.trace, "map physical "),
  (.debug, "Potential CBFS File Offset: "), (.debug, "No room for a record below "),
  (.debug, "File magic             : "), (.debug, "File len               : "),
  (.debug, "File type              : "), (.debug, "File attributes_offset : "),
  (.debug, "File offset            : "), (.debug, "File name              : "),
  (.trace, "File Off+Len    : "), (.trace, "Align           : "), (.trace, "Inc             : "),
  (.trace, "Next file off   : "), (.debug, "-------- Start Data"), (.debug, "-------- End Data"),
  (.debug, "scanned "), (.trace, "releasing ROM view ")]

theorem kind_mem_kinds (e : Event) : e.kind ∈ kinds := by
  cases e <;> simp [kind, level, label, kinds]

/-- No label begins with another one, so a label has one level. -/
theorem kinds_prefixFree : ∀ a ∈ kinds, ∀ b ∈ kinds, a.2.toList <+: b.2.toList → a = b := by
  decide +kernel

/-- The wording of a report begins with the label of its own kind and of no other. -/
theorem label_prefix_message_iff {e e' : Event} :
    e.label.toList <+: e'.message.toList ↔ e.kind = e'.kind := by
  rw [message, String.toList_append]
  constructor
  · intro begins
    -- of two labels that one wording begins with, one begins with the other
    rcases List.prefix_or_prefix_of_prefix begins (List.prefix_append ..) with shorter | shorter
    · exact kinds_prefixFree _ e.kind_mem_kinds _ e'.kind_mem_kinds shorter
    · exact (kinds_prefixFree _ e'.kind_mem_kinds _ e.kind_mem_kinds shorter).symm
  · intro same
    rw [show e.label = e'.label from congrArg Prod.snd same]
    exact List.prefix_append ..

/-- The lines of a log that begin with a text. -/
def linesWith (text : String) (log : List (Level × String)) : List (Level × String) :=
  log.filter fun line => text.toList.isPrefixOf line.2.toList

/-- The lines that begin with a label are those of the reports of this kind. -/
theorem linesWith_logged (e : Event) (events : List Event) :
    linesWith e.label (events.map logged) =
      (events.filter fun e' => e.kind = e'.kind).map logged := by
  have same (e' : Event) :
      e.label.toList.isPrefixOf e'.message.toList = decide (e.kind = e'.kind) := by
    rw [Bool.eq_iff_iff, List.isPrefixOf_iff_prefix, label_prefix_message_iff, decide_eq_true_iff]
  rw [linesWith, List.filter_map]
  exact congrArg (List.map logged) (List.filter_congr fun e' _ => same e')

end Event

/-! ## Lines of a walk -/

/-- The line of a place where a record may start. -/
def placeLine (address : UInt64) : Level × String :=
  (.debug, "Potential CBFS File Offset: 0x" ++ Text.hex address.toNat)

/-- The line of what stands in the place of a magic. -/
def magicLine (shown : String) : Level × String := (.debug, "File magic             : " ++ shown)

/-- The lines of a record header. -/
def headerLines (r : Record) : List (Level × String) :=
  [(.debug, "File len               : " ++ Text.hex r.len.toNat),
    (.debug, "File type              : " ++ Text.hex r.fileType.toNat ++
      " (" ++ (fileTypeName r.fileType).getD "unknown" ++ ")"),
    (.debug, "File attributes_offset : " ++ Text.hex r.attributesOffset.toNat),
    (.debug, "File offset            : " ++ Text.hex r.offset.toNat)]

/-- The lines of the way to the next place. -/
def onwardLines (extent align distance next : Nat) : List (Level × String) :=
  [(.trace, "File Off+Len    : " ++ Text.hex extent),
    (.trace, "Align           : " ++ Text.hex align),
    (.trace, "Inc             : " ++ Text.hex distance),
    (.trace, "Next file off   : " ++ Text.hex next)]

namespace Event

theorem logged_candidate (address : UInt64) : logged (.candidate address) = placeLine address := by
  rw [logged, message, value, Text.address, ← String.append_assoc]
  rfl

theorem logged_noRoom (limit : UInt64) :
    logged (.noRoom limit) = (.debug, "No room for a record below 0x" ++ Text.hex limit.toNat) := by
  rw [logged, message, value, Text.address, ← String.append_assoc]
  rfl

theorem logged_recordMagic (magic : Bytes) :
    logged (.recordMagic magic) = magicLine (Text.lossy magic) := rfl

/-- The magic that marks records is text. -/
theorem logged_marked {magic : Bytes} (marked : magic = Record.magicBytes) :
    logged (.recordMagic magic) = magicLine "LARCHIVE" := by
  have shown : Text.lossy Record.magicBytes = "LARCHIVE" := by decide +kernel
  rw [logged_recordMagic, marked, shown]

theorem logged_recordName (name : Name) :
    logged (.recordName name) = (.debug, "File name              : '" ++ name.display ++ "'") := by
  rw [logged, message, value, ← String.append_assoc, ← String.append_assoc]
  rfl

theorem logged_recordReports (r : Record) : (Table.recordReports r).map logged = headerLines r := by
  simp only [Table.recordReports, headerLines, List.map_cons, List.map_nil, logged, level, message,
    label, value, String.append_assoc]

end Event

end BootRom
