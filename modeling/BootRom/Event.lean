import BootRom.Format.Header
import BootRom.Selection

/-!
# Events: what is reported while a ROM is read

Every step of locating, walking and extracting reports what it does. An
`Event` is one such report, with the values it speaks of; how it is worded is
in `Event.message`, a label and then the values, how detailed it is in
`Event.level`, which part of the library reports it in `Event.source`, and what a
filter can ask it for in `Event.fields`. Whether anybody sees it is not decided
here.
-/

namespace BootRom

open Format

/-- How detailed a report is, the most urgent first. -/
inductive Level
  | error
  | warn
  | info
  | debug
  | trace
  deriving DecidableEq, Repr

namespace Level

/-- The place of a level in the order of detail. -/
def rank : Level → Nat
  | .error => 1
  | .warn => 2
  | .info => 3
  | .debug => 4
  | .trace => 5

/-- The name of a level. -/
def name : Level → String
  | .error => "ERROR"
  | .warn => "WARN"
  | .info => "INFO"
  | .debug => "DEBUG"
  | .trace => "TRACE"

end Level

/-! ## Events -/

/-- One report. -/
inductive Event
  /-- a ROM image was placed from `base` up to the top of the space -/
  | imagePlaced (path : String) (base top : UInt64)
  /-- the footer is about to be read -/
  | seekingFooter (address : UInt64)
  /-- the footer says how far the header is from the top -/
  | footer (delta : Int32)
  /-- the header is about to be read -/
  | seekingHeader (address : UInt64)
  /-- what marks the header -/
  | headerMagic (magic : UInt32)
  /-- its version -/
  | headerVersion (version : UInt32)
  /-- the size of the ROM -/
  | headerRomSize (romSize : UInt32)
  /-- the size of the boot block -/
  | headerBootBlockSize (bootBlockSize : UInt32)
  /-- the alignment of records -/
  | headerAlign (align : UInt32)
  /-- where the first record starts -/
  | headerOffset (offset : UInt32)
  /-- the processor family -/
  | headerArchitecture (architecture : UInt32)
  /-- part of a memory file is about to be mapped -/
  | mapping (address len : UInt64)
  /-- a record may start here -/
  | candidate (address : UInt64)
  /-- fewer bytes are left than a magic has -/
  | noRoom (limit : UInt64)
  /-- what stands where a record's magic would -/
  | recordMagic (magic : Bytes)
  /-- the length of a payload -/
  | recordLength (len : UInt32)
  /-- the type of a file -/
  | recordType (fileType : UInt32)
  /-- where a file's attributes start -/
  | recordAttributes (attributesOffset : UInt32)
  /-- where a file's payload starts -/
  | recordOffset (offset : UInt32)
  /-- the name of a file -/
  | recordName (name : Name)
  /-- how far a record reaches -/
  | recordExtent (extent : UInt64)
  /-- what strides are rounded up to -/
  | alignment (align : UInt64)
  /-- how far it is to the next record -/
  | stride (distance : UInt64)
  /-- where the next record may start -/
  | nextCandidate (address : UInt64)
  /-- a payload is about to be read -/
  | seekingPayload (address : UInt64)
  /-- a payload is about to be written -/
  | payloadBegins
  /-- a payload was written -/
  | payloadEnds
  /-- a whole run is over -/
  | scanned (summary : Summary)
  /-- a window of memory is given back -/
  | released (start limit : UInt64)
  deriving DecidableEq, Repr

namespace Event

/-- The level of an event: cursor arithmetic and the handling of windows are finer detail than
the contents of headers and records. -/
def level : Event → Level
  | .mapping .. | .recordExtent .. | .alignment .. | .stride .. | .nextCandidate ..
  | .released .. => .trace
  | _ => .debug

/-- The part of the library that reports an event, as filters name it. -/
def source : Event → String
  | .imagePlaced .. | .scanned .. => "cbfs"
  | .seekingFooter .. | .footer .. | .seekingHeader .. | .headerMagic .. | .headerVersion ..
  | .headerRomSize .. | .headerBootBlockSize .. | .headerAlign .. | .headerOffset ..
  | .headerArchitecture .. => "cbfs::header"
  | .mapping .. => "cbfs::phys"
  | .candidate .. | .noRoom .. | .recordMagic .. | .recordLength .. | .recordType ..
  | .recordAttributes .. | .recordOffset .. | .recordName .. | .recordExtent .. | .alignment ..
  | .stride .. | .nextCandidate .. => "cbfs::walk"
  | .seekingPayload .. | .payloadBegins | .payloadEnds => "cbfs::select"
  | .released .. => "cbfs::view"

/-- The fields that an event carries, as filters name them: its wording is the only one. -/
def fields : Event → List String := fun _ => ["message"]

/-- How an extraction is spelled in the report of a run. -/
def extractedText : Option (UInt64 × UInt32) → String
  | none => "None"
  | some (address, len) =>
    "Some((" ++ Text.decimal address.toNat ++ ", " ++ Text.decimal len.toNat ++ "))"

/-- The text that reports of one kind begin with. -/
def label : Event → String
  | .imagePlaced .. => "ROM image "
  | .seekingFooter .. | .seekingHeader .. | .seekingPayload .. => "Seeking to "
  | .footer .. => "Header Offset: "
  | .headerMagic .. => "Header magic          : "
  | .headerVersion .. => "Header version        : "
  | .headerRomSize .. => "Header ROM size       : "
  | .headerBootBlockSize .. => "Header boot block size: "
  | .headerAlign .. => "Header align          : "
  | .headerOffset .. => "Header offset         : "
  | .headerArchitecture .. => "Header arch           : "
  | .mapping .. => "map physical "
  | .candidate .. => "Potential CBFS File Offset: "
  | .noRoom .. => "No room for a record below "
  | .recordMagic .. => "File magic             : "
  | .recordLength .. => "File len               : "
  | .recordType .. => "File type              : "
  | .recordAttributes .. => "File attributes_offset : "
  | .recordOffset .. => "File offset            : "
  | .recordName .. => "File name              : "
  | .recordExtent .. => "File Off+Len    : "
  | .alignment .. => "Align           : "
  | .stride .. => "Inc             : "
  | .nextCandidate .. => "Next file off   : "
  | .payloadBegins => "-------- Start Data"
  | .payloadEnds => "-------- End Data"
  | .scanned .. => "scanned "
  | .released .. => "releasing ROM view "

/-- What a report says after its label: the values that it speaks of. -/
def value : Event → String
  | .imagePlaced path base top =>
    path ++ " mapped at " ++ Text.address base ++ ".." ++ Text.address top
  | .seekingFooter address | .seekingHeader address | .seekingPayload address
  | .candidate address | .noRoom address => Text.address address
  | .footer delta => Text.signed delta.toInt
  | .headerVersion version =>
    Text.hex version.toNat ++ " (" ++ (knownVersion version).getD "unknown" ++ ")"
  | .recordType fileType =>
    Text.hex fileType.toNat ++ " (" ++ (fileTypeName fileType).getD "unknown" ++ ")"
  | .headerMagic word | .headerRomSize word | .headerBootBlockSize word | .headerAlign word
  | .headerOffset word | .headerArchitecture word | .recordLength word | .recordAttributes word
  | .recordOffset word => Text.hex word.toNat
  | .recordExtent word | .alignment word | .stride word | .nextCandidate word =>
    Text.hex word.toNat
  | .recordMagic magic => Text.lossy magic
  | .recordName name => "'" ++ name.display ++ "'"
  | .mapping address len => Text.address address ++ " len=" ++ Text.address len
  | .payloadBegins | .payloadEnds => ""
  | .scanned summary =>
    Text.decimal summary.scanned ++ " file(s), listed " ++ Text.decimal summary.listed ++
      ", extracted " ++ extractedText summary.extracted
  | .released start limit => Text.address start ++ ".." ++ Text.address limit

/-- The wording of an event. -/
def message (e : Event) : String := e.label ++ e.value

/-- What is logged of an event: how detailed it is, and its wording. -/
def logged (e : Event) : Level × String := (e.level, e.message)

end Event

end BootRom
