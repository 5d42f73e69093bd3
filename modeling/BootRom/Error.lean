import BootRom.Text.Numeral

/-!
# Errors: why a ROM could not be read or a request not be met

An `Error` is a cause, with the values that explain it; its wording is in
`Error.message` alone. Every error is final: nothing is retried, since memory
answers the same way each time.

* `IoFault` is what a device, a writer or the system reports;
* `Activity` is what was being done to a memory when such a fault struck;
* `Error` is what the operations of this library fail with.
-/

namespace BootRom

/-! ## Faults of devices and writers -/

/-- The general kinds of input and output faults. -/
inductive IoKind
  | brokenPipe
  | interrupted
  | wouldBlock
  | writeZero
  | unexpectedEnd
  | permissionDenied
  | outOfMemory
  | invalidInput
  | other
  deriving DecidableEq, Repr

/-- The standing description of a kind of fault. -/
def IoKind.message : IoKind → String
  | .brokenPipe => "broken pipe"
  | .interrupted => "operation interrupted"
  | .wouldBlock => "operation would block"
  | .writeZero => "write zero"
  | .unexpectedEnd => "unexpected end of file"
  | .permissionDenied => "permission denied"
  | .outOfMemory => "out of memory"
  | .invalidInput => "invalid input parameter"
  | .other => "other error"

/-- A fault, as its reporter words it. -/
inductive IoFault
  /-- a kind, with nothing more to say -/
  | plain (kind : IoKind)
  /-- a kind, in the reporter's own words -/
  | described (kind : IoKind) (text : String)
  /-- an answer of the operating system, with its number -/
  | system (number : Nat) (text : String)
  deriving DecidableEq, Repr

namespace IoFault

/-- The wording of a fault. -/
def message : IoFault → String
  | .plain kind => kind.message
  | .described _ text => text
  | .system number text => text ++ " (os error " ++ Text.decimal number ++ ")"

/-- A path leads nowhere. -/
def noSuchFile : IoFault := .system 2 "No such file or directory"

/-- Something that is no file and no device was asked for a mapping. -/
def noSuchDevice : IoFault := .system 19 "No such device"

/-- A path passes through something that is not a directory. -/
def notADirectory : IoFault := .system 20 "Not a directory"

/-- A directory was read as if it were a file. -/
def isADirectory : IoFault := .system 21 "Is a directory"

/-- A device cannot take another byte. -/
def noSpaceLeft : IoFault := .system 28 "No space left on device"

/-- A path, or a step of it, is longer than the system follows. -/
def nameTooLong : IoFault := .system 36 "File name too long"

/-- A range reaches beyond the last page that has a number. -/
def valueTooLarge : IoFault := .system 75 "Value too large for defined data type"

/-- A path holds the character that would end it. -/
def pathWithNul : IoFault :=
  .described .invalidInput "file name contained an unexpected NUL byte"

end IoFault

/-! ## What was being done -/

/-- An activity that a fault can interrupt. -/
inductive Activity
  /-- setting aside a buffer of `len` bytes for a read at `address` -/
  | allocating (len address : UInt64)
  /-- opening a memory file -/
  | opening (path : String)
  /-- mapping part of a memory file -/
  | mapping (path : String) (address : UInt64)
  /-- reading a ROM image file -/
  | readingImage (path : String)
  deriving DecidableEq, Repr

/-- The wording of an activity. -/
def Activity.message : Activity → String
  | .allocating len address =>
    "allocate " ++ Text.decimal len.toNat ++ "-byte buffer for " ++ Text.address address
  | .opening path => "open " ++ path
  | .mapping path address => "map " ++ path ++ " at " ++ Text.address address
  | .readingImage path => "read ROM image " ++ path

/-! ## Errors -/

/-- The reasons for which reading a ROM fails. -/
inductive Error
  /-- the footer leads to bytes that are no master header -/
  | headerNotFound (address : UInt64) (magic : UInt32)
  /-- records cannot be stepped over with this alignment -/
  | invalidAlignment (align : UInt32)
  /-- the header places the file table outside the memory below the top -/
  | invalidRegion (romSize offset : UInt32)
  /-- a record leaves less than its own header before its payload -/
  | invalidRecordOffset (address : UInt64) (offset : UInt32)
  /-- a read runs past the end of a window -/
  | outOfBounds (index len size : UInt64)
  /-- memory was asked for bytes that nothing backs -/
  | unbackedRange (address len : UInt64)
  /-- a sum of addresses leaves the address space -/
  | addressOverflow
  /-- a payload runs past the end of the ROM -/
  | truncatedFile (name : String) (dataStart : UInt64) (len : UInt32) (limit : UInt64)
  /-- the writer refused part of the output -/
  | writeFailure (fault : IoFault)
  /-- no record has the name asked for -/
  | targetNotFound (name : String)
  /-- a fault below, while something was being done -/
  | io (activity : Activity) (fault : IoFault)
  deriving DecidableEq, Repr

/-- The wording of an error. -/
def Error.message : Error → String
  | .headerNotFound address magic =>
    "failed to find valid header at " ++ Text.address address ++
      " (magic 0x" ++ Text.hexWord magic ++ ")"
  | .invalidAlignment align =>
    "invalid CBFS alignment 0x" ++ Text.hex align.toNat ++ " (expected a non-zero power of two)"
  | .invalidRegion romSize offset =>
    "invalid CBFS region: romsize=0x" ++ Text.hex romSize.toNat ++
      " offset=0x" ++ Text.hex offset.toNat
  | .invalidRecordOffset address offset =>
    "invalid CBFS file record at " ++ Text.address address ++ ": offset 0x" ++
      Text.hex offset.toNat ++ " is smaller than the record header"
  | .outOfBounds index len size =>
    "out of bounds: offset=" ++ Text.decimal index.toNat ++ " len=" ++ Text.decimal len.toNat ++
      " size=" ++ Text.decimal size.toNat
  | .unbackedRange address len =>
    "physical range not backed: paddr=" ++ Text.address address ++
      " len=" ++ Text.decimal len.toNat
  | .addressOverflow => "integer overflow while computing addresses"
  | .truncatedFile name dataStart len limit =>
    "file '" ++ name ++ "' offset/length extends beyond ROM: data=" ++ Text.address dataStart ++
      " len=0x" ++ Text.hex len.toNat ++ " end=" ++ Text.address limit
  | .writeFailure fault => "failed to write file to output: " ++ fault.message
  | .targetNotFound name => "failed to find CBFS file named '" ++ name ++ "'"
  | .io activity fault => activity.message ++ ": " ++ fault.message

end BootRom
