import BootRom.Format.Footer
import BootRom.Memory.Backing

/-!
# Finding the master header

The footer below the top of memory says how far away the header is. A damaged
footer may lead anywhere, and its displacement may pass either end of the
address space; then it wraps, and memory refuses the address that results.
What is read there is a header only if its magic says so.
-/

namespace BootRom.Memory

open Format

/-- The displacement stored in the footer below `top`. -/
def footer (memory : Memory) (top : UInt64) : Traced Event Int32 :=
  match Address.checkedSub top (UInt64.ofNat Footer.size) with
  | none => .fail .addressOverflow
  | some address => do
    Traced.log (.seekingFooter address)
    let raw ← memory.fetch address (UInt64.ofNat Footer.size)
    let delta := Footer.decode (Bytes.contents raw)
    Traced.log (.footer delta)
    return delta

/-- The reports on a header that was read. -/
def headerReports (h : Header) : List Event :=
  [.headerMagic h.magic, .headerVersion h.version, .headerRomSize h.romSize,
    .headerBootBlockSize h.bootBlockSize, .headerAlign h.align, .headerOffset h.offset,
    .headerArchitecture h.architecture]

/-- The header that the footer below `top` leads to. -/
def locate (memory : Memory) (top : UInt64) : Traced Event LocatedHeader := do
  let delta ← memory.footer top
  -- this may wrap; memory refuses what it does not back
  let address := Address.displace top delta
  Traced.log (.seekingHeader address)
  let raw ← memory.fetch address (UInt64.ofNat Header.size)
  let header := Header.decode (Bytes.contents raw)
  Traced.logAll (headerReports header)
  if header.isMarked then return ⟨address, header⟩
  else .fail (.headerNotFound address header.magic)

end BootRom.Memory
