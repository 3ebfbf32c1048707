import PspDisasm.Prx

namespace PspDisasm
open Foundations

def pspHeaderSize : Nat := 0x150

def elfMagic : Bytes := [0x7F, 0x45, 0x4C, 0x46]

def pspMagic : Bytes := [0x7E, 0x50, 0x53, 0x50]

/-- A 32-bit word read as a signed number. -/
def signedWord (word : Nat) : Int := if 2 ^ 31 ≤ word then (word : Int) - 2 ^ 32 else word

/-- One field of a `struct.unpack_from` with a little-endian format. -/
def unpackField (data : Bytes) (offset width : Nat) : Except Failure Nat := do
  requireBuffer data offset width
  return wordAt .little data offset width

def parsePspContainerHeader (data : Bytes) : Except Failure PspContainerHeader := do
  raiseIf (data.length < pspHeaderSize)
    (.parseError s!"PSP header requires at least 0x150 bytes, got 0x{hex data.length}")
  raiseIf (slice data 0 4 ≠ pspMagic) (.parseError "Invalid PSP container magic")
  let moduleAttribute ← unpackField data 0x04 2
  let compressionAttribute ← unpackField data 0x06 2
  let minor ← byteAt data 0x08
  let major ← byteAt data 0x09
  let moduleName := decodeAscii (untilNul (slice data 0x0A 0x1C))
  let moduleVersionByte ← byteAt data 0x26
  let segmentCount ← byteAt data 0x27
  let elfSize ← unpackField data 0x28 4
  let pspSize ← unpackField data 0x2C 4
  let bootEntry ← unpackField data 0x30 4
  let moduleInfoOffset ← unpackField data 0x34 4
  let bssSize ← unpackField data 0x38 4
  let segmentAlignments ← (List.range 4).mapM fun i => unpackField data (0x3C + 2 * i) 2
  let segmentAddresses ← (List.range 4).mapM fun i => unpackField data (0x44 + 4 * i) 4
  let segmentSizes ← (List.range 4).mapM fun i => unpackField data (0x54 + 4 * i) 4
  let devkitVersion ← unpackField data 0x78 4
  let decryptMode ← byteAt data 0x7C
  let overlapSize ← unpackField data 0x7E 2
  let compressedSize ← unpackField data 0xB0 4
  let subtype ← unpackField data 0xD0 4
  return {
    moduleAttribute, compressionAttribute, moduleVersion := (major.toNat, minor.toNat), moduleName,
    moduleVersionByte := moduleVersionByte.toNat, segmentCount := segmentCount.toNat, elfSize, pspSize, bootEntry,
    moduleInfoOffset := signedWord moduleInfoOffset, bssSize, segmentAlignments, segmentAddresses, segmentSizes,
    devkitVersion, decryptMode := decryptMode.toNat, overlapSize, compressedSize, subtype }

def detectInput (data : Bytes) : Except Failure InputKind :=
  if elfMagic.isPrefixOf data then .ok .elf32
  else if pspMagic.isPrefixOf data then .ok .pspContainer
  else .error (.parseError "Unsupported input format: expected ELF or ~PSP header")

def analyzeContainer (data : Bytes) (sourceName : String) : Except Failure ExecutableModel := do
  let header ← parsePspContainerHeader data
  return {
    sourceName, inputKind := .pspContainer, executableKind := .encryptedPspContainer, needsDecryption := true,
    endianness := none, elfHeader := none, programHeaders := [], sections := [], containerHeader := some header,
    moduleInfo := none, imports := [], exports := [], relocations := [],
    warnings := [
      "PSP ~PSP container header parsed; executable body requires decryption/decompression before ELF disassembly."] }

def machineWarnings (elf : ElfImage) : List String :=
  (if elf.header.machine ≠ 8 then
    [s!"ELF machine is {elf.header.machine}, not EM_MIPS (8); PSP analysis may not apply"] else []) ++
  if elf.endianness ≠ .little then
    ["PSP executables are expected to be little-endian; this ELF is not"] else []

/-- The analysis of an ELF that is not a module finds nothing. -/
def PrxAnalysis.empty : PrxAnalysis := ⟨none, [], [], [], []⟩

def analyzeElf (data : Bytes) (sourceName : String) : Except Failure ExecutableModel := do
  let elf ← parseElf32 data
  let hasModuleSection := elf.sections.any (·.name = moduleInfoSection)
  let isPrx := elf.header.fileType = etScePsprelexec
  let prx ← if isPrx ∨ hasModuleSection then analyzePrx data elf else .ok .empty
  return {
    sourceName, inputKind := .elf32, executableKind := if isPrx then .prx else .elf, needsDecryption := false,
    endianness := some elf.endianness, elfHeader := some elf.header, programHeaders := elf.programHeaders,
    sections := elf.sections, containerHeader := none, moduleInfo := prx.moduleInfo, imports := prx.imports,
    exports := prx.exports, relocations := prx.relocations, warnings := machineWarnings elf ++ prx.warnings }

def analyzeBytes (data : Bytes) (sourceName : String) : Except Failure ExecutableModel := do
  match ← detectInput data with
  | .pspContainer => analyzeContainer data sourceName
  | .elf32 => analyzeElf data sourceName

end PspDisasm
