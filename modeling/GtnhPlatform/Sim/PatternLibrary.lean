import GtnhPlatform.Sim.Components

namespace GtnhPlatform.Sim

/-! Multiblock patterns. Coordinates are `uint32_t` and wrap. -/

structure Position where
  x : UInt32
  y : UInt32
  z : UInt32
  deriving DecidableEq

namespace Position

def offset (pos : Position) (dx dy dz : Int) : Position where
  x := pos.x + UInt32.ofInt dx
  y := pos.y + UInt32.ofInt dy
  z := pos.z + UInt32.ofInt dz

/-- `mbPack`, and `xyz` of the pattern library: x in the low ten bits. -/
def mbPack (pos : Position) : UInt32 := low pos.x ||| low pos.y <<< 10 ||| low pos.z <<< 20
where
  low (coordinate : UInt32) : UInt32 := coordinate &&& 0x3FF

end Position

def ANY_BLOCK : UInt16 := 0xFFFF

def EBF_CONTROLLER_BLOCK_ID : UInt16 := ItemId.pack 0b1110010 7 47
def HBF_CONTROLLER_BLOCK_ID : UInt16 := ItemId.pack 0b1110010 7 48
def BLAST_CASING_BLOCK_ID : UInt16 := ItemId.pack 0b1110111 7 5
def KANHAL_COIL_BLOCK_ID : UInt16 := ItemId.pack 0b1110111 7 6
def NICHROME_COIL_BLOCK_ID : UInt16 := ItemId.pack 0b1110111 7 7
def TUNGSTENSTEEL_COIL_BLOCK_ID : UInt16 := ItemId.pack 0b1110111 7 8
def LEGACY_EBF_CONTROLLER_BLOCK_ID : UInt16 := 1003
def LEGACY_HBF_CONTROLLER_BLOCK_ID : UInt16 := 1009
def LEGACY_BLAST_CASING_BLOCK_ID : UInt16 := 1001
def LEGACY_KANHAL_COIL_BLOCK_ID : UInt16 := 1002

inductive HatchType where
  | none
  | itemIn
  | itemOut
  | fluidIn
  | fluidOut
  | energy
  | muffler
  deriving DecidableEq

def HATCH_BLOCK_ITEM_IN : UInt16 := ItemId.pack 0b1110111 7 10
def HATCH_BLOCK_ITEM_OUT : UInt16 := ItemId.pack 0b1110111 7 11
def HATCH_BLOCK_ENERGY_IN : UInt16 := ItemId.pack 0b1110111 7 14
def HATCH_BLOCK_FLUID_IN : UInt16 := ItemId.pack 0b1110101 7 2
def HATCH_BLOCK_FLUID_OUT : UInt16 := ItemId.pack 0b1110101 7 3

def hatchBlockIdToType (blockId : UInt16) : HatchType :=
  if blockId = HATCH_BLOCK_ITEM_IN then .itemIn
  else if blockId = HATCH_BLOCK_ITEM_OUT then .itemOut
  else if blockId = HATCH_BLOCK_ENERGY_IN then .energy
  else if blockId = HATCH_BLOCK_FLUID_IN then .fluidIn
  else if blockId = HATCH_BLOCK_FLUID_OUT then .fluidOut
  else .none

structure HatchDef where
  dx : Int
  dy : Int
  dz : Int
  type : HatchType

abbrev PatternLayer := List (List UInt16)

structure MultiblockPattern where
  id : UInt32
  controllerBlockId : UInt16
  layers : List PatternLayer
  hatches : List HatchDef
  controllerDx : Int
  controllerDy : Int
  controllerDz : Int

structure HatchSlot where
  type : HatchType
  world : Position
  slotStart : UInt16
  slotEnd : UInt16
  tier : UInt8
  present : Bool

namespace HatchSlot

def kSlotsPerHatch : HatchType → UInt16
  | .itemIn => 4
  | .itemOut => 4
  | _ => 0

def hasItemSlots (hatch : HatchSlot) : Bool := decide (0 < kSlotsPerHatch hatch.type)

end HatchSlot

structure MultiblockController where
  id : Nat
  position : Position
  patternId : UInt32
  blocks : List UInt32
  hatches : List HatchSlot := []

structure PatternMatchResult where
  patternId : UInt32
  blocks : List UInt32

structure HatchResult where
  world : Position
  type : HatchType
  present : Bool := false
  tier : UInt8 := 0

def equivalentBlock (expected actual : UInt16) : Bool :=
  (expected == BLAST_CASING_BLOCK_ID && actual == LEGACY_BLAST_CASING_BLOCK_ID) ||
    (expected == KANHAL_COIL_BLOCK_ID && actual == LEGACY_KANHAL_COIL_BLOCK_ID) ||
    (expected == EBF_CONTROLLER_BLOCK_ID && actual == LEGACY_EBF_CONTROLLER_BLOCK_ID) ||
    (expected == HBF_CONTROLLER_BLOCK_ID && actual == LEGACY_HBF_CONTROLLER_BLOCK_ID) ||
    expected == actual

abbrev BlockLookup := Position → UInt16

namespace MultiblockPattern

def corner (pattern : MultiblockPattern) (anchor : Position) : Position :=
  anchor.offset (-pattern.controllerDx) (-pattern.controllerDy) (-pattern.controllerDz)

/-- The world position and the expected block of every cell of a layer. -/
def layerCells (layer : PatternLayer) (corner : Position) (layerY : Nat) :
    List (Position × UInt16) :=
  layer.zipIdx.flatMap fun cells =>
    cells.1.zipIdx.map fun cell => (corner.offset cell.2 layerY cells.2, cell.1)

def matchLayer (layer : PatternLayer) (corner : Position) (layerY : Nat) (lookup : BlockLookup) :
    Bool :=
  (layerCells layer corner layerY).all fun cell =>
    cell.2 == ANY_BLOCK || equivalentBlock cell.2 (lookup cell.1)

def collectBlocks (pattern : MultiblockPattern) (corner : Position) : List UInt32 :=
  pattern.layers.zipIdx.flatMap fun layer =>
    (layerCells layer.1 corner layer.2).map fun cell => cell.1.mbPack

def findHatch (controller : Position) (lookup : BlockLookup) (hatch : HatchDef) : HatchResult :=
  let world := controller.offset hatch.dx hatch.dy hatch.dz
  let detected := hatchBlockIdToType (lookup world)
  if detected ≠ .none then { world := world, type := detected, present := true }
  else if hatch.type = .energy ∨ hatch.type = .muffler then { world := world, type := hatch.type }
  -- no block, no hatch: the entry keeps the layout positional
  else { world := world, type := .none }

def findHatches (controller : Position) (pattern : MultiblockPattern) (lookup : BlockLookup) :
    List HatchResult :=
  pattern.hatches.map (findHatch controller lookup)

end MultiblockPattern

abbrev PatternRegistry := Table UInt32 MultiblockPattern

namespace PatternRegistry

variable (registry : PatternRegistry)

def addPattern (pattern : MultiblockPattern) : PatternRegistry :=
  AList.insert pattern.id pattern registry

def getPattern (id : UInt32) : Option MultiblockPattern :=
  AList.lookup id registry

def isControllerBlock (blockId : UInt16) : Bool :=
  (registry.values.any fun pattern => pattern.controllerBlockId == blockId) ||
    blockId == LEGACY_EBF_CONTROLLER_BLOCK_ID || blockId == LEGACY_HBF_CONTROLLER_BLOCK_ID

def matchById (patternId : UInt32) (anchor : Position)
    (lookup : BlockLookup) : Option PatternMatchResult :=
  match registry.getPattern patternId with
  | none => none
  | some pattern =>
    if pattern.layers.zipIdx.all fun layer =>
        MultiblockPattern.matchLayer layer.1 (pattern.corner anchor) layer.2 lookup then
      some ⟨pattern.id, pattern.collectBlocks (pattern.corner anchor)⟩
    else none

def matchAll (anchor : Position) (lookup : BlockLookup) :
    Option PatternMatchResult :=
  registry.keys.findSome? fun id => registry.matchById id anchor lookup

end PatternRegistry

def makeBlastPattern (id : UInt32) (controller coil : UInt16) : MultiblockPattern where
  id := id
  controllerBlockId := controller
  layers := [full, hollow, hollow, capped]
  hatches := [⟨-1, -2, 0, .itemIn⟩, ⟨1, -2, 0, .itemOut⟩, ⟨1, 3, 2, .muffler⟩, ⟨1, 3, 3, .energy⟩]
  controllerDx := 1
  controllerDy := 3
  controllerDz := 1
where
  casing : UInt16 := BLAST_CASING_BLOCK_ID
  full : PatternLayer :=
    [[casing, casing, casing], [casing, casing, casing], [casing, casing, casing]]
  hollow : PatternLayer :=
    [[casing, ANY_BLOCK, casing], [ANY_BLOCK, coil, ANY_BLOCK], [casing, ANY_BLOCK, casing]]
  capped : PatternLayer :=
    [[casing, casing, casing], [casing, controller, casing], [casing, casing, casing]]

def makeEBFPattern : MultiblockPattern :=
  makeBlastPattern 1 EBF_CONTROLLER_BLOCK_ID KANHAL_COIL_BLOCK_ID

def makeLargeBoilerPattern : MultiblockPattern where
  id := 2
  controllerBlockId := 1005
  layers := [[[1001, 1001, 1001], [1001, 1004, 1001], [1001, 1001, 1001]],
    [[1001, ANY_BLOCK, 1001], [ANY_BLOCK, ANY_BLOCK, ANY_BLOCK], [1001, ANY_BLOCK, 1001]],
    [[1001, ANY_BLOCK, 1001], [ANY_BLOCK, ANY_BLOCK, ANY_BLOCK], [1001, ANY_BLOCK, 1001]],
    [[1001, 1001, 1001], [1001, 1005, 1001], [1001, 1001, 1001]]]
  hatches := [⟨0, 1, 1, .fluidIn⟩, ⟨2, 1, 1, .fluidOut⟩]
  controllerDx := 1
  controllerDy := 3
  controllerDz := 1

def makeLCRPattern : MultiblockPattern where
  id := 3
  controllerBlockId := 1006
  layers := [[[1001, 1001, 1001], [1001, 1001, 1001], [1001, 1001, 1001]],
    [[1001, ANY_BLOCK, 1001], [ANY_BLOCK, ANY_BLOCK, ANY_BLOCK], [1001, ANY_BLOCK, 1001]],
    [[1001, 1001, 1001], [1001, 1006, 1001], [1001, 1001, 1001]]]
  hatches := [⟨-1, -1, 0, .itemIn⟩, ⟨1, -1, 0, .itemOut⟩, ⟨0, 1, 1, .fluidIn⟩,
    ⟨2, 1, 1, .fluidOut⟩, ⟨1, 2, 2, .energy⟩]
  controllerDx := 1
  controllerDy := 2
  controllerDz := 1

def makeHBFPattern : MultiblockPattern :=
  makeBlastPattern 4 HBF_CONTROLLER_BLOCK_ID KANHAL_COIL_BLOCK_ID

def PatternRegistry.new : PatternRegistry :=
  (((∅ : PatternRegistry).addPattern makeEBFPattern).addPattern makeLargeBoilerPattern
    |>.addPattern makeLCRPattern).addPattern makeHBFPattern

end GtnhPlatform.Sim
