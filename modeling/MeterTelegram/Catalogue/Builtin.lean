import MeterTelegram.Catalogue

namespace MeterTelegram.Catalogue

/-! The families that are always registered: heat cost allocators and water
meters of one manufacturer. All send dates and counters at the same places;
the allocators of the newer kinds add temperatures. -/

def signature (deviceType version : UInt8) : Signature :=
  { manufacturer := UInt16.ofNat Manufacturer.techem.toNat, version, deviceType }

def consumptionLayout (coding : UInt8) : Layout :=
  { codings := [coding]
    pastDate := ⟨2, 2⟩
    pastConsumption := ⟨4, 2⟩
    currentDate := ⟨6, 2⟩
    currentConsumption := ⟨8, 2⟩ }

def allocatorLayout (coding : UInt8) : Layout :=
  { consumptionLayout coding with unit := .heatCost, divisor := Binary64.ofNat 1 }

/-- Room and radiator temperature follow each other. -/
def temperatureLayout (coding : UInt8) (roomOffset : Int) : Layout :=
  { allocatorLayout coding with
    reportsTemperature := true
    roomTemperature := ⟨roomOffset, 2⟩
    radiatorTemperature := ⟨roomOffset + 2, 2⟩ }

/-- Water is counted in tenths of a cubic metre. -/
def waterLayout : Layout :=
  { consumptionLayout 0xA2 with unit := .cubicMetre, divisor := Binary64.ofNat 10 }

def allocator64 : Family :=
  { name := "fhkvdataiii_64"
    description := "Techem FHKV data II heat cost allocator without temperatures"
    signatures := [signature 0x80 0x64]
    layout := allocatorLayout 0xA0 }

def allocator69 : Family :=
  { name := "fhkvdataiii_69"
    description := "Techem FHKV data III heat cost allocator"
    signatures := [signature 0x80 0x69]
    layout := temperatureLayout 0xA0 10 }

def allocator94 : Family :=
  { name := "fhkvdataiii_94"
    description := "Techem FHKV data III heat cost allocator, firmware 0x94"
    signatures := [signature 0x80 0x94]
    layout := temperatureLayout 0xA2 11 }

def waterMeter3 : Family :=
  { name := "mkradio3"
    description := "Techem MK Radio 3 warm and cold water meter"
    signatures := [signature 0x62 0x74, signature 0x72 0x74]
    layout := waterLayout }

def waterMeter4 : Family :=
  { name := "mkradio4"
    description := "Techem MK Radio 4 warm and cold water meter"
    signatures :=
      [signature 0x62 0x95, signature 0x62 0x70, signature 0x72 0x95, signature 0x72 0x70]
    layout := waterLayout }

def builtinFamilies : List Family :=
  [allocator64, allocator69, allocator94, waterMeter3, waterMeter4]

def builtin : Catalogue :=
  builtinFamilies.foldl enter empty

end MeterTelegram.Catalogue
