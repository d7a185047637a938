import MeterTelegram.Catalogue.Builtin

namespace MeterTelegram.SelfCheck

/-! Telegrams received from real meters, and what they say. -/

/-- A telegram and what it says. The temperatures are those of the room and the
radiator; `length` counts payload bytes up to the end of the last field. -/
structure Sample where
  telegram : Text
  decoder : Text
  id : Text
  pastDate : Date
  past : Binary64
  currentDate : Date
  current : Binary64
  unit : MeterUnit
  temperatures : Option (Binary64 × Binary64)
  length : Nat
deriving DecidableEq, Repr

namespace Sample

def counters (sample : Sample) : List Record :=
  [ ⟨.currentVolume, .scalar sample.current sample.unit⟩,
    ⟨.currentReadingDate, .dateTime sample.currentDate⟩,
    ⟨.pastVolume, .scalar sample.past sample.unit⟩,
    ⟨.pastReadingDate, .dateTime sample.pastDate⟩ ]

def felt (sample : Sample) : List Record :=
  match sample.temperatures with
  | none => []
  | some (room, radiator) =>
      [ ⟨.roomTemperature, .quantity room .celsius⟩,
        ⟨.radiatorTemperature, .quantity radiator .celsius⟩ ]

/-- All records of the sample, received at a signal strength. -/
def records (sample : Sample) (signal : Int) : List Record :=
  sample.counters ++ [⟨.signalStrength, .integer signal⟩] ++ sample.felt

end Sample

def allocator94Sample : Sample :=
  { telegram :=
      "33446850341211119480A20F9F292D005024040011BD0838090400000007000000000000000000000000" ++
        "0001000000000003140E"
    decoder := "fhkvdataiii_94"
    id := "11111234"
    pastDate := ⟨2020, 12, 31⟩
    past := 45.0
    currentDate := ⟨2021, 2, 5⟩
    current := 4.0
    unit := .heatCost
    temperatures := some (22.37, 23.6)
    length := 15 }

def allocator69Sample : Sample :=
  { telegram :=
      "31446850226677116980A0119F27020480048300C408F709143C003D341A2B0B2A070700000000000006" ++
        "2D114457563D71A1850000"
    decoder := "fhkvdataiii_69"
    id := "11776622"
    pastDate := ⟨2019, 12, 31⟩
    past := 1026.0
    currentDate := ⟨2020, 2, 8⟩
    current := 131.0
    unit := .heatCost
    temperatures := some (22.44, 25.51)
    length := 14 }

def otherAllocator69Sample : Sample :=
  { telegram :=
      "32446850591266506980A0119F23CF07E0169A01680845091A000100000200000000000000000000110B" ++
        "0020361D221F6E9287490000"
    decoder := "fhkvdataiii_69"
    id := "50661259"
    pastDate := ⟨2017, 12, 31⟩
    past := 1999.0
    currentDate := ⟨2018, 11, 14⟩
    current := 410.0
    unit := .heatCost
    temperatures := some (21.52, 23.73)
    length := 14 }

def allocator64Sample : Sample :=
  { telegram :=
      "2E446850382041606480A0119F236800D016410000000000000000000000000000000000000009090F11" ++
        "0F0C09000FDA0000"
    decoder := "fhkvdataiii_64"
    id := "60412038"
    pastDate := ⟨2017, 12, 31⟩
    past := 104.0
    currentDate := ⟨2018, 11, 13⟩
    current := 65.0
    unit := .heatCost
    temperatures := none
    length := 10 }

def coldWaterSample : Sample :=
  { telegram :=
      "2F446850122320417472A2069F23B301D016B50000000609090908080C09080A0A0A0A09080907080609" ++
        "090707060707000000"
    decoder := "mkradio3"
    id := "41202312"
    pastDate := ⟨2017, 12, 31⟩
    past := 43.5
    currentDate := ⟨2018, 11, 13⟩
    current := 18.1
    unit := .cubicMetre
    temperatures := none
    length := 10 }

def warmWaterSample : Sample :=
  { telegram :=
      "2F446850878465427462A2069F234B00D016150000000101010100010100000100000101020201020201" ++
        "020101020201E60000"
    decoder := "mkradio3"
    id := "42658487"
    pastDate := ⟨2017, 12, 31⟩
    past := 7.5
    currentDate := ⟨2018, 11, 13⟩
    current := 2.1
    unit := .cubicMetre
    temperatures := none
    length := 10 }

def otherWarmWaterSample : Sample :=
  { telegram :=
      "2F446850313233347462A2069F255900B029310000000306060906030609070606050509050505050407" ++
        "040605070500"
    decoder := "mkradio3"
    id := "34333231"
    pastDate := ⟨2018, 12, 31⟩
    past := 8.9
    currentDate := ⟨2019, 4, 27⟩
    current := 4.9
    unit := .cubicMetre
    temperatures := none
    length := 10 }

def waterMeter4Sample : Sample :=
  { telegram :=
      "2F446850200141029562A206702901006017030004000300000000000000000000000000000000000000" ++
        "000000000000"
    decoder := "mkradio4"
    id := "02410120"
    pastDate := ⟨2020, 11, 16⟩
    past := 0.1
    currentDate := ⟨2020, 11, 22⟩
    current := 0.3
    unit := .cubicMetre
    temperatures := none
    length := 10 }

def samples : List Sample :=
  [ allocator94Sample, allocator69Sample, otherAllocator69Sample, allocator64Sample,
    coldWaterSample, warmWaterSample, otherWarmWaterSample, waterMeter4Sample ]

/-- The telegram of a smoke detector, which no decoder handles. -/
def smokeTelegram : Text :=
  "294468507764866476F0A000DE246F2500586F2500001A000013006BA1007CB2008DC3009ED4000FE500" ++
        "EE0000"

end MeterTelegram.SelfCheck
