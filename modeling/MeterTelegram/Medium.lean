import MeterTelegram.Manufacturer

namespace MeterTelegram

/-! What a device measures. The device types of one manufacturer come first,
then the types all manufacturers share. -/

inductive Medium where
  | other
  | heat
  | warmWater
  | warmWaterMeter
  | water
  | heatCost
  | hotWater
  | coldWater
  | coldWaterMeter
  | smoke
  | room
  | unknown
deriving DecidableEq, Repr

namespace Medium

def techem? (deviceType : Int) : Option Medium :=
  match deviceType with
  | 0x62 => some warmWater
  | 0x72 => some coldWater
  | 0x80 => some heatCost
  | 0xC3 => some heat
  | 0x43 => some heat
  | 0xF0 => some smoke
  | _ => none

def shared (deviceType : Int) : Medium :=
  match deviceType with
  | 0x00 => other
  | 0x04 => heat
  | 0x06 => warmWaterMeter
  | 0x07 => water
  | 0x08 => heatCost
  | 0x15 => hotWater
  | 0x16 => coldWaterMeter
  | 0x1A => smoke
  | 0x1B => room
  | _ => unknown

def ofDevice (deviceType manufacturer : Int) : Medium :=
  if manufacturer = Manufacturer.techem then (techem? deviceType).getD (shared deviceType)
  else shared deviceType

/-- The medium as log messages describe it. -/
def description : Medium → Text
  | other => "Other"
  | heat => "Heat meter"
  | warmWater => "Warm water"
  | warmWaterMeter => "Warm Water (30°C-90°C) meter"
  | water => "Water meter"
  | heatCost => "Heat Cost Allocator"
  | hotWater => "Hot water (>=90°C) meter"
  | coldWater => "Cold water"
  | coldWaterMeter => "Cold water meter"
  | smoke => "Smoke detector"
  | room => "Room sensor (eg temperature or humidity)"
  | unknown => "Unknown"

/-- The medium as reports name it. -/
def name : Medium → Text
  | other => "other"
  | heat => "heat"
  | warmWater => "warm water"
  | warmWaterMeter => "warm water"
  | water => "water"
  | heatCost => "heat cost allocation"
  | hotWater => "hot water"
  | coldWater => "cold water"
  | coldWaterMeter => "cold water"
  | smoke => "smoke detector"
  | room => "room sensor"
  | unknown => "unknown"

end Medium

end MeterTelegram
