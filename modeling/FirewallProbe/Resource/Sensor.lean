import FirewallProbe.FanOut
import FirewallProbe.Measurement
import FirewallProbe.Routine

/-! # Hardware sensors

A sensor without a reading, such as an absent fan, reports its alarm state only. -/

namespace FirewallProbe

/-- The limits of a sensor. -/
structure Thresholds where
  lowerCritical : Option Float := none
  upperCritical : Option Float := none

/-- How the limits of a sensor are read. -/
def Thresholds.record : Record Json Thresholds where
  name := "Thresholds"
  blank := {}
  fields := [
    .optional "lower_critical" (Decoder.nullable Decoder.double)
      fun v t => { t with lowerCritical := v },
    .optional "upper_critical" (Decoder.nullable Decoder.double)
      fun v t => { t with upperCritical := v }]

/-- A sensor. -/
structure Sensor where
  name : String := ""
  kind : String := ""
  value : Option Float := none
  alarm : Bool := false
  thresholds : Option Thresholds := none

namespace Sensor

/-- How a sensor is read. -/
def record : Record Json Sensor where
  name := "Sensor"
  blank := {}
  fields := [
    .optional "name" Decoder.text fun v s => { s with name := v },
    .optional "type" Decoder.text fun v s => { s with kind := v },
    .optional "value" (Decoder.nullable Decoder.double) fun v s => { s with value := v },
    .optional "alarm" Decoder.bool fun v s => { s with alarm := v },
    .optional "thresholds" (Decoder.nullable (Decoder.record Thresholds.record))
      fun v s => { s with thresholds := v }]

/-- The states of an alarm. -/
def alarmStates : List String := ["normal", "alarm"]

/-- The state of the alarm of `s`. -/
def alarmState (s : Sensor) : String := if s.alarm then "alarm" else "normal"

/-- The labels of the metrics of a sensor. -/
def labelNames : List String := ["name", "type"]

def alarmStatus : Family := .gauge "fortigate_sensor_alarm_status"
  "Alarm state of the hardware sensor" ["name", "type", "state"]

def valueFamily : Family := .gauge "fortigate_sensor_value"
  "Current sensor reading (celsius, rpm or volts)" labelNames

def lowerCritical : Family := .gauge "fortigate_sensor_lower_critical_threshold"
  "Lower critical threshold of the sensor" labelNames

def upperCritical : Family := .gauge "fortigate_sensor_upper_critical_threshold"
  "Upper critical threshold of the sensor" labelNames

/-- What is reported about a sensor that has a reading. -/
def measurements : List (Measurement Sensor) := [
  valueFamily.ofOption (·.value),
  lowerCritical.ofOption fun s => s.thresholds.bind (·.lowerCritical),
  upperCritical.ofOption fun s => s.thresholds.bind (·.upperCritical)]

/-- The samples of the sensor `s`. -/
def samples (s : Sensor) : List Sample :=
  alarmStatus.samplePerState [s.name, s.kind] s.alarmState alarmStates ++
    if s.value.isSome then Measurement.samples measurements [s.name, s.kind] s else []

/-- Reports the hardware sensors. -/
def routine : Routine :=
  .ofEndpoint "system_sensor_info" (some ⟨7, 0⟩)
    (Envelope.decoder (Decoder.list (Decoder.record record)))
    "monitor/system/sensor-info" "" fun e => e.results.flatMap samples

end Sensor
end FirewallProbe
