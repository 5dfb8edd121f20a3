import AirMonitor.Loop
import AirMonitor.Bmp280
import AirMonitor.Pressure
import AirMonitor.DriverFrame
import AirMonitor.Publication
import AirMonitor.Recovery
import AirMonitor.Si7021
import AirMonitor.Blocks
import AirMonitor.Co2
import AirMonitor.Co2Frames
import AirMonitor.Co2Link
import AirMonitor.AppMain
import AirMonitor.Json
import AirMonitor.Http
import AirMonitor.Report
import AirMonitor.Calls
import AirMonitor.Co2Damage
import AirMonitor.Co2Task
import AirMonitor.Paths
import AirMonitor.Setup
import AirMonitor.Machine
import AirMonitor.Wifi
import AirMonitor.Delivery
import AirMonitor.Liveness
import AirMonitor.Reconnect
import AirMonitor.BitField
import AirMonitor.Bmp280Api
import AirMonitor.Settings
import AirMonitor.Record
import AirMonitor.I2c
import AirMonitor.BusLink
import AirMonitor.Operating
import AirMonitor.Co2Recovery
import AirMonitor.Si7021Link
import AirMonitor.Numbers
import AirMonitor.Precision
import AirMonitor.Forced
import AirMonitor.Registers
