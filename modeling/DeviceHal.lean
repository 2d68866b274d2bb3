import DeviceHal.Sensors.Operations
import DeviceHal.Sensors.Poll
import DeviceHal.Light.Lights
import DeviceHal.Camera.SensorListener
import DeviceHal.Camera.RecImgBuf
import DeviceHal.M4u.Mva
import DeviceHal.Ril.Unsol
import DeviceHal.Ril.DeviceIdentity
import DeviceHal.Ril.WakeLock
import DeviceHal.Ril.EventTimers
import DeviceHal.Ril.DataCalls
import DeviceHal.Ril.Nitz
import DeviceHal.Ril.ThreadPids
import DeviceHal.Ril.RegState
import DeviceHal.Ril.CdmaSms
import DeviceHal.Ril.CurrentCalls
import DeviceHal.Ril.CdmaInfoRecs
import DeviceHal.Ril.HexPdu
import DeviceHal.Ril.SapQueue
import DeviceHal.Ril.SapPayload
import DeviceHal.Ril.DirectDispatch
import DeviceHal.Ril.ServiceLock
import DeviceHal.Ril.LibArgs
import DeviceHal.Ril.Wakeup
import DeviceHal.Gps.Framing
import DeviceHal.Gps.GnssStatus
import DeviceHal.Gps.Epochs
import DeviceHal.Gps.FixTime
import DeviceHal.Gps.Ucs2Text
import DeviceHal.Gps.Fields
import DeviceHal.Gps.Session
import DeviceHal.Gps.Lifecycle
import DeviceHal.Gps.EpoExpiry
import DeviceHal.Wifi.Cleanup
import DeviceHal.Wifi.RequestResponse
import DeviceHal.Wifi.Slots
import DeviceHal.Wifi.Epno
import DeviceHal.Wifi.CountedLists
import DeviceHal.Wifi.RttElements
import DeviceHal.Graphics.DownSample
import DeviceHal.Graphics.VideoInfo
import DeviceHal.Graphics.Displays
import DeviceHal.Graphics.PoolObservers
import DeviceHal.Graphics.SlotKeys
import DeviceHal.Graphics.DumpTable
import DeviceHal.Graphics.SecureBuffer
import DeviceHal.Graphics.FpsCounter
import DeviceHal.Graphics.RingBuffer
import DeviceHal.Graphics.WatchDog
import DeviceHal.Graphics.RwTable
