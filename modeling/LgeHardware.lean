import LgeHardware.Foundation.OrdMap
import LgeHardware.Foundation.Run
import LgeHardware.Foundation.BoundedQueue
import LgeHardware.Foundation.Intervals
import LgeHardware.Foundation.Ledger
import LgeHardware.Foundation.Lifecycle
import LgeHardware.Foundation.Obligations
import LgeHardware.Foundation.Custody
import LgeHardware.Foundation.Staged
import LgeHardware.Foundation.Latest
import LgeHardware.Foundation.Decimal
import LgeHardware.Foundation.Hexadecimal
import LgeHardware.Foundation.Tokens
import LgeHardware.Foundation.BitGroups
import LgeHardware.Foundation.Clamp
import LgeHardware.Foundation.Table
import LgeHardware.Foundation.Spaced
import LgeHardware.Foundation.Literal
import LgeHardware.Foundation.Buckets
import LgeHardware.Foundation.Routing
import LgeHardware.Camera.Metadata
import LgeHardware.Camera.Types
import LgeHardware.Camera.ResultBatcher
import LgeHardware.Camera.BatcherLaws
import LgeHardware.Camera.BatcherRun
import LgeHardware.Camera.BatchDelivery
import LgeHardware.Camera.FrameAttribution
import LgeHardware.Camera.RequestRace
import LgeHardware.Camera.BatchDrain
import LgeHardware.Camera.ErrorFlush
import LgeHardware.Camera.RemovedBatches
import LgeHardware.Camera.ShutterDelivery
import LgeHardware.Camera.MetadataTransparency
import LgeHardware.Camera.ErrorOrder
import LgeHardware.Camera.ReleaseFences
import LgeHardware.Camera.ResultQueue
import LgeHardware.Camera.Session
import LgeHardware.Camera.Configure
import LgeHardware.Camera.CaptureRequest
import LgeHardware.Camera.RequestLaws
import LgeHardware.Camera.RequestSteps
import LgeHardware.Camera.ConfigureSteps
import LgeHardware.Camera.RequestAtomicity
import LgeHardware.Camera.RequestQueue
import LgeHardware.Camera.PhysicalSettings
import LgeHardware.Camera.ResultMetadata
import LgeHardware.Camera.SensitivityBoost
import LgeHardware.Camera.PrecaptureCancel
import LgeHardware.Camera.CaptureResult
import LgeHardware.Camera.ResultAtomicity
import LgeHardware.Camera.InflightRecords
import LgeHardware.Camera.InflightDrain
import LgeHardware.Camera.BufferLedger
import LgeHardware.Camera.ResultPipeline
import LgeHardware.Camera.DeliveredOnce
import LgeHardware.Camera.SessionCalls
import LgeHardware.Camera.DeviceClosed
import LgeHardware.Camera.BufferCustody
import LgeHardware.Camera.StreamTables
import LgeHardware.Camera.ConfigureAtomicity
import LgeHardware.Camera.FreeBufEarly
import LgeHardware.Camera.CameraDevice
import LgeHardware.Camera.DeviceQueries
import LgeHardware.Camera.ClosedOnce
import LgeHardware.Provider.CameraProvider
import LgeHardware.Provider.DeviceTable
import LgeHardware.Provider.Blacklist
import LgeHardware.Provider.Service
import LgeHardware.Provider.NameLookup
import LgeHardware.Provider.ResourceCost
import LgeHardware.Provider.VendorTags
import LgeHardware.Provider.OneSession
import LgeHardware.Provider.StatusCallback
import LgeHardware.Provider.Unplug
import LgeHardware.Dac.DacControl
import LgeHardware.Dac.Settings
import LgeHardware.Dac.Refusal
import LgeHardware.Dac.Frame
import LgeHardware.Dac.Restore
import LgeHardware.Dac.Persistence
import LgeHardware.Dac.AdvertisedValues
import LgeHardware.Dac.CustomFilter
import LgeHardware.Dac.FilterShape
import LgeHardware.Dac.PanelFragment
import LgeHardware.Dac.PanelSettings
import LgeHardware.Dac.BalancePreference
import LgeHardware.Amplifier.LgeAmplifier
import LgeHardware.Amplifier.Held
import LgeHardware.Amplifier.Frame
import LgeHardware.Amplifier.HifiPath
import LgeHardware.Amplifier.HifiRequest
import LgeHardware.Amplifier.Feedback
import LgeHardware.Sensors.OneShot
import LgeHardware.Sensors.LateEvent
import LgeHardware.Fingerprint.BiometricsFingerprint
import LgeHardware.Fingerprint.FodPairing
import LgeHardware.Sensors.Teardown
import LgeHardware.Sensors.SubHal
import LgeHardware.Sensors.Continuous
import LgeHardware.Sensors.HandleTable
import LgeHardware.Sensors.Sampling
import LgeHardware.Light.Lights
import LgeHardware.Light.Backlight
import LgeHardware.Light.Led
import LgeHardware.Haptics.Vibrator
import LgeHardware.Haptics.Packets
import LgeHardware.Haptics.Amplitude
import LgeHardware.RadioService.Interface
import LgeHardware.RadioService.Radio
import LgeHardware.RadioService.Answered
import LgeHardware.RadioService.RadioResponse
import LgeHardware.RadioService.DataRoaming
import LgeHardware.RadioService.DataCallList
import LgeHardware.RadioService.NetworkType
import LgeHardware.RadioService.AllowedCarriers
import LgeHardware.Display.DisplayModes
import LgeHardware.Touch.TouchscreenGesture
