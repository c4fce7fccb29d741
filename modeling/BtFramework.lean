import BtFramework.A2dpSourceAudio
import BtFramework.AdapterBond
import BtFramework.AdapterControl
import BtFramework.AdapterPublish
import BtFramework.AdapterShutdown
import BtFramework.AdapterState
import BtFramework.AdapterTimer
import BtFramework.AdvFailedStart
import BtFramework.AdvIdentity
import BtFramework.AdvertiserData
import BtFramework.AgAudioReports
import BtFramework.AgDial
import BtFramework.AgVirtualCall
import BtFramework.AudioTransport
import BtFramework.BondNotifications
import BtFramework.BondStore
import BtFramework.BtAddr
import BtFramework.CStruct
import BtFramework.Chunks
import BtFramework.CsSession
import BtFramework.Eviction
import BtFramework.FlatBuffer
import BtFramework.Framing
import BtFramework.GattAddElements
import BtFramework.GattCache
import BtFramework.GattDiscoverQueue
import BtFramework.GattDiscovery
import BtFramework.GattNotices
import BtFramework.GattRanges
import BtFramework.GattRebuild
import BtFramework.GattRouting
import BtFramework.GattServer
import BtFramework.GattServerTables
import BtFramework.GattSubscriptions
import BtFramework.GattWalk
import BtFramework.GattsElementIds
import BtFramework.GattsPhy
import BtFramework.HciH4
import BtFramework.HfCallList
import BtFramework.HfPolicy
import BtFramework.HfQueries
import BtFramework.HfpMachines
import BtFramework.HfpOffload
import BtFramework.Hsm
import BtFramework.IndexAllocator
import BtFramework.InstanceRegistry
import BtFramework.IpcClient
import BtFramework.IpcDelivery
import BtFramework.IpcLink
import BtFramework.IpcOutput
import BtFramework.IpcPacket
import BtFramework.IpcServer
import BtFramework.L2capChannel
import BtFramework.L2capConnects
import BtFramework.L2capCredits
import BtFramework.L2capIds
import BtFramework.L2capIsolation
import BtFramework.L2capLifetime
import BtFramework.L2capManager
import BtFramework.L2capOps
import BtFramework.L2capPsm
import BtFramework.L2capReassembly
import BtFramework.L2capSduLength
import BtFramework.L2capTxQuota
import BtFramework.LeBondUpdate
import BtFramework.PowerManager
import BtFramework.PowerModes
import BtFramework.RasFilter
import BtFramework.RasFormat
import BtFramework.RasHeaderBits
import BtFramework.RasLostSegments
import BtFramework.RasOdSegments
import BtFramework.RasOdTransfer
import BtFramework.RasOnDemand
import BtFramework.RasProcedures
import BtFramework.RasQueues
import BtFramework.RasRealTime
import BtFramework.RasRtQueue
import BtFramework.RasRtSegments
import BtFramework.RasSends
import BtFramework.RasServer
import BtFramework.RasSubscription
import BtFramework.RasTypes
import BtFramework.Reconnection
import BtFramework.RemoteUuids
import BtFramework.Runs
import BtFramework.SalConnectRequest
import BtFramework.SalConnectionLists
import BtFramework.SalConnectionManager
import BtFramework.SalUnpair
import BtFramework.SbcStream
import BtFramework.ScanIsolation
import BtFramework.ScanRegistry
import BtFramework.ScanUuids
import BtFramework.ServiceBarrier
import BtFramework.ServiceManager
import BtFramework.SnoopChannels
import BtFramework.SnoopFilter
import BtFramework.SnoopTraffic
import BtFramework.SnoopVerdicts
import BtFramework.SppFlow
import BtFramework.SppReceive
import BtFramework.SppTransmit
import BtFramework.StorageDetect
import BtFramework.StorageNames
import BtFramework.StorageProperty
import BtFramework.StorageRoundTrip
import BtFramework.StorageSaveFailure
import BtFramework.StorageTool
import BtFramework.StorageUpdate
import BtFramework.StorageUpgrade
import BtFramework.UuidText
