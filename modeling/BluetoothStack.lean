import BluetoothStack.ByteBuffer
import BluetoothStack.StepRun
import BluetoothStack.BtTypes
import BluetoothStack.HciPacketFragmenter
import BluetoothStack.HciReassemblySafety
import BluetoothStack.HciFragmentRoundTrip
import BluetoothStack.GattPermission
import BluetoothStack.AvrcpPacket
import BluetoothStack.AvrcpFolderItems
import BluetoothStack.AvrcpRequests
import BluetoothStack.AvrcpDevice
import BluetoothStack.AvrcpBuilders
import BluetoothStack.AvrcpLabels
import BluetoothStack.L2capErtm
import BluetoothStack.L2capSar
import BluetoothStack.L2capLeCoc
import BluetoothStack.L2capSignalling
import BluetoothStack.RfcommFrames
import BluetoothStack.SdpDiscovery
import BluetoothStack.AdvertiseData
import BluetoothStack.AssocMap
import BluetoothStack.MediaIdMap
import BluetoothStack.SdpDb
import BluetoothStack.SdpServer
import BluetoothStack.MsgAsmbl
import BluetoothStack.AvdtMsg
import BluetoothStack.AvctLcb
import BluetoothStack.P256Arith
import BluetoothStack.P256Ecc
import BluetoothStack.AesCmac
import BluetoothStack.SmpCmac
import BluetoothStack.RfcommMx
import BluetoothStack.AvrcpValidity
import BluetoothStack.AvrcpAttributeResponse
import BluetoothStack.A2dpAac
import BluetoothStack.BitMasks
import BluetoothStack.A2dpCodecInfo
import BluetoothStack.CyclicQueue
import BluetoothStack.OsiRingbuffer
import BluetoothStack.CText
import BluetoothStack.KeyedList
import BluetoothStack.OsiConfig
import BluetoothStack.IdentifierStrings
import BluetoothStack.LinkedHeap
import BluetoothStack.OsiList
import BluetoothStack.Interleaving
import BluetoothStack.Semaphore
import BluetoothStack.FixedQueue
