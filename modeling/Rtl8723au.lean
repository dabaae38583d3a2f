import Rtl8723au.Library.SerialNumber
import Rtl8723au.Library.AccessM
import Rtl8723au.Library.Tlv
import Rtl8723au.Library.Intrusive
import Rtl8723au.Include.RecvFrame
import Rtl8723au.Recv.Reorder
import Rtl8723au.Recv.ReorderInvariant
import Rtl8723au.Recv.ReorderDelivery
import Rtl8723au.Include.Wifi
import Rtl8723au.Library.Ccm
import Rtl8723au.Security.Aes
import Rtl8723au.Security.Ccmp
import Rtl8723au.Security.CcmpRoundTrip
import Rtl8723au.Library.Crc32
import Rtl8723au.Security.Arcfour
import Rtl8723au.Security.CcmpBinding
import Rtl8723au.Include.Adapter
import Rtl8723au.Security.SwDecrypt
import Rtl8723au.Security.DecryptBounds
import Rtl8723au.Security.DecryptVerified
import Rtl8723au.Recv.EthHdr
import Rtl8723au.Recv.Portctrl
import Rtl8723au.Recv.ShortFrames
import Rtl8723au.Ap.Assoc
import Rtl8723au.Ap.Expire
import Rtl8723au.Ap.Table
import Rtl8723au.Ap.TableInvariant
import Rtl8723au.Ap.Events
import Rtl8723au.Ap.Leaving
import Rtl8723au.Ap.Joining
import Rtl8723au.Ap.Ageing
import Rtl8723au.Ap.Handlers
import Rtl8723au.Ap.AssocLists
import Rtl8723au.Ap.StaTable
import Rtl8723au.Ap.AssocIds
import Rtl8723au.Ap.BssCounters
import Rtl8723au.Ap.Beacon
import Rtl8723au.Ap.BcnTim
import Rtl8723au.Ap.BcnCap
import Rtl8723au.Ap.BcnProtection
import Rtl8723au.Ap.BcnFollows
import Rtl8723au.Include.Xmit
import Rtl8723au.Xmit.Attrib
import Rtl8723au.Security.SwEncrypt
import Rtl8723au.Security.Michael
import Rtl8723au.Xmit.Coalesce
import Rtl8723au.Xmit.CoalesceLoop
import Rtl8723au.Xmit.Dump
import Rtl8723au.Recv.DataAttrib
import Rtl8723au.Recv.DefragRuns
import Rtl8723au.Recv.BlockAck
import Rtl8723au.Xmit.OneMpdu
import Rtl8723au.Xmit.RoundTrip
import Rtl8723au.Xmit.Fragments
import Rtl8723au.Xmit.Addmic
import Rtl8723au.Xmit.PacketNumber
import Rtl8723au.Xmit.Sealed
import Rtl8723au.Xmit.SleepRuns
import Rtl8723au.Xmit.DozeRuns
import Rtl8723au.Sta.Removal
import Rtl8723au.Library.Ring
import Rtl8723au.Hal.H2c
import Rtl8723au.Library.LateWrites
import Rtl8723au.Ap.StaKeys
import Rtl8723au.Ap.StaKeysTable
import Rtl8723au.Ap.StaKeysRuns
import Rtl8723au.Mlme.Scanned
import Rtl8723au.Mlme.ScannedTable
import Rtl8723au.Mlme.ScannedRuns
import Rtl8723au.Cmd.Thread
import Rtl8723au.Cmd.ThreadRuns
import Rtl8723au.Mlme.Join
import Rtl8723au.Mlme.JoinRuns
import Rtl8723au.Mlme.JoinForeign
import Rtl8723au.Library.ElementWalk
import Rtl8723au.Library.Regions
import Rtl8723au.Mlme.JoinRequest
import Rtl8723au.Mlme.JoinRequestSteps
import Rtl8723au.Mlme.JoinRequestHandlers
import Rtl8723au.Mlme.JoinRequestRuns
import Rtl8723au.Mlme.AssocReq
import Rtl8723au.Mlme.AssocReqParts
import Rtl8723au.Mlme.AssocReqVendor
import Rtl8723au.Mlme.AssocReqFaithful
import Rtl8723au.P2p.GoNego
import Rtl8723au.P2p.GoNegoRoles
import Rtl8723au.Hal.Efuse
import Rtl8723au.Hal.EfuseLog
import Rtl8723au.Hal.EfuseScan
import Rtl8723au.Hal.EfuseWrite
import Rtl8723au.Hal.EfuseBanks
import Rtl8723au.Hal.EfuseMap
import Rtl8723au.Library.GuardedRuns
import Rtl8723au.Xmit.SubmitCtx
import Rtl8723au.Xmit.AckTx
import Rtl8723au.Library.FreePool
import Rtl8723au.Xmit.MgntDump
import Rtl8723au.Xmit.MgntDumpRuns
import Rtl8723au.Pwrctrl.PowerState
import Rtl8723au.Ioctl.SetEncryption
import Rtl8723au.Ioctl.KeyInstall
import Rtl8723au.Ioctl.KeyInstallRuns
import Rtl8723au.Ioctl.HostapdIoctl
import Rtl8723au.Ioctl.WpaSupplicantIoctl
import Rtl8723au.Ioctl.KeyBounds
import Rtl8723au.Ioctl.HostapdBounds
import Rtl8723au.Ioctl.SupplicantBounds
import Rtl8723au.Ap.OdmStaInfo
import Rtl8723au.Ap.Departures
import Rtl8723au.Ap.OdmStaInfoRuns
import Rtl8723au.Ap.MacIdTruth
import Rtl8723au.Ieee80211.ParseElems
import Rtl8723au.Ieee80211.GetIeBounds
import Rtl8723au.Ieee80211.RemoveP2pAttr
import Rtl8723au.Hal.EfuseSection
import Rtl8723au.Hal.EfuseProgram
import Rtl8723au.Recv.AmsduOwned
import Rtl8723au.OsDep.Cbuf
import Rtl8723au.Hal.FwDownload
import Rtl8723au.Mlme.Edca
import Rtl8723au.Ap.Acl
import Rtl8723au.Ap.BcnIe
import Rtl8723au.Library.InPlaceFilter
import Rtl8723au.Mlme.ChannelSet
import Rtl8723au.Mlme.CountryIe
import Rtl8723au.Mlme.CountryPlan
import Rtl8723au.Mlme.SurveyChannels
import Rtl8723au.P2p.Channels
import Rtl8723au.Mlme.BcnCheck
import Rtl8723au.Library.PolledWrites
import Rtl8723au.Hal.Llt
import Rtl8723au.Library.CheckedArith
import Rtl8723au.Hal.Rssi
import Rtl8723au.Hal.Dig
import Rtl8723au.Library.PackedLanes
import Rtl8723au.Hal.TxPower
import Rtl8723au.Cmd.CreateBss
import Rtl8723au.Mlme.Countermeasure
import Rtl8723au.Mlme.CountermeasureRuns
import Rtl8723au.Library.RegionFrame
import Rtl8723au.Hal.RsvdPage
import Rtl8723au.Hal.RsvdPageSound
import Rtl8723au.Mlme.JoinBss
import Rtl8723au.Mlme.JoinBssSec
import Rtl8723au.Mlme.JoinBssWmm
import Rtl8723au.Mlme.JoinBssHt
import Rtl8723au.Mlme.JoinBssSound
import Rtl8723au.Ap.BeaconData
import Rtl8723au.Ap.BeaconSearch
import Rtl8723au.Ap.BeaconCiphers
import Rtl8723au.Ap.BeaconSteps
import Rtl8723au.Ap.BeaconTold
import Rtl8723au.Security.Crc32Table
import Rtl8723au.Mlme.ApFrame
import Rtl8723au.Mlme.ApFrameBuild
import Rtl8723au.Mlme.ApBeacon
import Rtl8723au.Mlme.ApProberspBytes
import Rtl8723au.Mlme.ApProbersp
import Rtl8723au.Recv.RecvBuf
import Rtl8723au.Recv.RxUrb
import Rtl8723au.Mlme.Link
import Rtl8723au.OsDep.TxQueues
import Rtl8723au.Mlme.LinkAuth
import Rtl8723au.Mlme.Survey
