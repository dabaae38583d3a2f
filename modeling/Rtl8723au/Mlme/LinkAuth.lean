import Rtl8723au.Mlme.Link

/-! The authentication between a station and an access point of the driver: `issue_auth` of the station, and what `OnAuth`
takes out of the bytes. With shared key the third frame has an IV in front of its fields, where `OnAuth` looks for the
sequence number, so that no join comes to an end. -/
namespace Rtl8723au
namespace Link
open Relation Mem Security Wifi
open ApFrame (wlanhdr)
open AssocReq (cpuToLe16)
set_option autoImplicit false

/-! ## Authentication frames -/

end Link
end Rtl8723au
