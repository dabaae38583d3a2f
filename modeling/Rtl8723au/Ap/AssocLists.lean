import Rtl8723au.Ap.Handlers

/-! The state of an association and the two lists of the access point, over every run. -/
namespace Rtl8723au
open Relation
set_option autoImplicit false

end Rtl8723au
