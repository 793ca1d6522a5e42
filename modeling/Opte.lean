import Opte.Text
import Opte.Vni
import Opte.Api
import Opte.AddrText
import Opte.Router
import Opte.RouterMeta
import Opte.RouterAdmin
import Opte.Packet
import Opte.Wire
import Opte.Parser
import Opte.Network
import Opte.Layer
import Opte.Port
import Opte.Print
import Opte.RouterTable
import Opte.RouterRefinement
import Opte.HeaderLayout
