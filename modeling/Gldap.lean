import Gldap.Go.Outcome
import Gldap.Go.Runtime
import Gldap.Go.Goroutine
import Gldap.Go.Interleaving
import Gldap.Go.Mutex
import Gldap.Go.Strings
import Gldap.Go.Strconv
import Gldap.Go.Binary
import Gldap.Ber.Packet
import Gldap.Ber.Wire
import Gldap.Ber.Tlv
import Gldap.Codes
import Gldap.Control
import Gldap.ControlRoundTrip
import Gldap.Packet
import Gldap.Message
import Gldap.Response
import Gldap.Mux
import Gldap.Conn
import Gldap.Server
import Gldap.ValidateAddr
import Gldap.ServerRuns
import Gldap.TestDirectory
import Gldap.DirectoryRuns
import Gldap.DirectoryHandlers
import Gldap.DirectoryRouter
import Gldap.DirectoryFixtures
import Gldap.Modify
import Gldap.RequestRoundTrip
import Gldap.ResponseRoundTrip
import Gldap.Sid
import Gldap.ResponseWriter
import Gldap.DirectoryStart
import Gldap.DirectoryConn
import Gldap.ServerOrder
