import Airio.Future
import Airio.Future.Util
import Airio.Transport
import Airio.Socket
import Airio.Muxing
import Airio.Tcp
import Airio.Tcp.Ws
import Airio.Quic
import Airio.Quic.Stream
import Airio.Quic.Connecting
import Airio.Quic.Muxer
import Airio.Upgrade
import Airio.Upgrade.Apply
import Airio.Upgrade.Select
import Airio.Transport.AndThen
import Airio.Transport.Map
import Airio.Transport.MapErr
import Airio.Transport.Upgrade
import Airio.Transport.Stack
