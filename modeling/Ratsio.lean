import Ratsio.Ops
import Ratsio.Net.Connection
import Ratsio.Net.ConnectionLemmas
import Ratsio.Net.Dial
import Ratsio.Net.Recovery
import Ratsio.Client.Multiplexer
import Ratsio.Client.MultiplexerLemmas
import Ratsio.Client.Connect
import Ratsio.Client.Client
import Ratsio.Client.ClientLemmas
import Ratsio.Client.Registry
import Ratsio.Client.Pinger
import Ratsio.Client.Streams
import Ratsio.Client.Handler
import Ratsio.Client.Request
import Ratsio.Client.Tasks
import Ratsio.Client.Delivery
import Ratsio.Client.Recovery
