import Pyroscope.Go.Basic
import Pyroscope.Go.Url
import Pyroscope.Discovery.Target
import Pyroscope.Discovery.Endpoints
import Pyroscope.Discovery.KubeDiscovery
import Pyroscope.QueryBackend.Request
import Pyroscope.QueryBackend.BlockReader
