import Rama.Net.Address
import Rama.Net.Text
import Rama.Net.Parse
import Rama.Service.Context
import Rama.Service.Io
import Rama.Service.Layer
import Rama.Proxy.V1
import Rama.Proxy.V2
import Rama.Proxy.Client
import Rama.Proxy.ClientSpec
import Rama.Proxy.Session
import Rama.Http.UserAgent
import Rama.Fp.Report
import Rama.Fp.Api
