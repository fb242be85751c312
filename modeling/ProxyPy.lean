import ProxyPy.Common.Double
import ProxyPy.Common.Leakage
import ProxyPy.Common.Leakage.Run
import ProxyPy.Common.Leakage.Polling
import ProxyPy.Common.Leakage.Burst
import ProxyPy.Common.Flag
import ProxyPy.Core.Listener.Tcp
import ProxyPy.Proxy.PortFile
import ProxyPy.Proxy.Lifecycle
import ProxyPy.Proxy.Grout
