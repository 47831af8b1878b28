import LuomuLibpcap.Basic
import LuomuLibpcap.Address
import LuomuLibpcap.Debug
import LuomuLibpcap.Capture
import LuomuLibpcap.Interface
import LuomuLibpcap.Enumeration
import LuomuLibpcap.Lifecycle
