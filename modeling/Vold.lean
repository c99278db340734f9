import Vold.Volume
import Vold.Kernel
import Vold.World
import Vold.Trace
import Vold.Paths
import Vold.Unmount
import Vold.Mount
import Vold.Format
import Vold.Naming
import Vold.DoMount
import Vold.Session
import Vold.Bridge
import Vold.Footprint
import Vold.Poll
import Vold.Coldboot
import Vold.Daemon
import Vold.Config
import Vold.Main
import Vold.Logger
