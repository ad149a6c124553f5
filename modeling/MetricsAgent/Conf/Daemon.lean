import MetricsAgent.Conf.Outline
import MetricsAgent.Link.SocketPath
import MetricsAgent.Settings.Identity

/-!
# The daemon's main configuration file

It names the node, the directories and the socket, loads the plugins, and includes the upload
configuration.
-/

namespace MetricsAgent

/-- What the daemon is configured with. -/
structure DaemonConf where
  root : String
  logDir : String
  /-- Where the daemon listens, as bytes. -/
  socketPath : ByteArray
  /-- Where the daemon notes its process. -/
  pidFile : String
  confFile : String
  uploadConfFile : String
  identity : Identity

namespace DaemonConf

/-- The values in the file. -/
inductive Field where
  | host
  | cluster
  | datacenter
  | rack
  | root
  | logDir
  | socket
  | uploadConf
  deriving DecidableEq, Repr

open Conf.Line in
/-- The lines of the file. -/
def outline : Conf.Outline Field := [
  fixed "# Generated by mcac-agent, changes are overwritten when the daemon restarts.",
  quoted "Hostname" .host,
  fixed "FQDNLookup false",
  quoted "BaseDir" .root,
  quoted "PluginDir" .root "/usr/lib/collectd",
  quoted "TypesDB" .root "/usr/share/collectd/types.db",
  fixed "Interval 10",
  fixed "WriteQueueLimitHigh 500000",
  fixed "WriteQueueLimitLow 400000",
  fixed "CollectInternalStats true",
  fixed "",
  fixed "LoadPlugin logfile",
  fixed "<Plugin logfile>",
  fixed "  LogLevel info",
  quoted "  File" .logDir "/mcac-collectd.log",
  fixed "  Timestamp true",
  fixed "  PrintSeverity true",
  fixed "</Plugin>",
  fixed "",
  fixed "LoadPlugin unixsock",
  fixed "<Plugin unixsock>",
  quoted "  SocketFile" .socket,
  fixed "  SocketPerms \"0600\"",
  fixed "  DeleteSocket true",
  fixed "</Plugin>",
  fixed "",
  fixed "LoadPlugin cpu",
  fixed "LoadPlugin df",
  fixed "LoadPlugin disk",
  fixed "LoadPlugin interface",
  fixed "LoadPlugin load",
  fixed "LoadPlugin memory",
  fixed "LoadPlugin swap",
  fixed "",
  fixed "<Plugin df>",
  fixed "  IgnoreSelected true",
  fixed "  FSType \"tmpfs\"",
  fixed "  FSType \"devtmpfs\"",
  fixed "  ReportInodes true",
  fixed "</Plugin>",
  fixed "",
  fixed "<Plugin interface>",
  fixed "  Interface \"lo\"",
  fixed "  IgnoreSelected true",
  fixed "</Plugin>",
  fixed "",
  fixed "LoadPlugin match_regex",
  fixed "LoadPlugin target_set",
  fixed "<Chain \"PreCache\">",
  fixed "  <Rule \"add_topology_tags\">",
  fixed "    <Match regex>",
  fixed "      Host \".*\"",
  fixed "    </Match>",
  fixed "    <Target \"set\">",
  quoted "      MetaData \"cluster\"" .cluster,
  quoted "      MetaData \"dc\"" .datacenter,
  quoted "      MetaData \"rack\"" .rack,
  fixed "    </Target>",
  fixed "  </Rule>",
  fixed "</Chain>",
  fixed "",
  quoted "Include" .uploadConf]

/-- What is filled in. -/
def value (c : DaemonConf) : Field → String
  | .host => c.identity.host
  | .cluster => c.identity.cluster
  | .datacenter => c.identity.datacenter
  | .rack => c.identity.rack
  | .root => c.root
  | .logDir => c.logDir
  | .socket => SocketPath.text c.socketPath
  | .uploadConf => c.uploadConfFile

/-- The text of the file. -/
def text (c : DaemonConf) : String :=
  outline.fill c.value

end DaemonConf

end MetricsAgent
